import WorkspaceIndex.Proofs.Path.Absolute
/-!
# When two paths are the same

Two spellings name the same path when they have the same components. What that comes to for the
spellings themselves is said by `same_iff`: both start at the root or neither does, both start with
a lone `.` or neither does, and the visible pieces are the same. So the empty pieces that come of
repeated separators and of one at the end do not count, nor does any `.` but a leading one, while
`..` is a visible piece like every name.
-/

namespace WorkspaceIndex.Path

variable {p q : Path}

instance : DecidablePred IsVisible := fun _ ↦ inferInstanceAs (Decidable (_ ∧ _))

/-- The visible pieces of a path. -/
def visiblePieces (p : Path) : List OsText := p.pieces.filter (IsVisible ·)

/-- Whether the first piece of a path is a lone `.`. -/
def startsCurrent (p : Path) : Bool := p.pieces.head? == some [.char '.']

/-! ### Components by pieces -/

/-- The component that a visible piece stands for. -/
def stepOf (piece : OsText) : Component :=
  if piece = [.char '.', .char '.'] then .above else .name piece

/-- Whether a component can stand at the start of a path only. -/
def isStart : Component → Bool
  | .root | .current => true
  | .above | .name _ => false

theorem isStart_stepOf (piece : OsText) : isStart (stepOf piece) = false := by
  rw [stepOf]
  split <;> rfl

theorem stepOf_injective : Function.Injective stepOf := by
  intro a b h
  simp only [stepOf] at h
  split at h <;> split at h
  · simp_all
  · cases h
  · cases h
  · exact Component.name.inj h

theorem component?_eq (piece : OsText) :
    component? piece = if IsVisible piece then some (stepOf piece) else none := by
  rw [component?, stepOf]
  by_cases h : IsVisible piece
  · rw [if_pos h, if_neg (by simpa [IsVisible] using h)]
    split <;> rfl
  · rw [if_neg h, if_pos]
    rw [Bool.or_eq_true, List.isEmpty_iff, decide_eq_true_iff]
    by_contra hnot
    exact h (not_or.1 hnot)

theorem filterMap_component? (pieces : List OsText) :
    pieces.filterMap component? = (pieces.filter (IsVisible ·)).map stepOf := by
  induction pieces with
  | nil => rfl
  | cons piece rest ih =>
    by_cases h : IsVisible piece
    · rw [List.filterMap_cons_some (by rw [component?_eq, if_pos h]), ih,
        List.filter_cons_of_pos (by simpa using h), List.map_cons]
    · rw [List.filterMap_cons_none (by rw [component?_eq, if_neg h]), ih,
        List.filter_cons_of_neg (by simpa using h)]

/-- What a path starts with in front of its visible pieces. -/
def start (p : Path) : List Component :=
  if p.isAbsolute then [.root] else if p.startsCurrent then [.current] else []

theorem startsCurrent_of_isAbsolute (h : p.isAbsolute = true) : p.startsCurrent = false := by
  rw [startsCurrent, head?_pieces h]
  rfl

/-- The components of a path are its start and then its visible pieces. -/
theorem components_eq (p : Path) : p.components = p.start ++ p.visiblePieces.map stepOf := by
  obtain ⟨first, rest, hpieces⟩ :=
    List.exists_cons_of_ne_nil (List.splitOn_ne_nil (.char '/') p.letters)
  replace hpieces : p.pieces = first :: rest := hpieces
  have habsolute : p.isAbsolute = true → first = [] := fun h ↦ by
    simpa [hpieces] using head?_pieces h
  have hcurrent : p.startsCurrent = decide (first = [.char '.']) := by
    rw [startsCurrent, hpieces, List.head?_cons, Option.some_beq_some, beq_eq_decide]
  rw [components, start, hcurrent, visiblePieces, hpieces, ← filterMap_component?]
  by_cases hempty : first = []
  · subst hempty
    rfl
  · have hrelative : p.isAbsolute = false := Bool.eq_false_iff.2 (mt habsolute hempty)
    simp only [hrelative, List.isEmpty_eq_false_iff.2 hempty, Bool.false_eq_true, if_false]
    by_cases hdot : first = [.char '.']
    · subst hdot
      rfl
    · have hfirst : component? first = some (stepOf first) := by
        rw [component?_eq, if_pos ⟨hempty, hdot⟩]
      rw [if_neg hdot, if_neg (by simpa using hdot), hfirst, List.filterMap_cons_some hfirst]
      rfl

/-- The components tell the start of a path from its visible pieces. -/
theorem filter_isStart_components (p : Path) :
    p.components.filter isStart = p.start ∧
      p.components.filter (!isStart ·) = p.visiblePieces.map stepOf := by
  have hsteps : ∀ step ∈ p.visiblePieces.map stepOf, isStart step = false := by
    intro step hstep
    obtain ⟨piece, -, rfl⟩ := List.mem_map.1 hstep
    exact isStart_stepOf piece
  have hstart : ∀ step ∈ p.start, isStart step = true := by
    intro step hstep
    rw [start] at hstep
    split at hstep
    · rw [List.mem_singleton.1 hstep]
      rfl
    · split at hstep
      · rw [List.mem_singleton.1 hstep]
        rfl
      · cases hstep
  rw [components_eq, List.filter_append, List.filter_append]
  constructor
  · rw [List.filter_eq_self.2 hstart, List.filter_eq_nil_iff.2 (by simpa using hsteps),
      List.append_nil]
  · rw [List.filter_eq_nil_iff.2 (by simpa using hstart),
      List.filter_eq_self.2 (by simpa using hsteps), List.nil_append]

theorem start_eq_iff :
    p.start = q.start ↔ p.isAbsolute = q.isAbsolute ∧ p.startsCurrent = q.startsCurrent := by
  rw [start, start]
  have hp := @startsCurrent_of_isAbsolute p
  have hq := @startsCurrent_of_isAbsolute q
  revert hp hq
  cases p.isAbsolute <;> cases q.isAbsolute <;> cases p.startsCurrent <;> cases q.startsCurrent <;>
    simp

/-- **Two paths are the same exactly if they start alike and have the same visible pieces.** -/
theorem same_iff :
    Same p q ↔ p.isAbsolute = q.isAbsolute ∧ p.startsCurrent = q.startsCurrent ∧
      p.visiblePieces = q.visiblePieces := by
  rw [← and_assoc, ← start_eq_iff, Same]
  constructor
  · intro h
    have hp := filter_isStart_components p
    rw [h, (filter_isStart_components q).1, (filter_isStart_components q).2] at hp
    exact ⟨hp.1.symm, List.map_injective_iff.2 stepOf_injective hp.2.symm⟩
  · rintro ⟨hstart, hvisible⟩
    rw [components_eq, components_eq, hstart, hvisible]

end WorkspaceIndex.Path
