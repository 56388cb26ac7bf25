import WorkspaceIndex.Path
import WorkspaceIndex.Proofs.Text.Words
/-!
# Absolute paths

A path that starts at the root stays one under everything that is done to paths: joining, taking the
absolute form, taking the directory above. The last is the one to look at. The directory above is
put together from pieces, of which the first one is empty, and that this one is kept is due to
`dropInvisible` leaving the end of the list that it is given, and never a lone empty piece.

A path may have no directory above it. For the absolute form of a path this means that the path
itself has no *visible* piece, none that leads anywhere (`not_isVisible_of_absolute?`).
-/

namespace WorkspaceIndex

namespace Path

variable {p q base workingDirectory : Path}

theorem isAbsolute_iff : p.isAbsolute = true ↔ ∃ rest, p.letters = .char '/' :: rest := by
  rw [isAbsolute, beq_iff_eq, List.head?_eq_some_iff]

theorem isEmpty_letters_of_isAbsolute (h : p.isAbsolute = true) : p.letters.isEmpty = false := by
  obtain ⟨rest, hrest⟩ := isAbsolute_iff.1 h
  rw [hrest, List.isEmpty_cons]

/-! ### Joining -/

/-- What is seen from an absolute path is absolute. -/
theorem isAbsolute_join (h : base.isAbsolute = true) (p : Path) :
    (base.join p).isAbsolute = true := by
  obtain ⟨rest, hrest⟩ := isAbsolute_iff.1 h
  rw [join]
  split
  · rename_i hp
    simpa [isEmpty_letters_of_isAbsolute h] using hp
  · split
    · exact isAbsolute_iff.2 ⟨rest ++ p.letters, by rw [hrest, List.cons_append]⟩
    · exact isAbsolute_iff.2 ⟨rest ++ .char '/' :: p.letters, by rw [hrest, List.cons_append]⟩

theorem isAbsolute_foldl_join (h : base.isAbsolute = true) (steps : List Component) :
    (steps.foldl (fun q step ↦ q.join ⟨step.letters⟩) base).isAbsolute = true := by
  induction steps generalizing base with
  | nil => exact h
  | cons step rest ih => exact ih (isAbsolute_join h _)

/-! ### The directory above -/

/-- A piece that stands for a step of a path wherever it is. -/
def IsVisible (piece : OsText) : Prop := piece ≠ [] ∧ piece ≠ [.char '.']

/-- What is left are pieces from the end of the list. -/
theorem dropInvisible_suffix (pieces : List OsText) : dropInvisible pieces <:+ pieces := by
  fun_induction dropInvisible pieces with
  | case1 => exact List.suffix_refl _
  | case2 first _ => exact List.nil_suffix
  | case3 first _ => exact List.suffix_refl _
  | case4 piece earlier _ _ ih => exact ih.trans (List.suffix_cons _ _)
  | case5 piece earlier _ _ => exact List.suffix_refl _

/-- Where nothing is left, nothing was visible. -/
theorem not_isVisible_of_dropInvisible_eq_nil {pieces : List OsText}
    (h : dropInvisible pieces = []) : ∀ piece ∈ pieces, ¬ IsVisible piece := by
  fun_induction dropInvisible pieces with
  | case1 => exact fun _ hpiece ↦ absurd hpiece List.not_mem_nil
  | case2 first hempty =>
    intro piece hpiece
    rw [List.mem_singleton.1 hpiece]
    exact fun hvisible ↦ hvisible.1 (List.isEmpty_iff.1 hempty)
  | case3 first _ => cases h
  | case4 piece earlier _ hinvisible ih =>
    intro other hother
    rcases List.mem_cons.1 hother with rfl | hother
    · rw [Bool.or_eq_true, List.isEmpty_iff, decide_eq_true_eq] at hinvisible
      exact fun hvisible ↦ hinvisible.elim hvisible.1 hvisible.2
    · exact ih h other hother
  | case5 piece earlier _ _ => cases h

/-- No lone empty piece is left. -/
theorem dropInvisible_ne_singleton_nil (pieces : List OsText) :
    dropInvisible pieces ≠ [[]] := by
  fun_induction dropInvisible pieces with
  | case1 => exact fun h ↦ by cases h
  | case2 first _ => exact fun h ↦ by cases h
  | case3 first hsome => simpa using hsome
  | case4 piece earlier _ _ ih => exact ih
  | case5 piece earlier hne hvisible =>
    intro h
    simp_all

/-- The first piece of an absolute path is empty. -/
theorem head?_pieces (h : p.isAbsolute = true) : p.pieces.head? = some [] := by
  obtain ⟨rest, hrest⟩ := isAbsolute_iff.1 h
  rw [pieces, hrest, List.splitOn_cons_eq_if_modifyHead, if_pos (beq_self_eq_true _)]
  rfl

/-- A text made of two pieces or more, the first of which is empty, is an absolute path. -/
theorem isAbsolute_of_intercalate {others : List OsText} (h : others ≠ []) :
    (⟨[.char '/'].intercalate ([] :: others)⟩ : Path).isAbsolute = true := by
  obtain ⟨second, rest, rfl⟩ := List.exists_cons_of_ne_nil h
  exact isAbsolute_iff.2 ⟨[.char '/'].intercalate (second :: rest),
    List.intercalate_cons_cons⟩

/-- **The directory above an absolute path is absolute.** -/
theorem isAbsolute_of_parent? (hp : p.isAbsolute = true) (h : p.parent? = some q) :
    q.isAbsolute = true := by
  rw [parent?] at h
  split at h
  · cases h
  · rename_i last above hlast
    split at h
    · rw [if_pos hp] at h
      cases h
      rfl
    · rename_i hkept
      cases h
      have hsuffix : dropInvisible above <:+ p.pieces.reverse :=
        (dropInvisible_suffix above).trans
          ((List.suffix_cons last above).trans (hlast ▸ dropInvisible_suffix _))
      have hprefix : (dropInvisible above).reverse <+: p.pieces := by
        simpa using List.reverse_prefix.2 hsuffix
      obtain ⟨first, others, hfirst⟩ :=
        List.exists_cons_of_ne_nil (mt List.reverse_eq_nil_iff.1 hkept)
      -- what is left still starts with the first piece of the path
      obtain rfl : first = [] := by
        have hhead := head?_pieces hp
        rw [hfirst] at hprefix
        obtain ⟨rest, hrest⟩ := hprefix
        rw [← hrest] at hhead
        exact Option.some.inj hhead
      rw [hfirst]
      refine isAbsolute_of_intercalate fun hnone ↦ dropInvisible_ne_singleton_nil above ?_
      rw [← List.reverse_reverse (dropInvisible above), hfirst, hnone]
      rfl

/-! ### Paths without a directory above -/

/-- The pieces of a joined path that are not empty are those of the base and those of the path that
was joined to it. -/
theorem mem_pieces_join_iff (hbase : base.isAbsolute = true) (hp : p.isAbsolute = false)
    {piece : OsText} (hpiece : piece ≠ []) :
    piece ∈ (base.join p).pieces ↔ piece ∈ base.pieces ∨ piece ∈ p.pieces := by
  rw [join, hp, isEmpty_letters_of_isAbsolute hbase, if_neg (by simp)]
  split
  · -- the separator at the end of the base is the one between the two
    rename_i hlast
    obtain ⟨front, hfront⟩ := List.getLast?_eq_some_iff.1 (beq_iff_eq.1 hlast)
    have hjoined : base.letters ++ p.letters = front ++ .char '/' :: p.letters := by
      rw [hfront, List.append_assoc, List.singleton_append]
    rw [pieces, hjoined, List.splitOn_append_cons_self, List.mem_append, pieces, hfront,
      List.splitOn_append_cons_self, List.mem_append, pieces]
    simp [hpiece]
  · rw [pieces, List.splitOn_append_cons_self, List.mem_append]
    rfl

/-- No piece of a path has a separator in it. -/
theorem not_mem_of_mem_pieces {piece : OsText} (h : piece ∈ p.pieces) : .char '/' ∉ piece := by
  rw [pieces, List.splitOn_eq_splitOnP] at h
  intro hmem
  simpa using Text.eq_false_of_mem_splitOnP h _ hmem

/-- A visible piece stands for a step that is spelled like it. -/
theorem component?_of_isVisible {piece : OsText} (h : IsVisible piece) :
    ∃ step, component? piece = some step ∧ step.letters = piece ∧ step ≠ .root ∧
      step ≠ .current := by
  rw [component?, if_neg (by simpa [IsVisible] using h)]
  split
  · rename_i habove
    exact ⟨.above, rfl, habove.symm, by simp, by simp⟩
  · exact ⟨_, rfl, rfl, by simp, by simp⟩

/-- The steps of a path are its visible pieces, and maybe one at its start. -/
theorem mem_components {step : Component} (h : step ∈ p.components) :
    step = .root ∨ step = .current ∨
      ∃ piece ∈ p.pieces, component? piece = some step := by
  rw [components] at h
  split at h
  · cases h
  · rename_i first rest hpieces
    rw [hpieces]
    rcases List.mem_append.1 h with hstart | hrest
    · split at hstart
      · split at hstart
        · exact Or.inl (List.mem_singleton.1 hstart)
        · cases hstart
      · split at hstart
        · exact Or.inr (Or.inl (List.mem_singleton.1 hstart))
        · exact Or.inr (Or.inr ⟨first, List.mem_cons_self, Option.mem_toList.1 hstart⟩)
    · obtain ⟨piece, hpiece, hstep⟩ := List.mem_filterMap.1 hrest
      exact Or.inr (Or.inr ⟨piece, List.mem_cons_of_mem _ hpiece, hstep⟩)

theorem exists_mem_components {piece : OsText} (hvisible : IsVisible piece)
    (h : piece ∈ p.pieces) :
    ∃ step ∈ p.components, step.letters = piece ∧ step ≠ .root ∧ step ≠ .current := by
  obtain ⟨step, hstep, htext, hroot, hcurrent⟩ := component?_of_isVisible hvisible
  refine ⟨step, ?_, htext, hroot, hcurrent⟩
  rw [components]
  split
  · rename_i hnone
    rw [hnone] at h
    cases h
  · rename_i first rest hpieces
    rw [hpieces] at h
    rcases List.mem_cons.1 h with rfl | hrest
    · refine List.mem_append_left _ ?_
      rw [if_neg (by simpa using hvisible.1), if_neg hvisible.2, hstep]
      exact List.mem_singleton.2 rfl
    · exact List.mem_append_right _ (List.mem_filterMap.2 ⟨piece, hrest, hstep⟩)

/-- No step but the one to the root has a separator in it. -/
theorem not_mem_letters_of_mem_components {step : Component} (h : step ∈ p.components)
    (hroot : step ≠ .root) : .char '/' ∉ step.letters := by
  rcases mem_components h with rfl | rfl | ⟨piece, hpiece, hstep⟩
  · exact absurd rfl hroot
  · decide
  · have hvisible : IsVisible piece := by
      rw [IsVisible, ← not_or]
      intro hnot
      rw [component?, if_pos (by simpa using hnot)] at hstep
      cases hstep
    obtain ⟨_, hsame, htext, -⟩ := component?_of_isVisible hvisible
    rw [hstep] at hsame
    cases hsame
    rw [htext]
    exact not_mem_of_mem_pieces hpiece

theorem isAbsolute_of_not_mem (h : .char '/' ∉ p.letters) : p.isAbsolute = false := by
  by_contra habsolute
  obtain ⟨rest, hrest⟩ := isAbsolute_iff.1 (Bool.not_eq_false _ ▸ habsolute)
  exact h (hrest ▸ List.mem_cons_self)

/-- The pieces of a path that is put together from steps. -/
theorem mem_pieces_foldl_join_iff {piece : OsText} (hpiece : piece ≠ []) {steps : List Component}
    (hsteps : ∀ step ∈ steps, .char '/' ∉ step.letters) :
    ∀ {base : Path}, base.isAbsolute = true →
      (piece ∈ (steps.foldl (fun q step ↦ q.join ⟨step.letters⟩) base).pieces ↔
        piece ∈ base.pieces ∨ ∃ step ∈ steps, step.letters = piece) := by
  induction steps with
  | nil => simp
  | cons step rest ih =>
    intro base hbase
    have hstep := hsteps step List.mem_cons_self
    have hone : (⟨step.letters⟩ : Path).pieces = [step.letters] := List.splitOn_eq_singleton hstep
    have hrelative : (⟨step.letters⟩ : Path).isAbsolute = false := isAbsolute_of_not_mem hstep
    rw [List.foldl_cons, ih (fun other h ↦ hsteps other (List.mem_cons_of_mem _ h))
      (isAbsolute_join hbase _), mem_pieces_join_iff hbase hrelative hpiece, hone]
    simp [or_assoc, eq_comm]

/-! ### Absolute forms -/

/-- **What an absolute form is put together from**: an absolute base, and on it steps without
separators, among them those of the path that lead anywhere. -/
theorem exists_steps_of_absolute? (hworking : workingDirectory.isAbsolute = true)
    (h : p.absolute? workingDirectory = some q) :
    ∃ steps : List Component, ∃ base : Path, base.isAbsolute = true ∧
      (∀ step ∈ steps, .char '/' ∉ step.letters) ∧
      (∀ step ∈ p.components, step ≠ .root → step ≠ .current → step ∈ steps) ∧
      (q = steps.foldl (fun q step ↦ q.join ⟨step.letters⟩) base ∨
        q = (steps.foldl (fun q step ↦ q.join ⟨step.letters⟩) base).join ⟨""⟩) := by
  rw [absolute?] at h
  split at h
  · cases h
  · extract_lets steps base full at h
    have hbase : base.isAbsolute = true := by
      simp only [base]
      split
      · split <;> rfl
      · exact hworking
    have hsub : ∀ step ∈ steps, step ∈ p.components := by
      intro step hstep
      simp only [steps] at hstep
      split at hstep
      · rename_i rest hrest
        rw [hrest]
        exact List.mem_cons_of_mem _ hstep
      · exact hstep
    have hall : ∀ step ∈ p.components, step ≠ .current → step ∈ steps := by
      intro step hstep hcurrent
      simp only [steps]
      split
      · rename_i rest hrest
        rw [hrest] at hstep
        exact (List.mem_cons.1 hstep).resolve_left hcurrent
      · exact hstep
    refine ⟨steps.filter (· ≠ .root), base, hbase, fun step hstep ↦ ?_,
      fun step hstep hroot hcurrent ↦ ?_, ?_⟩
    · obtain ⟨hmem, hroot⟩ := List.mem_filter.1 hstep
      exact not_mem_letters_of_mem_components (hsub step hmem) (by simpa using hroot)
    · exact List.mem_filter.2 ⟨hall step hstep hcurrent, by simpa using hroot⟩
    · cases h
      split
      · exact Or.inr rfl
      · exact Or.inl rfl

/-- **An absolute form is absolute.** -/
theorem isAbsolute_of_absolute? (hworking : workingDirectory.isAbsolute = true)
    (h : p.absolute? workingDirectory = some q) : q.isAbsolute = true := by
  obtain ⟨steps, base, hbase, -, -, rfl | rfl⟩ := exists_steps_of_absolute? hworking h
  · exact isAbsolute_foldl_join hbase steps
  · exact isAbsolute_join (isAbsolute_foldl_join hbase steps) _

/-- A visible piece of a path is in its absolute form. -/
theorem mem_pieces_of_absolute? (hworking : workingDirectory.isAbsolute = true)
    (h : p.absolute? workingDirectory = some q) {piece : OsText} (hvisible : IsVisible piece)
    (hpiece : piece ∈ p.pieces) : piece ∈ q.pieces := by
  obtain ⟨step, hstep, htext, hroot, hcurrent⟩ := exists_mem_components hvisible hpiece
  obtain ⟨steps, base, hbase, hsteps, hmem, hq⟩ := exists_steps_of_absolute? hworking h
  have hfull : piece ∈ (steps.foldl (fun q step ↦ q.join ⟨step.letters⟩) base).pieces :=
    (mem_pieces_foldl_join_iff hvisible.1 hsteps hbase).2
      (Or.inr ⟨step, hmem step hstep hroot hcurrent, htext⟩)
  rcases hq with rfl | rfl
  · exact hfull
  · exact (mem_pieces_join_iff (isAbsolute_foldl_join hbase steps) rfl hvisible.1).2 (Or.inl hfull)

/-- **A path whose absolute form has no directory above it has no visible piece.** -/
theorem not_isVisible_of_absolute? (hworking : workingDirectory.isAbsolute = true)
    (h : p.absolute? workingDirectory = some q) (hnone : q.parent? = none) :
    ∀ piece ∈ p.pieces, ¬ IsVisible piece := by
  intro piece hpiece hvisible
  have hnothing : dropInvisible q.pieces.reverse = [] := by
    rw [parent?] at hnone
    split at hnone
    · assumption
    · split at hnone <;> cases hnone
  exact not_isVisible_of_dropInvisible_eq_nil hnothing piece
    (List.mem_reverse.2 (mem_pieces_of_absolute? hworking h hvisible hpiece)) hvisible

end Path

end WorkspaceIndex
