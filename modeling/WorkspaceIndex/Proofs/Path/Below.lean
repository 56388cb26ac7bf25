import WorkspaceIndex.Proofs.Path.Joined
import WorkspaceIndex.Proofs.Path.Same
/-!
# Paths below a directory

To join a relative path is to put its components after those of the base, unless it starts with a
lone `.`, which would be a component in front and is none behind a base (`components_join`). So the
name of an entry adds one step (`components_join_fileName`), whatever the base is and however it is
spelled, and what is joined of such names lies *below* the base: no step of it leads up again.
-/

namespace WorkspaceIndex.Path

variable {p base : Path} {name : String}

/-- A path lies below a directory: from there it is steps to named entries, at least one. -/
def Below (p directory : Path) : Prop :=
  ∃ names : List OsText, names ≠ [] ∧
    p.components = directory.components ++ names.map Component.name

/-! ### The components of a joined path -/

theorem visiblePieces_eq_stem (p : Path) : p.visiblePieces = p.stem.filter (IsVisible ·) := by
  rcases pieces_eq_stem p with h | h
  · rw [visiblePieces, h]
  · rw [visiblePieces, h, List.filter_append, List.filter_cons_of_neg (by simp [IsVisible]),
      List.filter_nil, List.append_nil]

theorem visiblePieces_join (hp : p.isAbsolute = false) :
    (base.join p).visiblePieces = base.visiblePieces ++ p.visiblePieces := by
  rw [visiblePieces, pieces_join hp, List.filter_append, ← visiblePieces_eq_stem, ← visiblePieces]

theorem startsCurrent_join (hp : p.isAbsolute = false) (hcurrent : p.startsCurrent = false) :
    (base.join p).startsCurrent = base.startsCurrent := by
  rw [startsCurrent, pieces_join hp, startsCurrent]
  rcases hstem : base.stem with - | ⟨first, rest⟩
  · -- the base is empty, so the joined path starts as `p` does
    have hbase : base.pieces.head? = some [] := by
      rcases pieces_eq_stem base with h | h
      · exact absurd (h.trans hstem) (List.splitOn_ne_nil _ _)
      · rw [h, hstem]
        rfl
    rw [List.nil_append, hbase, ← startsCurrent, hcurrent]
    rfl
  · rcases pieces_eq_stem base with h | h <;> rw [h, hstem] <;> rfl

/-- **The components of a joined path** are those of the base and then those of what is joined to
it. -/
theorem components_join (hp : p.isAbsolute = false) (hcurrent : p.startsCurrent = false) :
    (base.join p).components = base.components ++ p.components := by
  have hstart : (base.join p).start = base.start :=
    start_eq_iff.2 ⟨isAbsolute_join_of_relative hp, startsCurrent_join hp hcurrent⟩
  have hnone : p.start = [] := by simp [start, hp, hcurrent]
  rw [components_eq, hstart, visiblePieces_join hp, List.map_append, components_eq base,
    components_eq p, hnone, List.nil_append, List.append_assoc]

/-! ### Joining names -/

theorem components_of_fileName (h : FileName name) :
    (⟨name⟩ : Path).components = [.name (.ofText name)] := by
  obtain ⟨hne, hcurrent, habove, -⟩ := letters_of_fileName h
  rw [components, pieces_of_fileName h]
  simp [component?, hne, hcurrent, habove]

theorem startsCurrent_of_fileName (h : FileName name) : (⟨name⟩ : Path).startsCurrent = false := by
  rw [startsCurrent, pieces_of_fileName h]
  simpa using (letters_of_fileName h).2.1

/-- **To join the name of an entry is one step further.** -/
theorem components_join_fileName (h : FileName name) :
    (base.join ⟨name⟩).components = base.components ++ [.name (.ofText name)] := by
  rw [components_join (isAbsolute_of_fileName h) (startsCurrent_of_fileName h),
    components_of_fileName h]

end WorkspaceIndex.Path
