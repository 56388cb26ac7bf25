import WorkspaceIndex.Proofs.OsText
import WorkspaceIndex.Proofs.Path.Absolute
/-!
# The pieces of joined paths

Joining two paths is appending their pieces, if the empty piece after a separator at the end of the
base is left out: what is left is the *stem* of the base (`pieces_join`). The name of an entry of a
directory is one piece (`pieces_of_fileName`). The directory above a path has pieces from the front
of the path (`pieces_of_parent?`).
-/

namespace WorkspaceIndex.Path

variable {p q base : Path}

/-- The pieces of a path without the one after a separator at its end. -/
def stem (p : Path) : List OsText :=
  if p.pieces.getLast? = some [] then p.pieces.dropLast else p.pieces

theorem pieces_eq_stem (p : Path) : p.pieces = p.stem ∨ p.pieces = p.stem ++ [[]] := by
  unfold stem
  split
  · rename_i hlast
    obtain ⟨front, hfront⟩ := List.getLast?_eq_some_iff.1 hlast
    rw [hfront, List.dropLast_concat]
    exact Or.inr rfl
  · exact Or.inl rfl

/-- A path is written as its pieces with separators in between. -/
theorem intercalate_pieces (p : Path) : [.char '/'].intercalate p.pieces = p.letters :=
  List.intercalate_splitOn _

/-- Pieces without separators are the pieces of the path that is made of them. -/
theorem pieces_of_intercalate {pieces : List OsText} (hne : pieces ≠ [])
    (h : ∀ piece ∈ pieces, .char '/' ∉ piece) :
    (⟨[.char '/'].intercalate pieces⟩ : Path).pieces = pieces :=
  List.splitOn_intercalate _ h hne

/-- A path is absolute exactly if its first piece is empty and not the only one. -/
theorem isAbsolute_iff_pieces :
    p.isAbsolute = true ↔ ∃ second rest, p.pieces = [] :: second :: rest := by
  constructor
  · intro h
    obtain ⟨rest, hrest⟩ := isAbsolute_iff.1 h
    obtain ⟨second, others, hsplit⟩ :=
      List.exists_cons_of_ne_nil (List.splitOn_ne_nil (.char '/') rest)
    refine ⟨second, others, ?_⟩
    rw [pieces, hrest, List.splitOn_cons_eq_if_modifyHead, if_pos (beq_self_eq_true _), hsplit]
  · rintro ⟨second, rest, h⟩
    have hletters := intercalate_pieces p
    rw [h, List.intercalate_cons_cons] at hletters
    exact isAbsolute_iff.2 ⟨_, hletters.symm⟩

/-! ### Joining -/

/-- An empty last piece is written as a separator at the end. -/
theorem intercalate_append_pair (others : List OsText) (last : OsText) :
    [Letter.char '/'].intercalate (others ++ [last, []]) =
      [.char '/'].intercalate (others ++ [last]) ++ [.char '/'] := by
  induction others with
  | nil => simp [List.intercalate]
  | cons first rest ih =>
    rcases rest with - | ⟨second, rest⟩
    · simp [List.intercalate]
    · simp only [List.cons_append, List.intercalate_cons_cons] at ih ⊢
      rw [ih]
      simp

/-- How a path is joined to a base, by the letters of the base. -/
theorem letters_join (hp : p.isAbsolute = false) :
    (base.letters = [] ∧ base.join p = p) ∨
      (∃ front, base.letters = front ++ [.char '/'] ∧
        (base.join p).letters = front ++ .char '/' :: p.letters) ∨
      (base.letters ≠ [] ∧ base.letters.getLast? ≠ some (.char '/') ∧
        (base.join p).letters = base.letters ++ .char '/' :: p.letters) := by
  rw [join, hp, Bool.false_or]
  split
  · rename_i hempty
    exact Or.inl ⟨List.isEmpty_iff.1 hempty, rfl⟩
  · rename_i hempty
    refine Or.inr ?_
    split
    · rename_i hlast
      obtain ⟨front, hfront⟩ := List.getLast?_eq_some_iff.1 (beq_iff_eq.1 hlast)
      refine Or.inl ⟨front, hfront, ?_⟩
      rw [hfront, List.append_assoc, List.singleton_append]
    · rename_i hlast
      exact Or.inr ⟨fun hnil ↦ hempty (List.isEmpty_iff.2 hnil), fun h ↦ hlast (beq_iff_eq.2 h),
        rfl⟩

theorem isAbsolute_join_of_relative (hp : p.isAbsolute = false) :
    (base.join p).isAbsolute = base.isAbsolute := by
  rcases @letters_join p base hp with ⟨hnil, hjoin⟩ | ⟨front, hfront, hjoin⟩ | ⟨hne, -, hjoin⟩
  · rw [hjoin, hp, isAbsolute, hnil]
    rfl
  · rw [isAbsolute, hjoin, isAbsolute, hfront]
    cases front <;> rfl
  · obtain ⟨first, rest, hfirst⟩ := List.exists_cons_of_ne_nil hne
    rw [isAbsolute, hjoin, isAbsolute, hfirst]
    rfl

/-- **Joining appends the pieces of a path to the stem of the base.** -/
theorem pieces_join (hp : p.isAbsolute = false) : (base.join p).pieces = base.stem ++ p.pieces := by
  rcases @letters_join p base hp with ⟨hnil, hjoin⟩ | ⟨front, hfront, hjoin⟩ | ⟨hne, hlast, hjoin⟩
  · have hstem : base.stem = [] := by
      rw [stem, pieces, hnil, List.splitOn_nil]
      rfl
    rw [hjoin, hstem, List.nil_append]
  · have hstem : base.stem = front.splitOn (.char '/') := by
      rw [stem, pieces, hfront, List.splitOn_append_cons_self, List.splitOn_nil,
        if_pos List.getLast?_concat, List.dropLast_concat]
    rw [pieces, hjoin, List.splitOn_append_cons_self, hstem, pieces]
  · -- an empty last piece would be one after a separator
    have hstem : base.stem = base.pieces := by
      refine if_neg fun hempty ↦ hlast ?_
      obtain ⟨front, hfront⟩ := List.getLast?_eq_some_iff.1 hempty
      have hletters := intercalate_pieces base
      rw [hfront] at hletters
      rcases List.eq_nil_or_concat front with rfl | ⟨others, last, rfl⟩
      · exact absurd hletters.symm hne
      · rw [List.concat_eq_append, List.append_assoc, List.singleton_append,
          intercalate_append_pair] at hletters
        rw [← hletters]
        exact List.getLast?_concat
    rw [pieces, hjoin, List.splitOn_append_cons_self, hstem, pieces, pieces]

/-! ### The directory above -/

/-- **The directory above a path has pieces from its front**, unless it is the start of the path. -/
theorem pieces_of_parent? (h : p.parent? = some q) :
    q.letters = [] ∨ q.letters = [.char '/'] ∨ q.pieces <+: p.pieces.dropLast := by
  rw [parent?] at h
  split at h
  · cases h
  · rename_i last above hlast
    have hfront : above.reverse <+: p.pieces.dropLast := by
      obtain ⟨hidden, hhidden⟩ := hlast ▸ dropInvisible_suffix p.pieces.reverse
      have hpieces : p.pieces = above.reverse ++ last :: hidden.reverse := by
        rw [← List.reverse_reverse p.pieces, ← hhidden]
        simp
      rw [hpieces, List.dropLast_append_cons]
      exact List.prefix_append _ _
    split at h
    · cases h
      by_cases hp : p.isAbsolute = true
      · exact Or.inr (Or.inl (if_pos hp))
      · exact Or.inl (if_neg hp)
    · rename_i hkept
      have hinit : (dropInvisible above).reverse <+: p.pieces.dropLast :=
        (List.reverse_prefix.2 (dropInvisible_suffix above)).trans hfront
      have hmem : ∀ piece ∈ (dropInvisible above).reverse, .char '/' ∉ piece := fun piece hpiece ↦
        not_mem_of_mem_pieces (List.dropLast_subset _ (hinit.subset hpiece))
      have hpieces := pieces_of_intercalate (mt List.reverse_eq_nil_iff.1 hkept) hmem
      rw [Option.some.injEq] at h
      rw [← h, hpieces]
      exact Or.inr (Or.inr hinit)

/-- The directory above a path starts where the path does. -/
theorem isAbsolute_eq_of_parent? (h : p.parent? = some q) (hq : q.letters ≠ [.char '/']) :
    q.isAbsolute = p.isAbsolute := by
  rcases hp : p.isAbsolute with - | -
  · rcases pieces_of_parent? h with hempty | hroot | hinit
    · rw [isAbsolute, hempty]
      rfl
    · exact absurd hroot hq
    · by_contra habsolute
      rw [Bool.not_eq_false] at habsolute
      obtain ⟨second, rest, hpieces⟩ := isAbsolute_iff_pieces.1 habsolute
      obtain ⟨behind, hbehind⟩ := hinit.trans (List.dropLast_prefix _)
      rw [hpieces, List.cons_append, List.cons_append] at hbehind
      have := isAbsolute_iff_pieces.2 ⟨second, _, hbehind.symm⟩
      rw [hp] at this
      cases this
  · exact isAbsolute_of_parent? hp h

end WorkspaceIndex.Path

namespace WorkspaceIndex

/-! ### Entries of a directory -/

/-- A text that names an entry of a directory. -/
def FileName (name : String) : Prop :=
  name.toList ≠ [] ∧ name.toList ≠ ['.'] ∧ name.toList ≠ ['.', '.'] ∧ '/' ∉ name.toList

instance (name : String) : Decidable (FileName name) := by
  unfold FileName
  infer_instance

namespace Path

variable {name : String}

/-- The name of an entry by its letters. -/
theorem letters_of_fileName (h : FileName name) :
    OsText.ofText name ≠ [] ∧ OsText.ofText name ≠ [.char '.'] ∧
      OsText.ofText name ≠ [.char '.', .char '.'] ∧ .char '/' ∉ OsText.ofText name :=
  have hne : ∀ {chars : List Char}, name.toList ≠ chars → OsText.ofText name ≠ chars.map .char :=
    mt OsText.ofText_eq_map_iff.1
  ⟨hne h.1, hne h.2.1, hne h.2.2.1, mt OsText.mem_ofText_iff.1 h.2.2.2⟩

/-- The name of an entry is one piece. -/
theorem pieces_of_fileName (h : FileName name) : (⟨name⟩ : Path).pieces = [.ofText name] :=
  List.splitOn_eq_singleton (letters_of_fileName h).2.2.2

theorem isAbsolute_of_fileName (h : FileName name) : (⟨name⟩ : Path).isAbsolute = false :=
  isAbsolute_of_not_mem (letters_of_fileName h).2.2.2

end Path

end WorkspaceIndex
