import Mathlib.Data.List.Basic
/-!
# Words between separators

Several texts can be handed on as one, with a separator between each and the next, and be taken
apart again by a reader who knows the separators. The reader sees *words*: what stands between
separators, empty pieces left out. So a text comes back as the word it was if and only if no
separator stands in it (`mem_words_intercalate_iff`), and all of them come back if and only if this
holds for each (`words_intercalate_eq_iff`).

Nothing else about separators matters, so they are given by any class of characters. A reader who
keeps empty pieces needs a single character instead, and then the pieces are exactly the texts
without it of which the whole is put together (`splitOn_eq_iff`).
-/

namespace WorkspaceIndex.Text

/-! ### Pieces -/

section

variable {α : Type} {p : α → Bool} {s piece : List α} {pieces : List (List α)} {c d : α}

/-- No piece that is split off has a separator in it. -/
theorem eq_false_of_mem_splitOnP (h : piece ∈ s.splitOnP p) : ∀ c ∈ piece, p c = false := by
  induction s generalizing piece with
  | nil =>
    rw [List.splitOnP_nil, List.mem_singleton] at h
    simp [h]
  | cons d rest ih =>
    rw [List.splitOnP_cons_eq_if_modifyHead] at h
    split at h
    · rcases List.mem_cons.1 h with rfl | h
      · simp
      · exact ih h
    · rename_i hd
      obtain ⟨first, others, hsplit⟩ := List.exists_cons_of_ne_nil (List.splitOnP_ne_nil p rest)
      rw [hsplit, List.modifyHead_cons] at h
      rcases List.mem_cons.1 h with rfl | h
      · rw [List.forall_mem_cons]
        exact ⟨by simpa using hd, ih (hsplit ▸ List.mem_cons_self)⟩
      · exact ih (hsplit ▸ List.mem_cons_of_mem _ h)

/-- A character that is no separator stands in texts that are handed on as one exactly if it stands
in one of them. -/
theorem mem_intercalate_iff (hd : d ≠ c) :
    d ∈ [c].intercalate pieces ↔ ∃ piece ∈ pieces, d ∈ piece := by
  induction pieces with
  | nil => simp
  | cons first rest ih =>
    rcases rest with - | ⟨second, rest⟩
    · simp
    · rw [List.intercalate_cons_cons, List.mem_append, List.mem_append, List.mem_singleton, ih]
      simp only [hd, or_false, List.exists_mem_cons_iff]

variable [BEq α]

/-- A text has one piece more than separators. -/
theorem length_splitOn (s : List α) (c : α) : (s.splitOn c).length = s.count c + 1 := by
  induction s with
  | nil => rw [List.splitOn_nil, List.count_nil, List.length_singleton]
  | cons d rest ih =>
    rw [List.splitOn_cons_eq_if_modifyHead, List.count_cons]
    split
    · rw [List.length_cons, ih]
    · rw [List.length_modifyHead, ih, Nat.add_zero]

variable [LawfulBEq α]

/-- **The pieces of a text are the texts without a separator of which it is put together.** -/
theorem splitOn_eq_iff :
    s.splitOn c = pieces ↔
      pieces ≠ [] ∧ (∀ piece ∈ pieces, c ∉ piece) ∧ s = [c].intercalate pieces := by
  constructor
  · rintro rfl
    refine ⟨List.splitOn_ne_nil c s, fun piece hpiece hc ↦ ?_, (List.intercalate_splitOn c).symm⟩
    rw [List.splitOn_eq_splitOnP] at hpiece
    simpa using eq_false_of_mem_splitOnP hpiece c hc
  · rintro ⟨hne, hclear, rfl⟩
    exact List.splitOn_intercalate c hclear hne

/-- Texts that are handed on as one are the pieces of that text exactly if no separator stands in
any. -/
theorem splitOn_intercalate_eq_iff (hne : pieces ≠ []) :
    ([c].intercalate pieces).splitOn c = pieces ↔ ∀ piece ∈ pieces, c ∉ piece := by
  rw [splitOn_eq_iff]
  exact ⟨fun h ↦ h.2.1, fun h ↦ ⟨hne, h, rfl⟩⟩

end

/-! ### Words -/

variable {p : Char → Bool} {s a b word piece : List Char} {pieces : List (List Char)} {c : Char}

/-- The words of a text: the pieces between its separators that are not empty. -/
def words (p : Char → Bool) (s : List Char) : List (List Char) :=
  (s.splitOnP p).filter fun piece ↦ !piece.isEmpty

@[simp] theorem words_nil : words p [] = [] := by
  rw [words, List.splitOnP_nil]
  rfl

theorem eq_false_of_mem_words (h : word ∈ words p s) : ∀ c ∈ word, p c = false :=
  eq_false_of_mem_splitOnP (List.mem_of_mem_filter h)

/-- A text is read in two parts where a separator stands. -/
theorem words_append_cons (hc : p c = true) : words p (a ++ c :: b) = words p a ++ words p b := by
  rw [words, List.splitOnP_append_cons a b hc, List.filter_append, words, words]

/-- A text without a separator is one word. -/
theorem words_eq_singleton (hne : s ≠ []) (h : ∀ c ∈ s, p c = false) : words p s = [s] := by
  rw [words, List.splitOnP_eq_singleton h]
  exact List.filter_cons_of_pos (by simpa using hne)

/-! ### Texts that are handed on as one -/

/-- What is read off texts with a separator between them is what is read off each. -/
theorem words_intercalate (hc : p c = true) :
    words p ([c].intercalate pieces) = pieces.flatMap (words p) := by
  induction pieces with
  | nil => simp
  | cons first rest ih =>
    rcases rest with - | ⟨second, rest⟩
    · simp
    · rw [List.intercalate_cons_cons, List.append_assoc, List.singleton_append,
        words_append_cons hc, ih, ← List.flatMap_cons]

/-- **A text comes back from among others exactly if no separator stands in it.** -/
theorem mem_words_intercalate_iff (hc : p c = true) (hmem : piece ∈ pieces) (hne : piece ≠ []) :
    piece ∈ words p ([c].intercalate pieces) ↔ ∀ d ∈ piece, p d = false := by
  refine ⟨eq_false_of_mem_words, fun h ↦ ?_⟩
  rw [words_intercalate hc]
  exact List.mem_flatMap_of_mem hmem (by simp [words_eq_singleton hne h])

/-- **Texts that are handed on as one are read back exactly if no separator stands in any.** -/
theorem words_intercalate_eq_iff (hc : p c = true) (hne : ∀ piece ∈ pieces, piece ≠ []) :
    words p ([c].intercalate pieces) = pieces ↔ ∀ piece ∈ pieces, ∀ d ∈ piece, p d = false := by
  constructor
  · intro h piece hmem
    rw [← h] at hmem
    exact eq_false_of_mem_words hmem
  · intro h
    rw [words_intercalate hc]
    have hsingle : ∀ piece ∈ pieces, words p piece = [piece] := fun piece hmem ↦
      words_eq_singleton (hne piece hmem) (h piece hmem)
    rw [List.flatMap_congr hsingle, List.flatMap_singleton']

end WorkspaceIndex.Text
