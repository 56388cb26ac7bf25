import Mathlib.Data.List.Basic
import Mathlib.Data.List.Induction
import WorkspaceIndex.Text.Lines
/-!
# Texts and their lines

A text is *ended* when it is empty or its last character is a line feed. What follows an ended text
starts on a new line, so the lines of both together are those of the first and after them those of
the second (`lines_append`). Where a text is not ended, its last line goes on in what follows.

Lines that are written with a line feed after each are read back one by one. A carriage return at
the end of a line is lost in that, as it counts as a part of the ending (`lines_ofLines`).
-/

namespace WorkspaceIndex.Text

variable {a b line : List Char} {c : Char}

/-- A text that does not stop within a line. -/
def IsEnded (s : List Char) : Prop := s = [] ∨ s.getLast? = some '\n'

theorem isEnded_concat (s : List Char) : IsEnded (s ++ ['\n']) := Or.inr List.getLast?_concat

theorem IsEnded.of_cons (h : IsEnded (c :: a)) : IsEnded a := by
  rcases a with - | ⟨d, rest⟩
  · exact Or.inl rfl
  · rcases h with h | h
    · cases h
    · exact Or.inr (by rwa [List.getLast?_cons_cons] at h)

/-- In an ended text something follows a character that ends no line. -/
theorem IsEnded.ne_nil_of_cons (hc : c ≠ '\n') (h : IsEnded (c :: a)) : a ≠ [] := by
  rintro rfl
  rcases h with h | h
  · cases h
  · exact hc (Option.some.inj h)

/-- Every text is an ended one and after it at most the beginning of a line. -/
theorem exists_isEnded_append (s : List Char) :
    ∃ whole rest, s = whole ++ rest ∧ IsEnded whole ∧ '\n' ∉ rest := by
  induction s using List.reverseRecOn with
  | nil => exact ⟨[], [], rfl, Or.inl rfl, List.not_mem_nil⟩
  | append_singleton front c ih =>
    by_cases hc : c = '\n'
    · exact ⟨front ++ [c], [], (List.append_nil _).symm, hc ▸ isEnded_concat front,
        List.not_mem_nil⟩
    · obtain ⟨whole, rest, rfl, hended, hrest⟩ := ih
      refine ⟨whole, rest ++ [c], List.append_assoc .., hended, ?_⟩
      simp [hrest, Ne.symm hc]

/-! ### The lines of two texts -/

/-- A character that ends no line stands in front of the line after it. -/
theorem lines_cons (hc : c ≠ '\n') (hreturn : c = '\r' → a.head? ≠ some '\n') :
    lines (c :: a) = (c :: (lines a).headD []) :: (lines a).tail := by
  rw [lines]
  · rcases lines a with - | ⟨line, later⟩ <;> rfl
  · exact fun h ↦ hc h
  · rintro rest rfl rfl
    exact hreturn rfl rfl

theorem lines_ne_nil (h : a ≠ []) : lines a ≠ [] := by
  fun_cases lines a <;> simp_all

/-- **What follows an ended text starts on a new line.** -/
theorem lines_append (h : IsEnded a) : lines (a ++ b) = lines a ++ lines b := by
  fun_induction lines a with
  | case1 => rfl
  | case2 rest ih =>
    rw [List.cons_append, lines, ih h.of_cons]
    rfl
  | case3 rest ih =>
    rw [List.cons_append, List.cons_append, lines, ih h.of_cons.of_cons]
    rfl
  | case4 c rest hfeed hreturn hnil ih =>
    exact absurd hnil (lines_ne_nil (h.ne_nil_of_cons hfeed))
  | case5 c rest hfeed hreturn line later hlines ih =>
    rw [List.cons_append, lines_cons hfeed, ih h.of_cons, hlines]
    · rfl
    · -- a line feed after a carriage return would end the line, but it would stand in `a` already
      rintro rfl hhead
      rw [List.head?_append_of_ne_nil _ (h.ne_nil_of_cons hfeed)] at hhead
      obtain ⟨tail, rfl⟩ := List.head?_eq_some_iff.1 hhead
      exact hreturn tail rfl rfl

/-! ### Lines that are written out -/

/-- The first character of a line is no line feed. -/
theorem head?_ne_feed (h : '\n' ∉ line) : line.head? ≠ some '\n' :=
  fun hhead ↦ h (List.mem_of_head? hhead)

/-- A text without line feeds is one line. -/
theorem lines_of_notMem (hne : line ≠ []) (h : '\n' ∉ line) : lines line = [line] := by
  induction line with
  | nil => exact absurd rfl hne
  | cons c rest ih =>
    obtain ⟨hc, hrest⟩ := List.ne_and_not_mem_of_not_mem_cons h
    rw [lines_cons hc.symm fun _ ↦ head?_ne_feed hrest]
    rcases rest with - | ⟨d, rest⟩
    · rfl
    · rw [ih (List.cons_ne_nil _ _) hrest]
      rfl

/-- A text without line feeds stands in front of the first line of what follows, if it does not end
in a carriage return, which could belong to a line feed right behind it. -/
theorem lines_append_of_notMem (hne : a ≠ []) (h : '\n' ∉ a) (hreturn : a.getLast? ≠ some '\r') :
    lines (a ++ b) = (a ++ (lines b).headD []) :: (lines b).tail := by
  induction a with
  | nil => exact absurd rfl hne
  | cons c rest ih =>
    obtain ⟨hc, hrest⟩ := List.ne_and_not_mem_of_not_mem_cons h
    rcases rest with - | ⟨d, rest⟩
    · exact lines_cons hc.symm fun heq ↦ absurd (congrArg some heq) hreturn
    · rw [List.getLast?_cons_cons] at hreturn
      have hhead : (d :: rest ++ b).head? ≠ some '\n' := by
        rw [List.head?_append_of_ne_nil _ (List.cons_ne_nil _ _)]
        exact head?_ne_feed hrest
      rw [List.cons_append, lines_cons hc.symm fun _ ↦ hhead,
        ih (List.cons_ne_nil _ _) hrest hreturn]
      rfl

/-- A line as it is read back, without a carriage return at its end. -/
def withoutReturn (line : List Char) : List Char :=
  if line.getLast? = some '\r' then line.dropLast else line

theorem withoutReturn_cons (hne : line ≠ []) :
    withoutReturn (c :: line) = c :: withoutReturn line := by
  rw [withoutReturn, withoutReturn, List.getLast?_cons_of_ne_nil hne,
    List.dropLast_cons_of_ne_nil hne]
  split <;> rfl

theorem withoutReturn_of_getLast? (h : line.getLast? ≠ some '\r') : withoutReturn line = line :=
  if_neg h

/-- There is nothing in a line as it is read back that was not in it. -/
theorem withoutReturn_sublist (line : List Char) : (withoutReturn line).Sublist line := by
  rw [withoutReturn]
  split
  · exact List.dropLast_sublist line
  · exact List.Sublist.refl line

theorem lines_concat (h : '\n' ∉ line) : lines (line ++ ['\n']) = [withoutReturn line] := by
  induction line with
  | nil => rfl
  | cons c rest ih =>
    obtain ⟨hc, hrest⟩ := List.ne_and_not_mem_of_not_mem_cons h
    by_cases hnil : rest = []
    · subst hnil
      by_cases hreturn : c = '\r'
      · subst hreturn
        rfl
      · rw [List.singleton_append, lines_cons hc.symm fun h ↦ absurd h hreturn,
          withoutReturn_of_getLast? (by simpa using hreturn)]
        rfl
    · have hhead : (rest ++ ['\n']).head? ≠ some '\n' := by
        rw [List.head?_append_of_ne_nil _ hnil]
        exact head?_ne_feed hrest
      rw [List.cons_append, lines_cons hc.symm fun _ ↦ hhead, ih hrest,
        withoutReturn_cons hnil]
      rfl

/-- The text of lines, with a line feed after each. -/
def ofLines (all : List (List Char)) : List Char := all.flatMap (· ++ ['\n'])

theorem isEnded_ofLines (all : List (List Char)) : IsEnded (ofLines all) := by
  rcases List.eq_nil_or_concat' all with rfl | ⟨front, line, rfl⟩
  · exact Or.inl rfl
  · rw [ofLines, List.flatMap_append, List.flatMap_singleton, ← List.append_assoc]
    exact isEnded_concat _

/-- **Lines that are written out are read back**, but for carriage returns at their ends. -/
theorem lines_ofLines {all : List (List Char)} (h : ∀ line ∈ all, '\n' ∉ line) :
    lines (ofLines all) = all.map withoutReturn := by
  induction all with
  | nil => rfl
  | cons line rest ih =>
    rw [ofLines, List.flatMap_cons, lines_append (isEnded_concat line),
      lines_concat (h line List.mem_cons_self), List.map_cons, List.singleton_append]
    exact congrArg _ (ih fun other hother ↦ h other (List.mem_cons_of_mem _ hother))

end WorkspaceIndex.Text
