import Mathlib.Data.List.Infix
import Mathlib.Data.List.TakeWhile
import WorkspaceIndex.Text.Blank
import WorkspaceIndex.Text.Cut
/-!
# Pieces of a line

What is read off a line is cut out of it and trimmed. Both are compared with what they undo.

A cut is made where a separator occurs first. An occurrence may begin in a piece and reach over its
end, so whether one begins in a piece depends on what follows it (`Clear`). A piece that does not
hold the separator is clear of it as soon as no occurrence can reach over its end
(`clear_of_not_infix`). The cuts at a single character, the first of a class or the last that
occurs, have no such trouble (`cutWhere?_eq_some_iff`, `cutLast?_eq_some_iff`). What trimming leaves
is the one trimmed text with blanks around it (`trim_eq_iff`).
-/

namespace WorkspaceIndex.Text

variable {sep before after rest s a b : List Char} {c d : Char}

/-! ### The first occurrence of a separator -/

/-- No occurrence of `sep` begins in a text that is followed by `rest`. -/
def Clear (sep : List Char) : List Char → List Char → Prop
  | [], _ => True
  | c :: before, rest => ¬sep <+: c :: (before ++ rest) ∧ Clear sep before rest

theorem clear_append : Clear sep (a ++ b) rest ↔ Clear sep a (b ++ rest) ∧ Clear sep b rest := by
  induction a with
  | nil => simp [Clear]
  | cons c a ih => simp [Clear, ih, and_assoc]

/-- The first cut of a text is not made in a piece in front of it that is clear. -/
theorem cut?_append (h : Clear sep before rest) :
    cut? sep (before ++ rest) = (cut? sep rest).map fun found ↦ (before ++ found.1, found.2) := by
  induction before with
  | nil => simp
  | cons c before ih =>
    have hnone : sep.isPrefixOf? (c :: (before ++ rest)) = none := by
      rw [Option.eq_none_iff_forall_not_mem]
      exact fun tail htail ↦ h.1 ⟨tail, List.isPrefixOf?_eq_some_iff_append_eq.1 htail⟩
    rw [List.cons_append, cut?, hnone]
    simp only [ih h.2, Option.map_map]
    rfl

theorem cut?_self (hne : sep ≠ []) : cut? sep (sep ++ after) = some ([], after) := by
  obtain ⟨c, more, rfl⟩ := List.exists_cons_of_ne_nil hne
  have hprefix : (c :: more).isPrefixOf? (c :: (more ++ after)) = some after :=
    List.isPrefixOf?_eq_some_iff_append_eq.2 rfl
  rw [List.cons_append, cut?, hprefix]

/-- **A text is cut where the separator occurs first.** -/
theorem cut?_eq_some_iff (hne : sep ≠ []) :
    cut? sep s = some (before, after) ↔
      s = before ++ (sep ++ after) ∧ Clear sep before (sep ++ after) := by
  constructor
  · intro h
    induction s generalizing before with
    | nil =>
      rw [cut?, if_neg (by simpa using hne)] at h
      cases h
    | cons c rest ih =>
      rw [cut?] at h
      split at h
      · rename_i tail htail
        cases h
        exact ⟨(List.isPrefixOf?_eq_some_iff_append_eq.1 htail).symm, trivial⟩
      · rename_i hnone
        obtain ⟨⟨front, tail⟩, hcut, hfound⟩ := Option.map_eq_some_iff.1 h
        cases hfound
        obtain ⟨rfl, hclear⟩ := ih hcut
        refine ⟨rfl, fun ⟨tail, htail⟩ ↦ ?_, hclear⟩
        rw [List.isPrefixOf?_eq_some_iff_append_eq.2 htail] at hnone
        cases hnone
  · rintro ⟨rfl, h⟩
    rw [cut?_append h, cut?_self hne]
    simp

theorem cut?_eq_none_iff (hne : sep ≠ []) : cut? sep s = none ↔ ¬sep <:+: s := by
  induction s with
  | nil => simp [cut?, hne]
  | cons c rest ih =>
    rw [cut?, List.infix_cons_iff, not_or, ← ih]
    split
    · rename_i tail htail
      have hstart : sep <+: c :: rest := ⟨tail, List.isPrefixOf?_eq_some_iff_append_eq.1 htail⟩
      simp [hstart]
    · rename_i hnone
      have hstart : ¬sep <+: c :: rest := fun ⟨tail, htail⟩ ↦ by
        rw [List.isPrefixOf?_eq_some_iff_append_eq.2 htail] at hnone
        cases hnone
      simp [hstart]

/-- Where a separator occurs, it begins behind every piece in front that is clear of it. -/
theorem Clear.prefix_of_eq {front back : List Char} (h : Clear sep before rest)
    (heq : before ++ rest = front ++ (sep ++ back)) : before <+: front := by
  induction before generalizing front with
  | nil => exact List.nil_prefix
  | cons c before ih =>
    rcases front with - | ⟨d, front⟩
    · exact absurd ⟨back, heq.symm⟩ h.1
    · obtain ⟨rfl, htail⟩ := List.cons.inj heq
      exact List.cons_prefix_cons.2 ⟨rfl, ih h.2 htail⟩

/-! ### Positions in bytes -/

theorem byteLength_append (a b : List Char) :
    byteLength (a ++ b) = byteLength a + byteLength b := by
  induction a with
  | nil => exact (Nat.zero_add _).symm
  | cons c a ih => rw [List.cons_append, byteLength, ih, byteLength, Nat.add_assoc]

/-- **What is found is the first occurrence**, by the number of bytes in front of it. -/
theorem find?_eq_some_iff {needle : List Char} (hne : needle ≠ []) {offset : Nat} :
    find? needle s = some offset ↔
      (∃ front back, s = front ++ (needle ++ back) ∧ offset = byteLength front) ∧
        ∀ front back, s = front ++ (needle ++ back) → offset ≤ byteLength front := by
  have hfirst {front back : List Char} (hcut : cut? needle s = some (front, back)) :
      s = front ++ (needle ++ back) ∧
        ∀ front' back', s = front' ++ (needle ++ back') → byteLength front ≤ byteLength front' := by
    obtain ⟨hs, hclear⟩ := (cut?_eq_some_iff hne).1 hcut
    refine ⟨hs, fun front' back' hs' ↦ ?_⟩
    obtain ⟨more, rfl⟩ := hclear.prefix_of_eq (hs.symm.trans hs')
    rw [byteLength_append]
    exact Nat.le_add_right _ _
  rw [find?, Option.map_eq_some_iff]
  constructor
  · rintro ⟨⟨front, back⟩, hcut, rfl⟩
    obtain ⟨hs, hmin⟩ := hfirst hcut
    exact ⟨⟨front, back, hs, rfl⟩, hmin⟩
  · rintro ⟨⟨front, back, hs, rfl⟩, hmin⟩
    rcases hcut : cut? needle s with - | ⟨front', back'⟩
    · exact absurd ⟨front, back, by rw [hs, List.append_assoc]⟩ ((cut?_eq_none_iff hne).1 hcut)
    · obtain ⟨hs', hmin'⟩ := hfirst hcut
      exact ⟨_, rfl, Nat.le_antisymm (hmin' _ _ hs) (hmin _ _ hs')⟩

theorem find?_eq_none_iff {needle : List Char} (hne : needle ≠ []) :
    find? needle s = none ↔ ∀ front back, s ≠ front ++ (needle ++ back) := by
  rw [find?, Option.map_eq_none_iff, cut?_eq_none_iff hne]
  constructor
  · rintro h front back rfl
    exact h ⟨front, back, List.append_assoc _ _ _⟩
  · rintro h ⟨front, back, rfl⟩
    exact h front back (List.append_assoc _ _ _)

/-! ### Separators that cannot begin -/

/-- A separator cannot begin where its first character does not stand. -/
theorem clear_of_notMem (h : c ∉ before) : Clear (c :: sep) before rest := by
  induction before with
  | nil => trivial
  | cons d before ih =>
    obtain ⟨hc, hbefore⟩ := List.ne_and_not_mem_of_not_mem_cons h
    exact ⟨fun hprefix ↦ hc (List.cons_prefix_cons.1 hprefix).1, ih hbefore⟩

/-- A text is cut at the first place of a character. -/
theorem cut?_singleton (h : c ∉ before) : cut? [c] (before ++ c :: after) = some (before, after) :=
  (cut?_eq_some_iff (List.cons_ne_nil c [])).2 ⟨rfl, clear_of_notMem h⟩

/-- A text is cut at the first place of a character, and nowhere else. -/
theorem cut?_singleton_eq_some_iff : cut? [c] s = some (before, after) ↔
    s = before ++ c :: after ∧ c ∉ before := by
  refine ⟨fun h ↦ ?_, fun ⟨hs, hbefore⟩ ↦ hs ▸ cut?_singleton hbefore⟩
  obtain ⟨rfl, hclear⟩ := (cut?_eq_some_iff (List.cons_ne_nil c [])).1 h
  refine ⟨rfl, fun hmem ↦ ?_⟩
  obtain ⟨front, tail, rfl⟩ := List.append_of_mem hmem
  exact (clear_append.1 hclear).2.1 ⟨tail ++ c :: after, rfl⟩

theorem cut?_singleton_eq_none_iff : cut? [c] s = none ↔ c ∉ s := by
  refine ⟨fun h hmem ↦ ?_, fun h ↦ ?_⟩
  · obtain ⟨front, tail, rfl, hfront⟩ := List.eq_append_cons_of_mem hmem
    rw [cut?_singleton hfront] at h
    cases h
  · rw [Option.eq_none_iff_forall_not_mem]
    rintro ⟨front, tail⟩ hcut
    obtain ⟨rfl, -⟩ := cut?_singleton_eq_some_iff.1 hcut
    exact h (by simp)

/-- A piece without the separator is clear of it if what follows cannot begin with the rest of a
separator that begins in the piece. -/
theorem clear_of_not_infix (hheld : ¬sep <:+: before)
    (hreach : ∀ front tail, front ≠ [] → tail ≠ [] → sep = front ++ tail → ¬tail <+: rest) :
    Clear sep before rest := by
  induction before with
  | nil => trivial
  | cons c before ih =>
    refine ⟨fun hprefix ↦ ?_, ih fun h ↦ hheld (List.infix_cons h)⟩
    rw [← List.cons_append] at hprefix
    -- an occurrence ends in the piece, or the piece is a beginning of it
    rcases List.prefix_or_prefix_of_prefix hprefix (List.prefix_append _ rest) with hsep | hfront
    · exact hheld hsep.isInfix
    · obtain ⟨tail, rfl⟩ := hfront
      by_cases hnil : tail = []
      · subst hnil
        exact hheld (by simp)
      · exact hreach _ tail (List.cons_ne_nil _ _) hnil rfl
          ((List.prefix_append_right_inj _).1 hprefix)

/-- No separator reaches over an end that is followed by a character from which it cannot go on. -/
theorem clear_of_head? (hheld : ¬c :: sep <:+: before) (hrest : ∀ d ∈ rest.head?, d ∉ sep) :
    Clear (c :: sep) before rest := by
  refine clear_of_not_infix hheld fun front tail hfront htail hsep hprefix ↦ ?_
  obtain ⟨d, more, rfl⟩ := List.exists_cons_of_ne_nil htail
  obtain ⟨later, rfl⟩ := hprefix
  obtain ⟨_, front, rfl⟩ := List.exists_cons_of_ne_nil hfront
  refine hrest d rfl ?_
  rw [(List.cons.inj hsep).2]
  exact List.mem_append_right _ List.mem_cons_self

/-- No separator reaches over an end that is followed by two characters, the first of which cannot
be its last and the second not in it. -/
theorem clear_of_pair (hheld : ¬sep <:+: before) (hlast : sep.getLast? ≠ some c) (hd : d ∉ sep) :
    Clear sep before (c :: d :: rest) := by
  refine clear_of_not_infix hheld fun front tail _ htail hsep hprefix ↦ ?_
  obtain ⟨e, more, rfl⟩ := List.exists_cons_of_ne_nil htail
  obtain ⟨rfl, hmore⟩ := List.cons_prefix_cons.1 hprefix
  rcases more with - | ⟨f, more⟩
  · exact hlast (by simp [hsep])
  · obtain ⟨rfl, -⟩ := List.cons_prefix_cons.1 hmore
    exact hd (by simp [hsep])

/-! ### The last occurrence of a character -/

theorem cutLast?_eq_none_iff : cutLast? c s = none ↔ c ∉ s := by
  induction s with
  | nil => simp [cutLast?]
  | cons d rest ih =>
    rw [cutLast?]
    split
    · rename_i hsome
      have hmem : c ∈ rest := by
        by_contra hnot
        rw [ih.2 hnot] at hsome
        cases hsome
      simp [hmem]
    · rename_i hnone
      simp [ih.1 hnone, eq_comm]

/-- **A text is cut where the character occurs last.** -/
theorem cutLast?_eq_some_iff :
    cutLast? c s = some (before, after) ↔ s = before ++ c :: after ∧ c ∉ after := by
  constructor
  · intro h
    induction s generalizing before with
    | nil => cases h
    | cons d rest ih =>
      rw [cutLast?] at h
      split at h
      · rename_i hsome
        cases h
        obtain ⟨rfl, hafter⟩ := ih hsome
        exact ⟨rfl, hafter⟩
      · rename_i hnone
        split at h
        · rename_i heq
          cases h
          exact ⟨by rw [heq]; rfl, cutLast?_eq_none_iff.1 hnone⟩
        · cases h
  · rintro ⟨rfl, h⟩
    have hself : cutLast? c (c :: after) = some ([], after) := by
      rw [cutLast?, cutLast?_eq_none_iff.2 h]
      simp
    induction before with
    | nil => exact hself
    | cons d before ih => rw [List.cons_append, cutLast?, ih]

/-- There is one way to cut a text at the last occurrence of a character. -/
theorem eq_of_cutLast {front tail : List Char} (h : before ++ c :: after = front ++ c :: tail)
    (hafter : c ∉ after) (htail : c ∉ tail) : before = front ∧ after = tail := by
  have hcut := cutLast?_eq_some_iff.2 ⟨h, htail⟩
  rw [cutLast?_eq_some_iff.2 ⟨rfl, hafter⟩] at hcut
  exact Prod.mk.inj (Option.some.inj hcut)

/-! ### The first character of a class -/

theorem cutWhere?_eq_none_iff {p : Char → Bool} : cutWhere? p s = none ↔ ∀ c ∈ s, p c = false := by
  induction s with
  | nil => simp [cutWhere?]
  | cons c rest ih =>
    rw [cutWhere?, List.forall_mem_cons]
    by_cases hc : p c = true
    · simp [hc]
    · simp [hc, ih]

/-- **A text is cut at the first character of a class.** -/
theorem cutWhere?_eq_some_iff {p : Char → Bool} :
    cutWhere? p s = some (before, after) ↔
      ∃ c, p c = true ∧ s = before ++ c :: after ∧ ∀ d ∈ before, p d = false := by
  constructor
  · intro h
    induction s generalizing before with
    | nil => cases h
    | cons c rest ih =>
      rw [cutWhere?] at h
      split at h
      · rename_i hc
        cases h
        exact ⟨c, hc, rfl, fun d hd ↦ absurd hd List.not_mem_nil⟩
      · rename_i hc
        obtain ⟨⟨front, tail⟩, hcut, hfound⟩ := Option.map_eq_some_iff.1 h
        cases hfound
        obtain ⟨e, he, rfl, hfront⟩ := ih hcut
        exact ⟨e, he, rfl, List.forall_mem_cons.2 ⟨by simpa using hc, hfront⟩⟩
  · rintro ⟨c, hc, rfl, hbefore⟩
    induction before with
    | nil => rw [List.nil_append, cutWhere?, if_pos hc]
    | cons d before ih =>
      obtain ⟨hd, hbefore⟩ := List.forall_mem_cons.1 hbefore
      rw [List.cons_append, cutWhere?, if_neg (by simp [hd]), ih hbefore]
      rfl

/-! ### Blanks at the ends -/

/-- A text with no blank at either end. -/
def IsTrimmed (s : List Char) : Prop :=
  (∀ c ∈ s.head?, isBlank c = false) ∧ ∀ c ∈ s.getLast?, isBlank c = false

instance : DecidablePred IsTrimmed := fun s ↦
  decidable_of_iff (s.head?.any isBlank = false ∧ s.getLast?.any isBlank = false) <| by
    rw [IsTrimmed]
    cases s.head? <;> cases s.getLast? <;> simp

theorem dropFront_of_head? {p : Char → Bool} (h : ∀ c ∈ s.head?, p c = false) :
    dropFront p s = s := by
  rcases s with - | ⟨c, rest⟩
  · rfl
  · rw [dropFront, List.dropWhile_cons_of_neg (by simp [h c rfl])]

theorem dropBack_of_getLast? {p : Char → Bool} (h : ∀ c ∈ s.getLast?, p c = false) :
    dropBack p s = s := by
  have hfront : dropFront p s.reverse = s.reverse :=
    dropFront_of_head? (by simpa using h)
  rw [dropBack, ← dropFront, hfront, List.reverse_reverse]

/-- What is behind the last character that is kept is dropped. -/
theorem dropBack_append {p : Char → Bool} (h : ∀ c ∈ s.getLast?, p c = false)
    (hrest : ∀ c ∈ rest, p c = true) : dropBack p (s ++ rest) = s := by
  rw [dropBack, List.reverse_append, List.dropWhile_append_of_pos (by simpa using hrest),
    ← dropBack, dropBack_of_getLast? h]

/-- What is left behind the leading characters of a class, and what they are. -/
theorem dropFront_eq_iff {p : Char → Bool} :
    dropFront p s = a ↔ ∃ front, s = front ++ a ∧ (∀ c ∈ front, p c = true) ∧
      ∀ c ∈ a.head?, p c = false := by
  constructor
  · rintro rfl
    refine ⟨s.takeWhile p, List.takeWhile_append_dropWhile.symm,
      fun c hc ↦ List.mem_takeWhile_imp hc, fun c hc ↦ ?_⟩
    have hhead := List.head?_dropWhile_not p s
    rw [← dropFront, Option.mem_def.1 hc] at hhead
    exact hhead
  · rintro ⟨front, rfl, hfront, ha⟩
    rw [dropFront, List.dropWhile_append_of_pos hfront, ← dropFront, dropFront_of_head? ha]

/-- What is left before the trailing characters of a class, and what they are. -/
theorem dropBack_eq_iff {p : Char → Bool} :
    dropBack p s = a ↔ ∃ back, s = a ++ back ∧ (∀ c ∈ back, p c = true) ∧
      ∀ c ∈ a.getLast?, p c = false := by
  constructor
  · intro h
    have hfront : dropFront p s.reverse = a.reverse := by
      rw [← h, dropBack, List.reverse_reverse, dropFront]
    obtain ⟨front, hs, hall, hhead⟩ := dropFront_eq_iff.1 hfront
    refine ⟨front.reverse, ?_, by simpa using hall, by simpa using hhead⟩
    rw [← List.reverse_reverse s, hs, List.reverse_append, List.reverse_reverse]
  · rintro ⟨back, rfl, hback, ha⟩
    exact dropBack_append ha hback

theorem IsTrimmed.trim_eq (h : IsTrimmed s) : trim s = s := by
  rw [trim, trimFront, dropFront_of_head? h.1, trimBack, dropBack_of_getLast? h.2]

/-- **Trimming takes the blanks off both ends**, and nothing else is what is left. -/
theorem trim_eq_iff :
    trim s = a ↔ ∃ front back, s = front ++ (a ++ back) ∧ isAllBlank front = true ∧
      isAllBlank back = true ∧ IsTrimmed a := by
  simp only [isAllBlank, List.all_eq_true]
  constructor
  · intro h
    obtain ⟨back, hkept, hback, hlast⟩ := dropBack_eq_iff.1 h
    obtain ⟨front, hs, hfront, hhead⟩ := dropFront_eq_iff.1 hkept
    refine ⟨front, back, hs, hfront, hback, fun c hc ↦ hhead c ?_, hlast⟩
    obtain ⟨rest, rfl⟩ := List.head?_eq_some_iff.1 hc
    rfl
  · rintro ⟨front, back, rfl, hfront, hback, ha⟩
    rw [trim, trimFront, dropFront, List.dropWhile_append_of_pos hfront, ← dropFront]
    rcases a with - | ⟨c, rest⟩
    · -- nothing is left of blanks only
      rw [List.nil_append, dropFront, List.dropWhile_eq_nil_iff.2 hback]
      rfl
    · rw [dropFront_of_head? (s := c :: rest ++ back) ha.1]
      exact dropBack_append ha.2 hback

theorem trim_cons (hc : isBlank c = true) : trim (c :: s) = trim s := by
  rw [trim, trim, trimFront, trimFront, dropFront, List.dropWhile_cons_of_pos hc, dropFront]

theorem isAllBlank_append (ha : isAllBlank a = true) (hb : isAllBlank b = true) :
    isAllBlank (a ++ b) = true := by
  rw [isAllBlank, List.all_append, ← isAllBlank, ← isAllBlank, ha, hb, Bool.true_and]

theorem trim_append_left (ha : isAllBlank a = true) : trim (a ++ s) = trim s := by
  obtain ⟨front, back, hs, hfront, hback, htrimmed⟩ := trim_eq_iff.1 (rfl : trim s = trim s)
  refine trim_eq_iff.2 ⟨a ++ front, back, ?_, isAllBlank_append ha hfront, hback, htrimmed⟩
  rw [List.append_assoc, ← hs]

theorem trim_append_right (ha : isAllBlank a = true) : trim (s ++ a) = trim s := by
  obtain ⟨front, back, hs, hfront, hback, htrimmed⟩ := trim_eq_iff.1 (rfl : trim s = trim s)
  refine trim_eq_iff.2 ⟨front, back ++ a, ?_, hfront, isAllBlank_append hback ha, htrimmed⟩
  rw [← List.append_assoc (trim s), ← List.append_assoc, ← hs]

end WorkspaceIndex.Text
