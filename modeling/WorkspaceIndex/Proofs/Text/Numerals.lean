import Mathlib.Data.List.Induction
import WorkspaceIndex.Proofs.Text.Pieces
import WorkspaceIndex.Text.Numeral
/-!
# Numbers as they are written

A number is written as a row of digits, and each digit that is put behind a row makes ten times as
much of it and adds its own value (`Writes`). Zeros in front make no difference, so there are many
rows for one number, but every row of digits writes one number and no other.

Reading a row gives the number that it writes if 32 bits are enough for it, and nothing otherwise
(`digits?_of_writes`). A numeral may have one plus sign in front of the row
(`numeral?_eq_some_iff`).
-/

namespace WorkspaceIndex.Text

variable {s digits suffix : List Char} {n d : Nat} {c : Char} {word : UInt32}

/-- The words of 32 bits are the numbers below `2 ^ 32`, which is `UInt32.size`. -/
theorem word?_eq_some_iff : word? n = some word ↔ n = word.toNat := by
  unfold word?
  split
  · rename_i hlt
    rw [Option.some.injEq, ← UInt32.toNat_inj, UInt32.toNat_ofNatLT]
  · rename_i hlt
    refine iff_of_false (by simp) ?_
    rintro rfl
    exact hlt word.toNat_lt

/-- The number of a word, where there is a word for it. -/
theorem map_toNat_word? (n : Nat) :
    (word? n).map UInt32.toNat = if n < UInt32.size then some n else none := by
  rw [word?]
  split
  · rw [Option.map_some, UInt32.toNat_ofNatLT]
  · rfl

/-! ### Rows of digits -/

theorem toNat_of_isDigit (h : c.isDigit = true) : 48 ≤ c.toNat ∧ c.toNat ≤ 57 := by
  rw [Char.isDigit, Bool.and_eq_true, decide_eq_true_iff, decide_eq_true_iff] at h
  exact h

theorem ne_of_isDigit {d : Char} (hc : c.isDigit = true) (hd : d.isDigit = false) : c ≠ d := by
  rintro rfl
  rw [hc] at hd
  cases hd

theorem isBlank_of_isDigit (h : c.isDigit = true) : isBlank c = false := by
  have hrange := toNat_of_isDigit h
  rw [← Bool.not_eq_true]
  intro hblank
  simp [isBlank] at hblank
  omega

/-- A row of digits and the number that it writes. -/
inductive Writes : List Char → Nat → Prop where
  | digit {d : Nat} (d_lt : d < 10) : Writes [d.digitChar] d
  | behind {digits : List Char} {n d : Nat} (writes : Writes digits n) (d_lt : d < 10) :
      Writes (digits ++ [d.digitChar]) (10 * n + d)

theorem digitValue_digitChar (h : d < 10) : digitValue d.digitChar = d :=
  Nat.toNat_digitChar_sub_48_of_lt_ten h

theorem exists_digitChar_of_isDigit (h : c.isDigit = true) : ∃ d < 10, c = d.digitChar := by
  have hrange := toNat_of_isDigit h
  have hlt : c.toNat - 48 < 10 := by omega
  refine ⟨c.toNat - 48, hlt, Char.toNat_inj.1 ?_⟩
  rw [Nat.toNat_digitChar_of_lt_ten hlt]
  omega

theorem digitsValue_singleton (c : Char) : digitsValue [c] = digitValue c := Nat.zero_add _

theorem digitsValue_concat (digits : List Char) (c : Char) :
    digitsValue (digits ++ [c]) = 10 * digitsValue digits + digitValue c := by
  rw [digitsValue, List.foldl_append, ← digitsValue, List.foldl_cons, List.foldl_nil]

theorem Writes.ne_nil (h : Writes digits n) : digits ≠ [] := by
  cases h <;> simp

theorem Writes.isDigit (h : Writes digits n) : ∀ c ∈ digits, c.isDigit = true := by
  induction h with
  | digit d_lt => simpa using d_lt
  | behind writes d_lt ih =>
    rw [List.forall_mem_append, List.forall_mem_singleton]
    exact ⟨ih, by simpa using d_lt⟩

theorem Writes.digitsValue_eq (h : Writes digits n) : digitsValue digits = n := by
  induction h with
  | digit d_lt => rw [digitsValue_singleton, digitValue_digitChar d_lt]
  | behind writes d_lt ih => rw [digitsValue_concat, ih, digitValue_digitChar d_lt]

/-- **Every row of digits writes one number**, and nothing else writes any. -/
theorem writes_iff :
    Writes digits n ↔
      digits ≠ [] ∧ (∀ c ∈ digits, c.isDigit = true) ∧ digitsValue digits = n := by
  refine ⟨fun h ↦ ⟨h.ne_nil, h.isDigit, h.digitsValue_eq⟩, ?_⟩
  rintro ⟨hne, hall, rfl⟩
  induction digits using List.reverseRecOn with
  | nil => exact absurd rfl hne
  | append_singleton digits c ih =>
    rw [List.forall_mem_append, List.forall_mem_singleton] at hall
    obtain ⟨d, hd, rfl⟩ := exists_digitChar_of_isDigit hall.2
    rcases eq_or_ne digits [] with rfl | hdigits
    · rw [List.nil_append, digitsValue_singleton, digitValue_digitChar hd]
      exact .digit hd
    · rw [digitsValue_concat, digitValue_digitChar hd]
      exact .behind (ih hdigits hall.1) hd

/-- The usual row for a number, without zeros in front. -/
theorem writes_toDigits (n : Nat) : Writes (Nat.toDigits 10 n) n :=
  writes_iff.2 ⟨Nat.toDigits_ne_nil, fun _ ↦ Nat.isDigit_of_mem_toDigits (by decide) le_rfl,
    Nat.ofDigitChars_toDigits (by decide) le_rfl⟩

/-! ### Reading a row -/

/-- **A row of digits is read as the number that it writes**, if that is below `2 ^ 32`. -/
theorem digits?_of_writes (h : Writes digits n) : digits? digits = word? n := by
  obtain ⟨hne, hall, rfl⟩ := writes_iff.1 h
  rw [digits?, if_pos]
  simpa [hne] using hall

theorem digits?_eq_some_iff : digits? s = some word ↔ Writes s word.toNat := by
  constructor
  · intro h
    rw [digits?] at h
    split at h
    · rename_i hrow
      rw [Bool.and_eq_true, Bool.not_eq_true', List.isEmpty_eq_false_iff, List.all_eq_true] at hrow
      exact writes_iff.2 ⟨hrow.1, hrow.2, word?_eq_some_iff.1 h⟩
    · cases h
  · intro h
    rw [digits?_of_writes h, word?_eq_some_iff]

/-- What goes on behind a row of digits with anything but a digit is not part of the row. -/
theorem takeWhile_isDigit_append (h : ∀ c ∈ digits, c.isDigit = true)
    (hsuffix : ∀ c ∈ suffix.head?, c.isDigit = false) :
    (digits ++ suffix).takeWhile Char.isDigit = digits := by
  have hstop : suffix.takeWhile Char.isDigit = [] := by
    rcases suffix with - | ⟨c, rest⟩
    · rfl
    · exact List.takeWhile_cons_of_neg (by simp [hsuffix c rfl])
  rw [List.takeWhile_append_of_pos h, hstop, List.append_nil]

/-! ### Numerals -/

/-- A number of 32 bits as it may be written: a row of digits with or without a plus sign in front.
-/
def IsNumeral (s : List Char) (n : Nat) : Prop :=
  n < UInt32.size ∧ ∃ digits, (s = digits ∨ s = '+' :: digits) ∧ Writes digits n

/-- **Reading a numeral gives the number that it writes.** -/
theorem numeral?_eq_some_iff : numeral? s = some word ↔ IsNumeral s word.toNat := by
  rw [IsNumeral, and_iff_right word.toNat_lt, numeral?.eq_def]
  split
  · rename_i digits
    rw [digits?_eq_some_iff]
    refine ⟨fun h ↦ ⟨digits, Or.inr rfl, h⟩, ?_⟩
    rintro ⟨other, rfl | heq, h⟩
    · exact absurd (h.isDigit '+' List.mem_cons_self) (by decide)
    · exact (List.cons.inj heq).2 ▸ h
  · rename_i hplus
    rw [digits?_eq_some_iff]
    refine ⟨fun h ↦ ⟨s, Or.inl rfl, h⟩, ?_⟩
    rintro ⟨other, rfl | rfl, h⟩
    · exact h
    · exact absurd rfl (hplus other)

theorem exists_numeral?_of_isNumeral (h : IsNumeral s n) : ∃ word, numeral? s = some word := by
  have hword : (UInt32.ofNatLT n h.1).toNat = n := UInt32.toNat_ofNatLT
  exact ⟨_, numeral?_eq_some_iff.2 (hword.symm ▸ h)⟩

theorem numeral?_eq_none_iff : numeral? s = none ↔ ∀ n, ¬ IsNumeral s n := by
  rw [Option.eq_none_iff_forall_ne_some]
  refine ⟨fun h n hn ↦ ?_, fun h word hword ↦ h _ (numeral?_eq_some_iff.1 hword)⟩
  obtain ⟨word, hword⟩ := exists_numeral?_of_isNumeral hn
  exact h word hword

/-! ### The usual numeral -/

section Decimal

variable {n : UInt32}

/-- The numeral of a number, without leading zeros. -/
def decimal (n : UInt32) : List Char := Nat.toDigits 10 n.toNat

theorem decimal_ne_nil (n : UInt32) : decimal n ≠ [] := Nat.toDigits_ne_nil

theorem isDigit_of_mem_decimal (h : c ∈ decimal n) : c.isDigit = true :=
  (writes_toDigits n.toNat).isDigit c h

/-- A character that is no digit is not in a numeral. -/
theorem notMem_decimal (h : c.isDigit = false) : c ∉ decimal n := fun hmem ↦
  ne_of_isDigit (isDigit_of_mem_decimal hmem) h rfl

theorem isTrimmed_decimal : IsTrimmed (decimal n) :=
  ⟨fun _ h ↦ isBlank_of_isDigit (isDigit_of_mem_decimal (List.mem_of_head? h)),
    fun _ h ↦ isBlank_of_isDigit (isDigit_of_mem_decimal (List.mem_of_getLast? h))⟩

theorem isNumeral_decimal (n : UInt32) : IsNumeral (decimal n) n.toNat :=
  ⟨n.toNat_lt, _, Or.inl rfl, writes_toDigits _⟩

/-- **A number is read back from its numeral.** -/
theorem numeral?_decimal : numeral? (decimal n) = some n :=
  numeral?_eq_some_iff.2 (isNumeral_decimal n)

end Decimal

end WorkspaceIndex.Text
