import WorkspaceIndex.Proofs.Text.Numerals
import WorkspaceIndex.Proofs.Text.Words
import WorkspaceIndex.Version
/-!
# Versions as they are written

A version is written as three numerals with dots between them. The dots alone settle which texts are
the three (`HasComponents`), since there is no dot in a numeral, and the numerals settle the
numbers. So a text is read as one version at most, and what is wrong with a text that is none is
settled as well: the number of its dots, or the first component that is no numeral (`Complaint`).

Many texts are read as the same version, as there may be plus signs and zeros in front of a number.
The written form of a version is one of them (`parse_text`), so to read it and to write it out again
ends after one round.
-/

namespace WorkspaceIndex.Version

open Text

variable {text : String} {major minor patch : List Char}

/-- The three components of a text with two dots. -/
structure HasComponents (text : String) (major minor patch : List Char) : Prop where
  toList_eq : text.toList = major ++ '.' :: (minor ++ '.' :: patch)
  major_undotted : '.' ∉ major
  minor_undotted : '.' ∉ minor
  patch_undotted : '.' ∉ patch

theorem splitOn_eq_triple_iff :
    text.toList.splitOn '.' = [major, minor, patch] ↔ HasComponents text major minor patch := by
  rw [splitOn_eq_iff]
  constructor
  · rintro ⟨-, hdots, htext⟩
    simp only [List.forall_mem_cons] at hdots
    exact ⟨by simpa using htext, hdots.1, hdots.2.1, hdots.2.2.1⟩
  · rintro ⟨htext, hmajor, hminor, hpatch⟩
    refine ⟨List.cons_ne_nil _ _, ?_, by simpa using htext⟩
    simp only [List.forall_mem_cons]
    exact ⟨hmajor, hminor, hpatch, fun _ h ↦ absurd h List.not_mem_nil⟩

/-- **A text has three components exactly if it has two dots.** -/
theorem exists_hasComponents_iff :
    (∃ major minor patch, HasComponents text major minor patch) ↔ text.toList.count '.' = 2 := by
  simp only [← splitOn_eq_triple_iff]
  rw [← Nat.add_left_inj (n := 1), ← length_splitOn, List.length_eq_three]

/-! ### Reading -/

/-- What is said about a text that is no version: that it has not the shape of one, or which of its
components is the first that is no numeral. -/
inductive Complaint (text : String) : String → Prop where
  | shape (dots : text.toList.count '.' ≠ 2) :
      Complaint text ("invalid version '" ++ text ++ "', expected 'X.Y.Z'")
  | major {major minor patch : List Char} (components : HasComponents text major minor patch)
      (unread : ∀ n, ¬ IsNumeral major n) : Complaint text ("invalid major in '" ++ text ++ "'")
  | minor {major minor patch : List Char} {n : Nat}
      (components : HasComponents text major minor patch) (read : IsNumeral major n)
      (unread : ∀ n, ¬ IsNumeral minor n) : Complaint text ("invalid minor in '" ++ text ++ "'")
  | patch {major minor patch : List Char} {n n' : Nat}
      (components : HasComponents text major minor patch) (read : IsNumeral major n)
      (read' : IsNumeral minor n') (unread : ∀ n, ¬ IsNumeral patch n) :
      Complaint text ("invalid patch in '" ++ text ++ "'")

/-- **A text is read as a version exactly if its three components are the numerals of its numbers.**
-/
theorem parse_eq_ok_iff {v : Version} :
    parse text = .ok v ↔ ∃ major minor patch, HasComponents text major minor patch ∧
      IsNumeral major v.major.toNat ∧ IsNumeral minor v.minor.toNat ∧
        IsNumeral patch v.patch.toNat := by
  simp only [← numeral?_eq_some_iff, ← splitOn_eq_triple_iff]
  constructor
  · intro h
    rw [parse] at h
    split at h
    · rename_i major minor patch hsplit
      split at h
      · cases h
      · cases h
      · cases h
      · rename_i hmajor hminor hpatch
        cases h
        exact ⟨major, minor, patch, hsplit, hmajor, hminor, hpatch⟩
    · cases h
  · rintro ⟨major, minor, patch, hsplit, hmajor, hminor, hpatch⟩
    rw [parse, hsplit]
    simp only [hmajor, hminor, hpatch]

theorem parse_of_shape (h : text.toList.count '.' ≠ 2) : parse text = .error (.shape text) := by
  rw [parse]
  split
  · rename_i major minor patch hsplit
    have hcomponents := splitOn_eq_triple_iff.1 hsplit
    exact absurd (exists_hasComponents_iff.1 ⟨major, minor, patch, hcomponents⟩) h
  · rfl

theorem parse_of_major (h : HasComponents text major minor patch)
    (unread : numeral? major = none) : parse text = .error (.major text) := by
  rw [parse, splitOn_eq_triple_iff.2 h]
  simp only [unread]

theorem parse_of_minor {word : UInt32} (h : HasComponents text major minor patch)
    (read : numeral? major = some word) (unread : numeral? minor = none) :
    parse text = .error (.minor text) := by
  rw [parse, splitOn_eq_triple_iff.2 h]
  simp only [read, unread]

theorem parse_of_patch {word word' : UInt32} (h : HasComponents text major minor patch)
    (read : numeral? major = some word) (read' : numeral? minor = some word')
    (unread : numeral? patch = none) : parse text = .error (.patch text) := by
  rw [parse, splitOn_eq_triple_iff.2 h]
  simp only [read, read', unread]

/-- What is wrong with a text is reported. -/
theorem exists_error_of_complaint {message : String} (h : Complaint text message) :
    ∃ e, parse text = .error e ∧ e.message = message := by
  cases h with
  | shape dots => exact ⟨_, parse_of_shape dots, rfl⟩
  | major components unread =>
    exact ⟨_, parse_of_major components (numeral?_eq_none_iff.2 unread), rfl⟩
  | minor components read unread =>
    obtain ⟨word, hword⟩ := exists_numeral?_of_isNumeral read
    exact ⟨_, parse_of_minor components hword (numeral?_eq_none_iff.2 unread), rfl⟩
  | patch components read read' unread =>
    obtain ⟨word, hword⟩ := exists_numeral?_of_isNumeral read
    obtain ⟨word', hword'⟩ := exists_numeral?_of_isNumeral read'
    exact ⟨_, parse_of_patch components hword hword' (numeral?_eq_none_iff.2 unread), rfl⟩

/-- There is nothing wrong with a text only if it is read. -/
theorem exists_complaint_or_ok (text : String) :
    (∃ message, Complaint text message) ∨ ∃ v, parse text = .ok v := by
  by_cases hdots : text.toList.count '.' = 2
  · obtain ⟨major, minor, patch, h⟩ := exists_hasComponents_iff.2 hdots
    rcases hmajor : numeral? major with - | word
    · exact Or.inl ⟨_, .major h (numeral?_eq_none_iff.1 hmajor)⟩
    rcases hminor : numeral? minor with - | word'
    · exact Or.inl ⟨_, .minor h (numeral?_eq_some_iff.1 hmajor) (numeral?_eq_none_iff.1 hminor)⟩
    rcases hpatch : numeral? patch with - | word''
    · exact Or.inl ⟨_, .patch h (numeral?_eq_some_iff.1 hmajor) (numeral?_eq_some_iff.1 hminor)
        (numeral?_eq_none_iff.1 hpatch)⟩
    · refine Or.inr ⟨⟨word, word', word''⟩, parse_eq_ok_iff.2 ⟨major, minor, patch, h, ?_, ?_, ?_⟩⟩
      · exact numeral?_eq_some_iff.1 hmajor
      · exact numeral?_eq_some_iff.1 hminor
      · exact numeral?_eq_some_iff.1 hpatch
  · exact Or.inl ⟨_, .shape hdots⟩

/-- **What is said about a text that is not read is what is wrong with it.** -/
theorem parse_eq_error_iff {message : String} :
    (∃ e, parse text = .error e ∧ e.message = message) ↔ Complaint text message := by
  refine ⟨?_, exists_error_of_complaint⟩
  rintro ⟨e, h, rfl⟩
  rcases exists_complaint_or_ok text with ⟨message, hcomplaint⟩ | ⟨v, hv⟩
  · obtain ⟨e', h', rfl⟩ := exists_error_of_complaint hcomplaint
    rw [h] at h'
    exact Except.error.inj h' ▸ hcomplaint
  · rw [h] at hv
    cases hv

/-! ### Writing -/

theorem hasComponents_text (v : Version) :
    HasComponents v.text (decimal v.major) (decimal v.minor) (decimal v.patch) where
  toList_eq := by
    have hdot : toString "." = "." := rfl
    simp [Version.text, decimal, Nat.repr, hdot]
  major_undotted := notMem_decimal (by decide)
  minor_undotted := notMem_decimal (by decide)
  patch_undotted := notMem_decimal (by decide)

/-- **The written form of a version is read as that version.** -/
theorem parse_text (v : Version) : parse v.text = .ok v :=
  parse_eq_ok_iff.2 ⟨_, _, _, hasComponents_text v, isNumeral_decimal _, isNumeral_decimal _,
    isNumeral_decimal _⟩

/-- **Which texts are versions.** A text is read exactly if it has two dots and each component is a
numeral of 32 bits, that is a row of digits with or without a plus sign in front, of a number below
`2 ^ 32`; the version has the numbers that are written there. Of any other text it is said that it
has not the shape of a version, if the number of its dots is another, or else which of its
components is the first that is no such numeral. And the written form of a version is read as that
version, so a text that is read, written out and read again gives what it gave. -/
theorem parse_of_written (text : String) :
    ((∃ v, parse text = .ok v) ↔ text.toList.count '.' = 2 ∧
        ∀ component ∈ text.toList.splitOn '.', ∃ n, IsNumeral component n) ∧
      (∀ v, parse text = .ok v ↔ ∃ major minor patch, HasComponents text major minor patch ∧
        IsNumeral major v.major.toNat ∧ IsNumeral minor v.minor.toNat ∧
          IsNumeral patch v.patch.toNat) ∧
      (∀ message, (∃ e, parse text = .error e ∧ e.message = message) ↔ Complaint text message) ∧
      (∀ v : Version, parse v.text = .ok v) ∧
      ((parse text).bind fun v ↦ parse v.text) = parse text := by
  refine ⟨?_, fun v ↦ parse_eq_ok_iff, fun message ↦ parse_eq_error_iff, parse_text, ?_⟩
  · constructor
    · rintro ⟨v, h⟩
      obtain ⟨major, minor, patch, hcomponents, hmajor, hminor, hpatch⟩ := parse_eq_ok_iff.1 h
      refine ⟨exists_hasComponents_iff.1 ⟨_, _, _, hcomponents⟩, ?_⟩
      rw [splitOn_eq_triple_iff.2 hcomponents]
      simp only [List.forall_mem_cons]
      exact ⟨⟨_, hmajor⟩, ⟨_, hminor⟩, ⟨_, hpatch⟩, fun _ h ↦ absurd h List.not_mem_nil⟩
    · rintro ⟨hdots, hall⟩
      obtain ⟨major, minor, patch, hcomponents⟩ := exists_hasComponents_iff.2 hdots
      rw [splitOn_eq_triple_iff.2 hcomponents] at hall
      simp only [List.forall_mem_cons] at hall
      obtain ⟨⟨n, hn⟩, ⟨n', hn'⟩, ⟨n'', hn''⟩, -⟩ := hall
      obtain ⟨word, hword⟩ := exists_numeral?_of_isNumeral hn
      obtain ⟨word', hword'⟩ := exists_numeral?_of_isNumeral hn'
      obtain ⟨word'', hword''⟩ := exists_numeral?_of_isNumeral hn''
      refine ⟨⟨word, word', word''⟩, parse_eq_ok_iff.2 ⟨major, minor, patch, hcomponents, ?_⟩⟩
      exact ⟨numeral?_eq_some_iff.1 hword, numeral?_eq_some_iff.1 hword',
        numeral?_eq_some_iff.1 hword''⟩
  · rcases h : parse text with e | v
    · rfl
    · exact parse_text v

end WorkspaceIndex.Version
