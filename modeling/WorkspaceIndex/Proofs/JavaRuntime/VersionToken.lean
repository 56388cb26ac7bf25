import WorkspaceIndex.JavaRuntime
import WorkspaceIndex.Proofs.Text.Lines
import WorkspaceIndex.Proofs.Text.Numerals
/-!
# The version that a runtime shows

A runtime shows its version between two double quotes, on the first line that has two of them
(`Shows`). What stands there is settled by this alone, whatever the lines before it hold, as long as
none has two quotes itself, and whatever comes behind it. The major version is the number at its
front, where `1.` is left out if it starts so (`IsMajorPart`).

Which stream a runtime writes to makes no difference, and how it ends makes none either: an answer
is the text on the error stream, or the text on the other one if the error stream is blank
(`Answers`).
-/

namespace WorkspaceIndex.JavaRuntime

open Text

variable {line output text token part rest digits suffix : List Char} {n : Nat}

/-! ### The line with the version -/

theorem quotedToken?_of_quoted (htext : '"' ∉ text) (htoken : '"' ∉ token) :
    quotedToken? (text ++ '"' :: (token ++ '"' :: rest)) = some token := by
  rw [quotedToken?, cut?_singleton htext]
  show (cut? ['"'] (token ++ '"' :: rest)).bind _ = some token
  rw [cut?_singleton htoken]
  rfl

/-- There is nothing between quotes on a line with one quote at most. -/
theorem quotedToken?_eq_none (h : line.count '"' < 2) : quotedToken? line = none := by
  rw [quotedToken?]
  rcases hfirst : cut? ['"'] line with - | ⟨before, after⟩
  · rfl
  · show (cut? ['"'] after).bind _ = none
    rcases hsecond : cut? ['"'] after with - | ⟨between, behind⟩
    · rfl
    · obtain ⟨rfl, -⟩ := (cut?_eq_some_iff (List.cons_ne_nil _ _)).1 hfirst
      obtain ⟨rfl, -⟩ := (cut?_eq_some_iff (List.cons_ne_nil _ _)).1 hsecond
      simp only [List.count_append, List.count_singleton_self] at h
      omega

/-- An output that shows a text between quotes: lines with one quote at most, and then a line with
two quotes around the text. -/
inductive Shows : List Char → List Char → Prop where
  | intro {preceding : List (List Char)} {text token rest : List Char}
      (lines : ∀ line ∈ preceding, '\n' ∉ line) (unquoted : ∀ line ∈ preceding, line.count '"' < 2)
      (text_unended : '\n' ∉ text) (text_unquoted : '"' ∉ text) (token_unended : '\n' ∉ token)
      (token_unquoted : '"' ∉ token) :
      Shows (ofLines preceding ++ (text ++ '"' :: (token ++ '"' :: rest))) token

/-- **The first text between quotes is found**, whatever is in front of it and behind it. -/
theorem versionToken?_of_shows (h : Shows output token) : versionToken? output = some token := by
  obtain @⟨preceding, text, token, rest, hlines, hquotes, htext, htext', htoken, htoken'⟩ := h
  -- the line goes on behind the second quote, up to wherever it ends
  have hline : lines (text ++ '"' :: (token ++ '"' :: rest)) =
      (text ++ '"' :: (token ++ '"' :: (lines rest).headD [])) :: (lines rest).tail := by
    have hquoted : '\n' ∉ text ++ '"' :: (token ++ ['"']) := by simp [htext, htoken]
    have hend : (text ++ '"' :: (token ++ ['"'])).getLast? ≠ some '\r' := by
      rw [← List.cons_append, ← List.append_assoc, List.getLast?_concat]
      decide
    have happend := lines_append_of_notMem (b := rest) (by simp) hquoted hend
    simpa using happend
  have hnone : (lines (ofLines preceding)).findSome? quotedToken? = none := by
    rw [lines_ofLines hlines, List.findSome?_eq_none_iff, List.forall_mem_map]
    exact fun line hmem ↦ quotedToken?_eq_none
      (((withoutReturn_sublist line).count_le '"').trans_lt (hquotes line hmem))
  rw [versionToken?, lines_append (isEnded_ofLines preceding), List.findSome?_append, hnone, hline,
    List.findSome?_cons, quotedToken?_of_quoted htext' htoken']
  rfl

/-! ### The number at the front -/

/-- The part of a version that starts with the major number: what is behind `1.`, or all of a
version that does not start so. -/
def IsMajorPart (token part : List Char) : Prop :=
  token = '1' :: '.' :: part ∨ ¬ ['1', '.'] <+: token ∧ part = token

theorem majorPart_eq (h : IsMajorPart token part) : majorPart token = part := by
  rcases h with rfl | ⟨hlegacy, rfl⟩
  · rfl
  · rw [majorPart]
    rintro rest rfl
    exact hlegacy ⟨rest, rfl⟩

/-- **The major version is the number that the row of digits at the front writes.** -/
theorem majorOfToken?_of_digits (h : IsMajorPart token (digits ++ suffix))
    (hwrites : Writes digits n) (hsuffix : ∀ c ∈ suffix.head?, c.isDigit = false) :
    majorOfToken? token = word? n := by
  rw [majorOfToken?, majorPart_eq h, takeWhile_isDigit_append hwrites.isDigit hsuffix,
    digits?_of_writes hwrites]

theorem majorOfToken?_eq_none (h : IsMajorPart token part)
    (hpart : ∀ c ∈ part.head?, c.isDigit = false) : majorOfToken? token = none := by
  have hnone : part.takeWhile Char.isDigit = [] :=
    @takeWhile_isDigit_append [] part (fun _ h ↦ absurd h List.not_mem_nil) hpart
  rw [majorOfToken?, majorPart_eq h, hnone]
  rfl

/-! ### Asking a runtime -/

/-- The text with which a runtime answers. -/
def Answers (run : ProgramRun) (output : List Char) : Prop :=
  run.errors.lenientText.toList = output ∧ isAllBlank output = false ∨
    isAllBlank run.errors.lenientText.toList = true ∧ run.output.lenientText.toList = output

theorem versionOutput_eq {run : ProgramRun} (h : Answers run output) :
    versionOutput run = output := by
  rw [versionOutput]
  rcases h with ⟨rfl, hblank⟩ | ⟨hblank, rfl⟩
  · rw [hblank]
    rfl
  · rw [hblank]
    rfl

theorem detect_of_answers {machine after : Machine} {files : FileStore} {program : String}
    {run : ProgramRun}
    (hstart : machine.start files ⟨program, none, ["-version"]⟩ = (.ok run, after))
    (h : Answers run output) :
    detect machine files program =
      (match majorVersion? output with
        | some major => .ok major
        | none => .error (.unreadableJavaVersion program), after) := by
  rw [detect, hstart]
  simp only [versionOutput_eq h]
  rcases majorVersion? output with - | major <;> rfl

/-- A text with something between quotes is not blank. -/
theorem Shows.isAllBlank_eq_false (h : Shows output token) : isAllBlank output = false := by
  obtain @⟨preceding, text, token, rest, -⟩ := h
  rw [isAllBlank, List.all_eq_false]
  exact ⟨'"', by simp, by decide⟩

/-- **The major version of a runtime is read off what it shows.** If an output shows a version and
the part with the major number starts with a row of digits, the major version is the number that the
whole row writes, if 32 bits are enough for it; if not, or if that part starts with no digit, there
is none.

A runtime that is asked answers with what it wrote to its error stream, or, if that is blank, with
what it wrote to the other one; an output that shows anything is not blank. The answer alone
decides: neither what is on the other stream nor how the runtime ends makes a difference. -/
theorem detect_of_shown (output : List Char) :
    (∀ token, Shows output token →
      isAllBlank output = false ∧
        (∀ digits suffix n, IsMajorPart token (digits ++ suffix) → Writes digits n →
          (∀ c ∈ suffix.head?, c.isDigit = false) →
            (majorVersion? output).map UInt32.toNat = if n < UInt32.size then some n else none) ∧
        ∀ part, IsMajorPart token part → (∀ c ∈ part.head?, c.isDigit = false) →
          majorVersion? output = none) ∧
      ∀ (machine : Machine) (files : FileStore) (program : String) (run : ProgramRun)
        (after : Machine),
        machine.start files ⟨program, none, ["-version"]⟩ = (.ok run, after) →
        Answers run output →
          detect machine files program =
            (match majorVersion? output with
              | some major => .ok major
              | none => .error (.unreadableJavaVersion program), after) := by
  refine ⟨fun token hshows ↦ ⟨hshows.isAllBlank_eq_false, ?_, ?_⟩,
    fun machine files program run after ↦ detect_of_answers⟩
  · intro digits suffix n hpart hwrites hsuffix
    rw [majorVersion?, versionToken?_of_shows hshows, Option.bind_some,
      majorOfToken?_of_digits hpart hwrites hsuffix, map_toNat_word?]
  · intro part hpart hnone
    rw [majorVersion?, versionToken?_of_shows hshows, Option.bind_some,
      majorOfToken?_eq_none hpart hnone]

/-- What a runtime shows that picks up an option with a quote in it. -/
def shownBy (token : List Char) : List Char :=
  ofLines ["Picked up -Dname=\"x\r".toList] ++
    ("java version ".toList ++ '"' :: (token ++ '"' :: " LTS\n\"9\"".toList))

/-- A runtime of an older kind that shows its version on the error stream and fails. -/
def legacyRun : ProgramRun where
  output := .text "java version \"17\""
  errors := .text (String.ofList (shownBy "1.8.0_362".toList))
  status := 1

/-- A machine with `legacyRun` on it. -/
def legacyMachine : Machine where
  programs := [("java", .runs [legacyRun])]

/-- The older way of writing, a version without a number, and a machine that is asked. -/
theorem detect_of_legacyMachine :
    (Shows (shownBy "1.8.0_362".toList) "1.8.0_362".toList ∧
        (majorVersion? (shownBy "1.8.0_362".toList)).map UInt32.toNat = some 8) ∧
      (Shows (shownBy "ea".toList) "ea".toList ∧ majorVersion? (shownBy "ea".toList) = none) ∧
      Answers legacyRun (shownBy "1.8.0_362".toList) ∧
      (detect legacyMachine ⟨[], []⟩ "java").1 = .ok 8 := by
  have hshows : Shows (shownBy "1.8.0_362".toList) "1.8.0_362".toList :=
    .intro (by decide) (by decide) (by decide) (by decide) (by decide) (by decide)
  have hunnumbered : Shows (shownBy "ea".toList) "ea".toList :=
    .intro (by decide) (by decide) (by decide) (by decide) (by decide) (by decide)
  obtain ⟨hshown, hasked⟩ := detect_of_shown (shownBy "1.8.0_362".toList)
  obtain ⟨hblank, hnumber, -⟩ := hshown _ hshows
  have height : (majorVersion? (shownBy "1.8.0_362".toList)).map UInt32.toNat = some 8 :=
    hnumber ['8'] ".0_362".toList 8 (Or.inl (by decide)) (@Writes.digit 8 (by decide)) (by simp)
  have hnone : majorVersion? (shownBy "ea".toList) = none :=
    ((detect_of_shown (shownBy "ea".toList)).1 _ hunnumbered).2.2 "ea".toList
      (Or.inr ⟨by decide, rfl⟩) (by simp)
  have hanswers : Answers legacyRun (shownBy "1.8.0_362".toList) := Or.inl ⟨by decide, hblank⟩
  refine ⟨⟨hshows, height⟩, ⟨hunnumbered, hnone⟩, hanswers, ?_⟩
  rw [hasked legacyMachine ⟨[], []⟩ "java" legacyRun _ rfl hanswers]
  obtain ⟨major, hmajor, hvalue⟩ := Option.map_eq_some_iff.1 height
  have hmajor_eq : major = 8 := UInt32.toNat_inj.1 hvalue
  rw [hmajor, hmajor_eq]

end WorkspaceIndex.JavaRuntime
