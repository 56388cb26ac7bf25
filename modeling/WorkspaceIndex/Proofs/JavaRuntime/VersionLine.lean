import WorkspaceIndex.Proofs.JavaRuntime.VersionToken
/-!
# The line that tells the version

A runtime tells its version on a line of its own, the word `version` and after it the version
between quotes (`TellsVersion`). It may say other things before: a runtime that picks options up
from its environment repeats them as they are, on the first line that it writes.

The line of the version is not looked for. What is read is the first text between quotes, on the
first line with two of them (`QuotedFirst`), and if such a line stands in front of that of the
version, its text is taken for the version. Then the major version is found only if that text
happens to begin with the same number (`majorVersion?_of_tellsVersion`), and else there is a wrong
one or none (`option_read_as_version`).
-/

namespace WorkspaceIndex.JavaRuntime

open Text

variable {line output token quoted : List Char} {row preceding following : List (List Char)}
  {major : UInt32}

/-! ### The first text between quotes -/

/-- The first two quotes of a line stand around a text. -/
def Quotes (line token : List Char) : Prop :=
  ∃ text rest, line = text ++ '"' :: (token ++ '"' :: rest) ∧ '"' ∉ text ∧ '"' ∉ token

theorem quotedToken?_eq_some_iff : quotedToken? line = some token ↔ Quotes line token := by
  constructor
  · intro h
    obtain ⟨⟨text, behind⟩, hfirst, h⟩ := Option.bind_eq_some_iff.1 h
    obtain ⟨⟨between, rest⟩, hsecond, h⟩ := Option.bind_eq_some_iff.1 h
    cases h
    obtain ⟨rfl, htext⟩ := cut?_singleton_eq_some_iff.1 hfirst
    obtain ⟨rfl, htoken⟩ := cut?_singleton_eq_some_iff.1 hsecond
    exact ⟨text, rest, rfl, htext, htoken⟩
  · rintro ⟨text, rest, rfl, htext, htoken⟩
    exact quotedToken?_of_quoted htext htoken

/-- Nothing stands between quotes on the lines with one quote at most, and on no others. -/
theorem quotedToken?_eq_none_iff : quotedToken? line = none ↔ line.count '"' < 2 := by
  refine ⟨fun h ↦ ?_, quotedToken?_eq_none⟩
  rcases hfirst : cut? ['"'] line with - | ⟨text, behind⟩
  · rw [List.count_eq_zero.2 (cut?_singleton_eq_none_iff.1 hfirst)]
    decide
  · obtain ⟨rfl, htext⟩ := cut?_singleton_eq_some_iff.1 hfirst
    have hbehind : '"' ∉ behind := by
      intro hmem
      obtain ⟨token, rest, rfl, htoken⟩ := List.eq_append_cons_of_mem hmem
      rw [quotedToken?_of_quoted htext htoken] at h
      cases h
    rw [List.count_append, List.count_eq_zero.2 htext, List.count_cons_self,
      List.count_eq_zero.2 hbehind]
    decide

/-- The text between quotes on the first of some lines that has two quotes. -/
def QuotedFirst (row : List (List Char)) (token : List Char) : Prop :=
  ∃ before line after, row = before ++ line :: after ∧ (∀ other ∈ before, other.count '"' < 2) ∧
    Quotes line token

theorem findSome?_quotedToken?_eq_some_iff :
    row.findSome? quotedToken? = some token ↔ QuotedFirst row token := by
  rw [List.findSome?_eq_some_iff]
  simp only [quotedToken?_eq_some_iff, quotedToken?_eq_none_iff]
  constructor
  · rintro ⟨before, line, after, rfl, hline, hbefore⟩
    exact ⟨before, line, after, rfl, hbefore, hline⟩
  · rintro ⟨before, line, after, rfl, hbefore, hline⟩
    exact ⟨before, line, after, rfl, hline, hbefore⟩

/-! ### The line of the version -/

/-- A line that tells a version: a text without quotes, the word `version`, the version between
quotes, and anything after it. -/
def TellsVersion (line token : List Char) : Prop :=
  ∃ text rest, line = text ++ " version ".toList ++ '"' :: (token ++ '"' :: rest) ∧ '"' ∉ text ∧
    '"' ∉ token

theorem TellsVersion.quotes (h : TellsVersion line token) : Quotes line token := by
  obtain ⟨text, rest, rfl, htext, htoken⟩ := h
  refine ⟨text ++ " version ".toList, rest, rfl, fun hmem ↦ ?_, htoken⟩
  rcases List.mem_append.1 hmem with hmem | hmem
  · exact htext hmem
  · exact absurd hmem (by decide)

/-- What is read is the first text between quotes in front of the line of the version, and only if
there is none, the version. -/
theorem versionToken?_of_tellsVersion (hlines : lines output = preceding ++ line :: following)
    (hline : TellsVersion line token) :
    versionToken? output = (preceding.findSome? quotedToken?).or (some token) := by
  rw [versionToken?, hlines, List.findSome?_append, List.findSome?_cons,
    quotedToken?_eq_some_iff.2 hline.quotes]

/-- **The version of a runtime is read off the first text that it shows between quotes.**

Let a line tell a version from which a major version can be read. This is the major version that is
found if and only if the first text between quotes in the lines before it, if there is any, begins
with the same major version: in particular if none of these lines has two quotes. In every case
where there is such a text, it alone decides what is found. -/
theorem majorVersion?_of_tellsVersion (hlines : lines output = preceding ++ line :: following)
    (hline : TellsVersion line token) (hmajor : majorOfToken? token = some major) :
    (majorVersion? output = some major ↔
        ∀ quoted, QuotedFirst preceding quoted → majorOfToken? quoted = some major) ∧
      ∀ quoted, QuotedFirst preceding quoted → majorVersion? output = majorOfToken? quoted := by
  have hversion := versionToken?_of_tellsVersion hlines hline
  simp only [← findSome?_quotedToken?_eq_some_iff, majorVersion?, hversion]
  rcases preceding.findSome? quotedToken? with - | quoted
  · simp [hmajor]
  · simp

/-- What a runtime shows that picks up an option with a release between quotes. -/
def pickingUp (release : String) : List Char :=
  ofLines [("Picked up JAVA_TOOL_OPTIONS: -Drelease=\"" ++ release ++ "\"").toList,
    "openjdk version \"17.0.9\" 2023-10-17".toList]

/-- The version is found if the option holds its number. -/
theorem majorVersion?_of_pickingUp :
    (∃ preceding line following, lines (pickingUp "17-ea") = preceding ++ line :: following ∧
      TellsVersion line "17.0.9".toList ∧ QuotedFirst preceding "17-ea".toList) ∧
      majorOfToken? "17.0.9".toList = some 17 ∧ majorVersion? (pickingUp "17-ea") = some 17 := by
  have hline : TellsVersion "openjdk version \"17.0.9\" 2023-10-17".toList "17.0.9".toList :=
    ⟨"openjdk".toList, " 2023-10-17".toList, by decide, by decide, by decide⟩
  have hquoted : QuotedFirst ["Picked up JAVA_TOOL_OPTIONS: -Drelease=\"17-ea\"".toList]
      "17-ea".toList :=
    ⟨[], _, [], rfl, by simp, "Picked up JAVA_TOOL_OPTIONS: -Drelease=".toList, [], by decide,
      by decide, by decide⟩
  have hmajor : majorOfToken? "17.0.9".toList = some 17 := by decide
  have hlines : lines (pickingUp "17-ea") =
      ["Picked up JAVA_TOOL_OPTIONS: -Drelease=\"17-ea\"".toList] ++
        "openjdk version \"17.0.9\" 2023-10-17".toList :: [] := by
    decide
  have hfound := (majorVersion?_of_tellsVersion hlines hline hmajor).2 _ hquoted
  exact ⟨⟨_, _, _, hlines, hline, hquoted⟩, hmajor, hfound.trans (by decide)⟩

/-- A line that tells a version has the word in it. -/
theorem TellsVersion.isInfix (h : TellsVersion line token) : " version \"".toList <:+: line := by
  obtain ⟨text, rest, rfl, -⟩ := h
  exact ⟨text, token ++ '"' :: rest, by simp⟩

/-- One line tells a version, and the number that is found stands on another: it is that of an
option that the runtime has picked up. -/
theorem option_read_as_version :
    ∃ preceding line following, lines (pickingUp "11") = preceding ++ line :: following ∧
      TellsVersion line "17.0.9".toList ∧
      (∀ other ∈ preceding ++ following, ∀ token, ¬TellsVersion other token) ∧
      majorOfToken? "17.0.9".toList = some 17 ∧ majorVersion? (pickingUp "11") = some 11 := by
  refine ⟨["Picked up JAVA_TOOL_OPTIONS: -Drelease=\"11\"".toList],
    "openjdk version \"17.0.9\" 2023-10-17".toList, [], by decide,
    ⟨"openjdk".toList, " 2023-10-17".toList, by decide, by decide, by decide⟩, ?_, by decide,
    by decide⟩
  intro other hother token htells
  rw [List.append_nil, List.mem_singleton] at hother
  subst hother
  exact absurd htells.isInfix (by decide)

end WorkspaceIndex.JavaRuntime
