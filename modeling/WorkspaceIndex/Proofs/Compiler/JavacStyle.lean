import WorkspaceIndex.Compiler.Output.JavacStyle
import WorkspaceIndex.Proofs.Text.Lines
import WorkspaceIndex.Proofs.Text.Numerals
/-!
# Reports on one line, written and read

A report that is written on a line is read back from it, with one exception. What is written is
`path:line: severity: message`, and the line is searched for the marker of an error before it is
searched for that of a warning. So the words of a warning can be taken for an error: they mislead
when they hold `: error: ` and what stands in front of that ends in a colon and a number
(`Printed.Misleads`). All other reports come back as they are (`reports_line`).
-/

namespace WorkspaceIndex.JavacStyle

open Text

/-! ### The reports of a text -/

/-- What follows an ended text is read on its own. -/
theorem reports_append {a b : List Char} (h : IsEnded a) :
    reports (a ++ b) = reports a ++ reports b := by
  rw [reports, lines_append h, List.filterMap_append, ← reports, ← reports]

theorem reports_of_line {line : List Char} (hne : line ≠ []) (h : '\n' ∉ line) :
    reports line = (report? line).toList := by
  rw [reports, lines_of_notMem hne h]
  cases hreport : report? line <;> simp [hreport]

/-- **What is read around a marker.** In front of the first occurrence of the marker there has to be
a number after the last colon. -/
theorem reportAt?_eq_some_iff {line marker : List Char} {severity : Severity} {d : Diagnostic}
    (hne : marker ≠ []) :
    reportAt? line (marker, severity) = some d ↔
      ∃ path tail message number, line = path ++ ':' :: tail ++ (marker ++ message) ∧
        Clear marker (path ++ ':' :: tail) (marker ++ message) ∧ ':' ∉ tail ∧
        numeral? (trim tail) = some number ∧
        d = ⟨severity, compilerOrigin, String.ofList (trim message),
          some ⟨⟨String.ofList path⟩, number, none⟩⟩ := by
  constructor
  · intro h
    obtain ⟨⟨location, message⟩, hcut, hlocation⟩ := Option.bind_eq_some_iff.1 h
    obtain ⟨⟨path, tail⟩, hlast, htext⟩ := Option.bind_eq_some_iff.1 hlocation
    obtain ⟨number, hnumber, hsome⟩ := Option.bind_eq_some_iff.1 htext
    obtain ⟨rfl, hclear⟩ := (cut?_eq_some_iff hne).1 hcut
    obtain ⟨rfl, htail⟩ := cutLast?_eq_some_iff.1 hlast
    exact ⟨path, tail, message, number, rfl, hclear, htail, hnumber, (Option.some.inj hsome).symm⟩
  · rintro ⟨path, tail, message, number, rfl, hclear, htail, hnumber, rfl⟩
    rw [reportAt?, (cut?_eq_some_iff hne).2 ⟨rfl, hclear⟩]
    simp only [bind, Option.bind, cutLast?_eq_some_iff.2 ⟨rfl, htail⟩, hnumber]

/-- Every report is made in the name of the compiler. -/
theorem origin_of_mem_reports {output : List Char} {d : Diagnostic} (h : d ∈ reports output) :
    d.origin = compilerOrigin := by
  obtain ⟨line, -, hline⟩ := List.mem_filterMap.1 h
  obtain ⟨⟨marker, severity⟩, hmem, hmarker⟩ := List.exists_of_findSome?_eq_some hline
  have hne : marker ≠ [] := by
    rcases List.mem_cons.1 hmem with h | h
    · cases h
      decide
    · cases List.mem_singleton.1 h
      decide
  obtain ⟨_, _, _, _, -, -, -, -, rfl⟩ := (reportAt?_eq_some_iff hne).1 hmarker
  rfl

/-! ### Printed reports -/

/-- What stands between a position and a message. -/
def marker (severity : Severity) : List Char :=
  ": ".toList ++ severity.name.toList ++ ": ".toList

theorem markers_eq : markers = [(marker .error, .error), (marker .warning, .warning)] := rfl

/-- A report to be printed on a line. -/
structure Printed where
  path : List Char
  number : UInt32
  severity : Severity
  message : List Char

namespace Printed

/-- The line of a report: `path:line: severity: message`. -/
def line (r : Printed) : List Char :=
  r.path ++ ':' :: decimal r.number ++ (marker r.severity ++ r.message)

/-- The report as it is meant. -/
def diagnostic (r : Printed) : Diagnostic :=
  ⟨r.severity, compilerOrigin, String.ofList r.message,
    some ⟨⟨String.ofList r.path⟩, r.number, none⟩⟩

/-- A report that fits on a line: an error or a warning, whose path holds neither marker and whose
message has no blanks around it. -/
structure WellFormed (r : Printed) : Prop where
  severity : r.severity = .error ∨ r.severity = .warning
  path_oneLine : '\n' ∉ r.path
  path_noError : ¬marker .error <:+: r.path
  path_noWarning : ¬marker .warning <:+: r.path
  message_oneLine : '\n' ∉ r.message
  message_trimmed : IsTrimmed r.message

/-- The words of a warning can be taken for an error: in front of the first `: error: ` in them
there is a number after the last colon. The blank and the colon that part the words from the word
`warning` count as well. -/
def Misleads (r : Printed) : Prop :=
  r.severity = .warning ∧ ∃ front tail after number,
    ": ".toList ++ r.message = front ++ ':' :: tail ++ (marker .error ++ after) ∧
    Clear (marker .error) (front ++ ':' :: tail) (marker .error ++ after) ∧ ':' ∉ tail ∧
    numeral? (trim tail) = some number

variable {r : Printed}

theorem marker_ne_nil (severity : Severity) : marker severity ≠ [] := by
  simp [marker]

theorem not_isDigit_of_mem_marker {severity : Severity} {c : Char} (h : c ∈ marker severity) :
    c.isDigit = false := by
  have hall : (marker severity).all (fun c ↦ !c.isDigit) = true := by cases severity <;> rfl
  simpa using List.all_eq_true.1 hall c h

theorem getLast?_marker (severity : Severity) : (marker severity).getLast? = some ' ' := by
  cases severity <;> rfl

/-- No marker begins in a position in front of anything, unless the path holds one. -/
theorem clear_position {severity : Severity} (hpath : ¬marker severity <:+: r.path)
    (rest : List Char) : Clear (marker severity) (r.path ++ ':' :: decimal r.number) rest := by
  obtain ⟨d, digits, hdigits⟩ := List.exists_cons_of_ne_nil (decimal_ne_nil r.number)
  have hd : d.isDigit = true := isDigit_of_mem_decimal (hdigits ▸ List.mem_cons_self)
  have hnot : d ∉ marker severity := fun hmem ↦
    ne_of_isDigit hd (not_isDigit_of_mem_marker hmem) rfl
  have hsecond : d ≠ ' ' := ne_of_isDigit hd (by decide)
  refine clear_append.2 ⟨?_, ?_, ?_⟩
  · rw [hdigits]
    exact clear_of_pair hpath (by simp [getLast?_marker]) hnot
  · rw [hdigits]
    simp [marker, List.cons_prefix_cons, hsecond.symm]
  · exact clear_of_notMem (notMem_decimal (by decide))

/-- A report is read back around its own marker. -/
theorem reportAt?_own (h : r.WellFormed) :
    reportAt? r.line (marker r.severity, r.severity) = some r.diagnostic := by
  have hpath : ¬marker r.severity <:+: r.path := by
    rcases h.severity with hs | hs <;> rw [hs]
    · exact h.path_noError
    · exact h.path_noWarning
  refine (reportAt?_eq_some_iff (marker_ne_nil _)).2
    ⟨r.path, decimal r.number, r.message, r.number, rfl, clear_position hpath _,
      notMem_decimal (by decide), ?_, ?_⟩
  · rw [isTrimmed_decimal.trim_eq, numeral?_decimal]
  · rw [h.message_trimmed.trim_eq]
    rfl

/-! ### Warnings that are taken for errors -/

/-- What stands on the line of a warning before the colon and the blank in front of its words. -/
def lead (r : Printed) : List Char := r.path ++ ':' :: decimal r.number ++ ':' :: " warning".toList

theorem line_of_warning (hs : r.severity = .warning) :
    r.line = r.lead ++ (": ".toList ++ r.message) := by
  rw [line, lead, hs, marker]
  simp [Severity.name]

theorem clear_lead (hpath : ¬marker .error <:+: r.path) :
    Clear (marker .error) r.lead (": ".toList ++ r.message) := by
  refine clear_append.2 ⟨clear_position hpath _, ?_, ?_⟩
  · simp [marker, Severity.name]
  · exact clear_of_notMem (by decide)

/-- A warning is read around the marker of an error exactly if its words mislead. -/
theorem exists_reportAt?_error_iff (h : r.WellFormed) (hs : r.severity = .warning) :
    (∃ d, reportAt? r.line (marker .error, .error) = some d) ↔ r.Misleads := by
  have hne := marker_ne_nil .error
  have hlead := clear_lead h.path_noError
  constructor
  · rintro ⟨d, hd⟩
    obtain ⟨path, tail, after, number, hline, hclear, htail, hnumber, -⟩ :=
      (reportAt?_eq_some_iff hne).1 hd
    have hcut := (cut?_eq_some_iff hne).2 ⟨hline, hclear⟩
    rw [line_of_warning hs, cut?_append hlead] at hcut
    obtain ⟨⟨before, after'⟩, hfound, heq⟩ := Option.map_eq_some_iff.1 hcut
    obtain ⟨hwords, hclear'⟩ := (cut?_eq_some_iff hne).1 hfound
    have hlocation : r.lead ++ before = path ++ ':' :: tail := (Prod.mk.inj heq).1
    rcases before with - | ⟨c, before⟩
    · -- the marker begins with the colon after `warning`, which is no number
      have hwarning : (r.path ++ ':' :: decimal r.number) ++ ':' :: " warning".toList =
          path ++ ':' :: tail := by simpa [lead] using hlocation
      have hnone : numeral? (trim " warning".toList) = none := by decide
      rw [← (eq_of_cutLast hwarning (by decide) htail).2, hnone] at hnumber
      cases hnumber
    · have hc : c = ':' := (List.cons.inj hwords).1.symm
      obtain ⟨⟨front, tail'⟩, hlast⟩ : ∃ found, cutLast? ':' (c :: before) = some found := by
        rw [← Option.ne_none_iff_exists', Ne, cutLast?_eq_none_iff]
        simp [hc]
      obtain ⟨hsplit, htail'⟩ := cutLast?_eq_some_iff.1 hlast
      rw [hsplit, ← List.append_assoc] at hlocation
      rw [← (eq_of_cutLast hlocation htail' htail).2] at hnumber
      exact ⟨hs, front, tail', after', number, hsplit ▸ hwords, hsplit ▸ hclear', htail', hnumber⟩
  · rintro ⟨-, front, tail, after, number, hwords, hclear, htail, hnumber⟩
    rw [hwords] at hlead
    refine ⟨_, (reportAt?_eq_some_iff hne).2
      ⟨r.lead ++ front, tail, after, number, ?_, ?_, htail, hnumber, rfl⟩⟩
    · rw [line_of_warning hs, hwords]
      simp
    · rw [List.append_assoc]
      exact clear_append.2 ⟨hlead, hclear⟩

/-! ### What is printed is read -/

theorem notMem_line (h : r.WellFormed) : '\n' ∉ r.line := by
  have hmarker : '\n' ∉ marker r.severity := by
    rcases h.severity with hs | hs <;> rw [hs] <;> decide
  simp [line, h.path_oneLine, h.message_oneLine, hmarker,
    notMem_decimal (c := '\n') (n := r.number) (by decide)]

theorem reports_line_eq (h : r.WellFormed) : reports r.line = (report? r.line).toList :=
  reports_of_line (by simp [line]) (notMem_line h)

theorem report?_of_not_misleads (h : r.WellFormed) (hm : ¬r.Misleads) :
    report? r.line = some r.diagnostic := by
  have hown := reportAt?_own h
  rw [report?, markers_eq, List.findSome?_cons]
  rcases h.severity with hs | hs
  · rw [hs] at hown
    rw [hown]
  · have hnone : reportAt? r.line (marker .error, .error) = none := by
      rw [Option.eq_none_iff_forall_ne_some]
      exact fun d hd ↦ hm ((exists_reportAt?_error_iff h hs).1 ⟨d, hd⟩)
    rw [hs] at hown
    rw [hnone, List.findSome?_cons, hown]

theorem report?_of_misleads (h : r.WellFormed) (hm : r.Misleads) :
    ∃ d, report? r.line = some d ∧ d.severity = .error := by
  obtain ⟨d, hd⟩ := (exists_reportAt?_error_iff h hm.1).2 hm
  obtain ⟨_, _, _, _, -, -, -, -, hreport⟩ := (reportAt?_eq_some_iff (marker_ne_nil _)).1 hd
  refine ⟨d, ?_, by rw [hreport]⟩
  rw [report?, markers_eq, List.findSome?_cons, hd]

/-- **A printed report is read back exactly if its words do not mislead.** Those of an error never
do. Those of a warning do when they hold `: error: ` after a colon and a number, and then the
warning is read as one error. -/
theorem reports_line (h : r.WellFormed) :
    (reports r.line = [r.diagnostic] ↔ ¬r.Misleads) ∧
      (r.Misleads → ∃ d, reports r.line = [d] ∧ d.severity = .error) := by
  rw [reports_line_eq h]
  by_cases hm : r.Misleads
  · obtain ⟨d, hd, hseverity⟩ := report?_of_misleads h hm
    rw [hd]
    refine ⟨⟨fun heq ↦ ?_, fun hnot ↦ absurd hm hnot⟩, fun _ ↦ ⟨d, rfl, hseverity⟩⟩
    rw [(List.cons.inj heq).1, diagnostic, hm.1] at hseverity
    cases hseverity
  · rw [report?_of_not_misleads h hm]
    exact ⟨⟨fun _ ↦ hm, fun _ ↦ rfl⟩, fun hmis ↦ absurd hmis hm⟩

/-- An error in a file with a colon in its name, and with words that look like those of a
warning. -/
def colonError : Printed :=
  ⟨"src/a: b.java".toList, 12, .error, "see c.java:7: warning: old".toList⟩

theorem reports_line_colonError :
    colonError.WellFormed ∧ reports colonError.line = [colonError.diagnostic] := by
  have h : colonError.WellFormed := by
    constructor <;> decide
  exact ⟨h, (reports_line h).1.2 fun hm ↦ absurd hm.1 (by decide)⟩

/-- A warning about the error of another file. -/
def quotedError : Printed :=
  ⟨"A.java".toList, 3, .warning, "see B.java:7: error: bad".toList⟩

/-- A warning that quotes an error is read as an error, in a file that there is not. -/
theorem warning_read_as_error :
    quotedError.WellFormed ∧
      reports quotedError.line =
        [⟨.error, "compiler", "bad", some ⟨⟨"A.java:3: warning: see B.java"⟩, 7, none⟩⟩] := by
  refine ⟨?_, by decide⟩
  constructor <;> decide

end Printed

end WorkspaceIndex.JavacStyle
