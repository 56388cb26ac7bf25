import WorkspaceIndex.Proofs.Compiler.Segments
/-!
# Reports of several lines, written and read

A report that is written as a header with details under it is read back, whatever lines that are
neither stand among them (`reports_of_printed`). Two things come together in this. The header is
taken apart at separators that occur in it more than once: the first `: ` ends the title, as neither
a code nor a title holds one, and the last two colons stand before the line and the column, as they
come after all that a path can hold (`header?_headerLine`). And the lines of a printed report are a
segment of the output, since none of them but the first is a header (`Printed.segment`).
-/

namespace WorkspaceIndex.Scala3Output

open Text

/-! ### Printed reports -/

/-- A line under a header. -/
inductive BodyLine where
  /-- A detail of the message. -/
  | detail (text : List Char)
  /-- Any other line, such as one of source or a row of carets. -/
  | other (line : List Char)

namespace BodyLine

/-- The line as it is printed. A detail stands behind a bar. -/
def line : BodyLine → List Char
  | detail text => "  | ".toList ++ text
  | other line => line

/-- The detail that a line bears. -/
def text? : BodyLine → Option (List Char)
  | detail text => some text
  | other _ => none

/-- A line that says nothing under a header: it is no header, and if it starts with a bar after
blanks, no more than carets come behind the bar. -/
def IsSilent (line : List Char) : Prop :=
  header? line = none ∧
    ((trimFront line).head? = some '|' → (trim (trimFront line).tail).all (· = '^'))

instance : DecidablePred IsSilent := fun _ ↦ inferInstanceAs (Decidable (_ ∧ (_ → _)))

/-- A line that keeps apart from the lines around it and is what it is meant to be. -/
def WellFormed : BodyLine → Prop
  | detail text => '\n' ∉ text ∧ IsTrimmed text ∧ text.all (· = '^') = false
  | other line => '\n' ∉ line ∧ IsSilent (withoutReturn line)

instance : DecidablePred WellFormed
  | detail _ => inferInstanceAs (Decidable (_ ∧ _ ∧ _))
  | other _ => inferInstanceAs (Decidable (_ ∧ _))

end BodyLine

/-- A report to be printed. -/
structure Printed where
  code : Option (List Char)
  title : List Char
  path : List Char
  line : UInt32
  column : UInt32
  /-- The number of dashes at the end of the header. -/
  ruler : Nat
  body : List BodyLine

namespace Printed

/-- The code in brackets, if there is one. -/
def codeText (r : Printed) : List Char :=
  r.code.elim [] fun code ↦ '[' :: (code ++ "] ".toList)

/-- The position of a report: `path:line:column`. -/
def location (r : Printed) : List Char :=
  r.path ++ ':' :: decimal r.line ++ ':' :: decimal r.column

/-- The header of a report: `-- [code] title: path:line:column ----`. -/
def headerLine (r : Printed) : List Char :=
  "-- ".toList ++
    (r.codeText ++ r.title ++ (": ".toList ++ (r.location ++ ' ' :: List.replicate r.ruler '-')))

/-- The lines of a report. -/
def lines (r : Printed) : List (List Char) := r.headerLine :: r.body.map BodyLine.line

/-- The severity that the title of a report ends in. -/
def severity (r : Printed) : Severity :=
  if "Error".toList <:+ r.title then .error else .warning

/-- The message of a report: its title, and the details in one line. -/
def message (r : Printed) : List Char :=
  match r.body.filterMap BodyLine.text? with
  | [] => r.title
  | first :: others => r.title ++ ": ".toList ++ [' '].intercalate (first :: others)

/-- The report as it is meant. -/
def diagnostic (r : Printed) : Diagnostic :=
  ⟨r.severity, JavacStyle.compilerOrigin, String.ofList r.message,
    some ⟨⟨String.ofList r.path⟩, r.line, some r.column⟩⟩

/-- A report whose title tells its severity, and whose parts do not hold the separators after
them. -/
structure WellFormed (r : Printed) : Prop where
  title_ends : "Error".toList <:+ r.title ∨ "Warning".toList <:+ r.title
  title_oneLine : '\n' ∉ r.title
  title_noColon : ¬": ".toList <:+: r.title
  title_noBracket : r.code = none → r.title.head? ≠ some '['
  code_oneLine : ∀ code ∈ r.code, '\n' ∉ code
  code_noColon : ∀ code ∈ r.code, ¬": ".toList <:+: code
  code_noBracket : ∀ code ∈ r.code, ¬"] ".toList <:+: code
  path_oneLine : '\n' ∉ r.path
  body_wellFormed : ∀ line ∈ r.body, line.WellFormed

variable {r : Printed}

/-! ### Reading a header -/

theorem clear_codeText (h : r.WellFormed) (rest : List Char) :
    Clear ": ".toList r.codeText rest := by
  rcases hcode : r.code with - | code
  · rw [codeText, hcode]
    trivial
  · have hhead : ∀ d ∈ ("] ".toList ++ rest).head?, d ∉ [' '] := by simp
    rw [codeText, hcode]
    exact ⟨by simp, clear_append.2
      ⟨clear_of_head? (h.code_noColon code hcode) hhead, clear_of_notMem (by decide)⟩⟩

theorem cut?_title (h : r.WellFormed) (rest : List Char) :
    cut? ": ".toList (r.codeText ++ r.title ++ (": ".toList ++ rest)) =
      some (r.codeText ++ r.title, rest) := by
  have hhead : ∀ d ∈ (": ".toList ++ rest).head?, d ∉ [' '] := by simp
  exact (cut?_eq_some_iff (by decide)).2
    ⟨rfl, clear_append.2 ⟨clear_codeText h _, clear_of_head? h.title_noColon hhead⟩⟩

theorem titleWithoutCode?_eq (h : r.WellFormed) :
    titleWithoutCode? (r.codeText ++ r.title) = some r.title := by
  rcases hcode : r.code with - | code
  · rw [codeText, hcode, Option.elim_none, List.nil_append, titleWithoutCode?]
    rintro coded hcoded
    exact h.title_noBracket hcode (by rw [hcoded]; rfl)
  · have hhead : ∀ d ∈ ("] ".toList ++ r.title).head?, d ∉ [' '] := by simp
    have hcut : cut? "] ".toList (code ++ ("] ".toList ++ r.title)) = some (code, r.title) :=
      (cut?_eq_some_iff (by decide)).2 ⟨rfl, clear_of_head? (h.code_noBracket code hcode) hhead⟩
    rw [codeText, hcode, Option.elim_some, List.cons_append, List.append_assoc, titleWithoutCode?,
      hcut]
    rfl

theorem severityOf?_title (h : r.WellFormed) : severityOf? r.title = some r.severity := by
  rw [severityOf?, severity]
  by_cases herror : "Error".toList <:+ r.title
  · rw [if_pos (List.isSuffixOf_iff_suffix.2 herror), if_pos herror]
  · rw [if_neg (by simpa using herror), if_neg herror,
      if_pos (List.isSuffixOf_iff_suffix.2 (h.title_ends.resolve_left herror))]

/-- The dashes and blanks at the end of a header are no part of the position. -/
theorem dropBack_location (r : Printed) :
    dropBack (fun c ↦ c = '-' || c = ' ') (r.location ++ ' ' :: List.replicate r.ruler '-') =
      r.location := by
  refine dropBack_append (fun c hc ↦ ?_) fun c hc ↦ ?_
  · have hdigit : c.isDigit = true := by
      rw [location, List.getLast?_append_of_ne_nil _ (List.cons_ne_nil _ _),
        List.getLast?_cons_of_ne_nil (decimal_ne_nil _)] at hc
      exact isDigit_of_mem_decimal (List.mem_of_getLast? hc)
    have hdash : c ≠ '-' := ne_of_isDigit hdigit (by decide)
    have hblank : c ≠ ' ' := ne_of_isDigit hdigit (by decide)
    simp [hdash, hblank]
  · rcases List.mem_cons.1 hc with rfl | hdash
    · rfl
    · rw [List.eq_of_mem_replicate hdash]
      rfl

/-- **A header is read back.** -/
theorem header?_headerLine (h : r.WellFormed) :
    header? r.headerLine = some ⟨r.severity, r.title, r.path, r.line, r.column⟩ := by
  have hstart : "-- ".toList.isPrefixOf? r.headerLine =
      some (r.codeText ++ r.title ++
        (": ".toList ++ (r.location ++ ' ' :: List.replicate r.ruler '-'))) :=
    List.isPrefixOf?_eq_some_iff_append_eq.2 rfl
  have hcolumn :
      cutLast? ':' r.location = some (r.path ++ ':' :: decimal r.line, decimal r.column) :=
    cutLast?_eq_some_iff.2 ⟨rfl, notMem_decimal (by decide)⟩
  have hline : cutLast? ':' (r.path ++ ':' :: decimal r.line) = some (r.path, decimal r.line) :=
    cutLast?_eq_some_iff.2 ⟨rfl, notMem_decimal (by decide)⟩
  simp only [header?, bind, Option.bind, hstart, cut?_title h, titleWithoutCode?_eq h,
    severityOf?_title h, dropBack_location, hcolumn, numeral?_decimal, hline]

/-- A header does not end in a carriage return. -/
theorem withoutReturn_headerLine (r : Printed) : withoutReturn r.headerLine = r.headerLine := by
  refine withoutReturn_of_getLast? fun hlast ↦ ?_
  rw [headerLine, ← List.append_assoc, ← List.append_assoc, ← List.append_assoc,
    List.getLast?_append_of_ne_nil _ (List.cons_ne_nil _ _)] at hlast
  rcases List.mem_cons.1 (List.mem_of_getLast? hlast) with hblank | hdash
  · cases hblank
  · cases List.eq_of_mem_replicate hdash

theorem notMem_headerLine (h : r.WellFormed) : '\n' ∉ r.headerLine := by
  have hcode : '\n' ∉ r.codeText := by
    rcases hcode : r.code with - | code
    · simp [codeText, hcode]
    · simp [codeText, hcode, h.code_oneLine code hcode]
  have hdigits : ∀ n, '\n' ∉ decimal n := fun n ↦ notMem_decimal (by decide)
  simp [headerLine, location, hcode, h.title_oneLine, h.path_oneLine, hdigits, List.mem_replicate]

end Printed

/-! ### Reading what is under a header -/

namespace BodyLine

variable {l : BodyLine}

theorem notMem_line (h : l.WellFormed) : '\n' ∉ l.line := by
  rcases l with text | line
  · simpa [line] using h.1
  · exact h.1

/-- A detail does not end in a carriage return. -/
theorem withoutReturn_detail {text : List Char} (h : (detail text).WellFormed) :
    withoutReturn (detail text).line = (detail text).line := by
  obtain ⟨-, htrimmed, hcarets⟩ := h
  have hne : text ≠ [] := by
    rintro rfl
    cases hcarets
  refine withoutReturn_of_getLast? fun hlast ↦ ?_
  rw [line, List.getLast?_append_of_ne_nil _ hne] at hlast
  exact absurd (htrimmed.2 _ hlast) (by decide)

theorem header?_line (h : l.WellFormed) : header? (withoutReturn l.line) = none := by
  rcases l with text | line
  · rw [withoutReturn_detail h]
    rfl
  · exact h.2.1

theorem detail?_line (h : l.WellFormed) : detail? (withoutReturn l.line) = l.text? := by
  rcases l with text | line
  · rw [withoutReturn_detail h]
    obtain ⟨-, htrimmed, hcarets⟩ := h
    have hfront : trimFront (detail text).line = '|' :: ' ' :: text := rfl
    rw [detail?, hfront]
    simp only [trim_cons (show isBlank ' ' = true by decide), htrimmed.trim_eq, hcarets]
    rfl
  · obtain ⟨-, -, hsilent⟩ := h
    rw [BodyLine.line, detail?]
    split
    · rename_i rest hbar
      rw [hbar] at hsilent
      have hcarets : (trim rest).all (· = '^') = true := hsilent rfl
      simp only [hcarets]
      rfl
    · rfl

end BodyLine

/-! ### What is printed is read -/

namespace Printed

variable {r : Printed} {rs : List Printed}

theorem notMem_of_mem_lines (h : ∀ r ∈ rs, r.WellFormed) {line : List Char}
    (hline : line ∈ rs.flatMap lines) : '\n' ∉ line := by
  obtain ⟨r, hr, hmem⟩ := List.mem_flatMap.1 hline
  rcases List.mem_cons.1 hmem with rfl | hbody
  · exact notMem_headerLine (h r hr)
  · obtain ⟨l, hl, rfl⟩ := List.mem_map.1 hbody
    exact BodyLine.notMem_line ((h r hr).body_wellFormed l hl)

/-- The report that is made of the header and the details is the one that is meant. -/
theorem report_eq (r : Printed) :
    (⟨r.severity, r.title, r.path, r.line, r.column⟩ : Header).report
      (r.body.filterMap BodyLine.text?) = r.diagnostic := by
  rw [diagnostic, Header.report, message]
  cases r.body.filterMap BodyLine.text? <;> rfl

/-- The lines of a printed report as they are read back are a segment. -/
def segment (h : r.WellFormed) : Segment where
  headerLine := r.headerLine
  header := ⟨r.severity, r.title, r.path, r.line, r.column⟩
  header_eq := header?_headerLine h
  body := (r.body.map BodyLine.line).map withoutReturn
  body_plain := by
    rw [List.map_map]
    exact List.forall_mem_map.2 fun l hl ↦ BodyLine.header?_line (h.body_wellFormed l hl)

theorem lines_segment (h : r.WellFormed) : (segment h).lines = r.lines.map withoutReturn := by
  rw [lines, List.map_cons, withoutReturn_headerLine]
  rfl

theorem report_segment (h : r.WellFormed) : (segment h).report = r.diagnostic := by
  have hdetails : ((r.body.map BodyLine.line).map withoutReturn).filterMap detail? =
      r.body.filterMap BodyLine.text? := by
    rw [List.filterMap_map, List.filterMap_map]
    exact List.filterMap_congr fun l hl ↦ BodyLine.detail?_line (h.body_wellFormed l hl)
  rw [← report_eq, ← hdetails]
  rfl

/-- Printed reports are segments that have the reports which are meant. -/
theorem exists_segments (h : ∀ r ∈ rs, r.WellFormed) :
    ∃ segments : List Segment,
      segments.flatMap Segment.lines = (rs.flatMap lines).map withoutReturn ∧
        segments.map Segment.report = rs.map diagnostic := by
  induction rs with
  | nil => exact ⟨[], rfl, rfl⟩
  | cons r rs ih =>
    obtain ⟨hr, hrs⟩ := List.forall_mem_cons.1 h
    obtain ⟨segments, hlines, hreports⟩ := ih hrs
    refine ⟨segment hr :: segments, ?_, ?_⟩
    · rw [List.flatMap_cons, lines_segment, hlines, List.flatMap_cons, List.map_append]
    · rw [List.map_cons, report_segment, hreports, List.map_cons]

theorem reportsFrom_flatMap_lines (h : ∀ r ∈ rs, r.WellFormed) :
    reportsFrom none ((rs.flatMap lines).map withoutReturn) = rs.map diagnostic := by
  obtain ⟨segments, hlines, hreports⟩ := exists_segments h
  rw [← hlines, ← hreports, Segment.reportsFrom_flatMap]

/-- **Printed reports are read back**, one diagnostic for each, in order. Lines that are no headers
may stand in front of them, and lines that say nothing anywhere under their headers. -/
theorem reports_of_printed {opening : List (List Char)}
    (hopening : ∀ line ∈ opening, '\n' ∉ line ∧ header? (withoutReturn line) = none)
    (hrs : ∀ r ∈ rs, r.WellFormed) :
    reports (ofLines (opening ++ rs.flatMap lines)) = rs.map diagnostic := by
  have hfeeds : ∀ line ∈ opening ++ rs.flatMap lines, '\n' ∉ line := by
    intro line hline
    rcases List.mem_append.1 hline with hmem | hmem
    · exact (hopening line hmem).1
    · exact notMem_of_mem_lines hrs hmem
  rw [reports, lines_ofLines hfeeds, List.map_append, reportsFrom_none_append,
    reportsFrom_flatMap_lines hrs]
  exact List.forall_mem_map.2 fun line hline ↦ (hopening line hline).2

/-- A report with a code, in a file with colons in its path, and with lines of source and of carets
among its details. -/
def mismatch : Printed where
  code := some "E007".toList
  title := "Type Mismatch Error".toList
  path := "C:/a b: c/A.scala".toList
  line := 3
  column := 15
  ruler := 4
  body := [.other "3 |  val x: Int = \"a\"\r".toList, .other "  |               ^^^".toList,
    .detail "Found:    (\"a\" : String)".toList, .other "  |".toList,
    .detail "Required: Int".toList]

/-- A report without code and without details. -/
def bareWarning : Printed where
  code := none
  title := "Warning".toList
  path := "src/B.scala".toList
  line := 1
  column := 0
  ruler := 0
  body := [.other "2 errors found".toList]

theorem reports_of_printed_mismatch :
    mismatch.WellFormed ∧ bareWarning.WellFormed ∧
      reports (ofLines (["-- Info: nothing".toList] ++ [mismatch, bareWarning].flatMap lines)) =
        [⟨.error, "compiler",
            "Type Mismatch Error: Found:    (\"a\" : String) Required: Int",
            some ⟨⟨"C:/a b: c/A.scala"⟩, 3, some 15⟩⟩,
          ⟨.warning, "compiler", "Warning", some ⟨⟨"src/B.scala"⟩, 1, some 0⟩⟩] := by
  have hmismatch : mismatch.WellFormed := by
    constructor <;> decide
  have hbare : bareWarning.WellFormed := by
    constructor <;> decide
  refine ⟨hmismatch, hbare, ?_⟩
  rw [reports_of_printed (by decide) (by simp [hmismatch, hbare])]
  decide

end Printed

end WorkspaceIndex.Scala3Output
