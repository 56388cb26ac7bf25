import WorkspaceIndex.Compiler.Output.Scala3
import WorkspaceIndex.Proofs.Compiler.JavacStyle
/-!
# Output in segments

The lines of an output are read one after the other with the report in hand to which they belong.
What is in hand is handed out in two places, by the next header and by the end of the text, and
between these a line can only add a detail (`reportsFrom_append`). So a report is made of one
*segment* of the output, a header with the lines up to the next one, and of nothing else
(`Segment.reportsFrom_append`).

Every output is lines that belong to nothing and then segments (`exists_segmented`), its reports are
those of its segments, and an output that starts with a header is read on its own behind whole
lines.
-/

namespace WorkspaceIndex.Scala3Output

open Text

variable {header : Header} {details : List (List Char)} {body rest : List (List Char)}

/-! ### Going through the lines -/

/-- Lines before the first header belong to nothing. -/
theorem reportsFrom_none_append (h : ∀ line ∈ body, header? line = none) :
    reportsFrom none (body ++ rest) = reportsFrom none rest := by
  induction body with
  | nil => rfl
  | cons line body ih =>
    rw [List.cons_append, reportsFrom, h line List.mem_cons_self]
    exact ih fun other hother ↦ h other (List.mem_cons_of_mem _ hother)

/-- Lines that are no headers add their details to the report that is being read. -/
theorem reportsFrom_append (h : ∀ line ∈ body, header? line = none) :
    reportsFrom (some (header, details)) (body ++ rest) =
      reportsFrom (some (header, details ++ body.filterMap detail?)) rest := by
  induction body generalizing details with
  | nil => simp
  | cons line body ih =>
    rw [List.cons_append, reportsFrom, h line List.mem_cons_self]
    simp only [Option.map_some]
    rw [ih fun other hother ↦ h other (List.mem_cons_of_mem _ hother), List.append_assoc]
    congr 4
    cases hdetail : detail? line <;> simp [hdetail]

/-- Whether a line is a header. -/
def isHeader (line : List Char) : Bool := (header? line).isSome

/-- Lines that start with a header, or no lines at all. -/
def Closes (rest : List (List Char)) : Prop := ∀ line ∈ rest.head?, isHeader line

theorem isHeader_eq_false_iff {line : List Char} : isHeader line = false ↔ header? line = none := by
  rw [isHeader, Option.isSome_eq_false_iff, Option.isNone_iff_eq_none]

theorem countP_isHeader_of_plain (h : ∀ line ∈ body, header? line = none) :
    body.countP isHeader = 0 :=
  List.countP_eq_zero.2 fun line hline ↦
    Bool.eq_false_iff.1 (isHeader_eq_false_iff.2 (h line hline))

/-- A report is closed by the next header and by the end of the text. -/
theorem reportsFrom_of_closes (h : Closes rest) :
    reportsFrom (some (header, details)) rest = header.report details :: reportsFrom none rest := by
  rcases rest with - | ⟨line, rest⟩
  · rfl
  · obtain ⟨next, hnext⟩ := Option.isSome_iff_exists.1 (h line rfl)
    rw [reportsFrom, reportsFrom, hnext]
    rfl

/-! ### Segments -/

/-- A header with lines under it that are no headers. -/
structure Segment where
  headerLine : List Char
  header : Header
  header_eq : header? headerLine = some header
  body : List (List Char)
  body_plain : ∀ line ∈ body, header? line = none

namespace Segment

/-- The lines of a segment. -/
def lines (s : Segment) : List (List Char) := s.headerLine :: s.body

/-- The report of a segment: its header with the details under it. -/
def report (s : Segment) : Diagnostic := s.header.report (s.body.filterMap detail?)

theorem isHeader_headerLine (s : Segment) : isHeader s.headerLine = true := by
  rw [isHeader, s.header_eq, Option.isSome_some]

/-- **One report is read off a segment**, and what comes after it is read on its own. -/
theorem reportsFrom_append (s : Segment) (hrest : Closes rest) :
    reportsFrom none (s.lines ++ rest) = s.report :: reportsFrom none rest := by
  rw [lines, List.cons_append, reportsFrom, s.header_eq]
  simp only [Option.map_none, Option.toList_none, List.nil_append]
  -- the report stays in hand through the body, and what follows closes it
  rw [Scala3Output.reportsFrom_append s.body_plain, List.nil_append, reportsFrom_of_closes hrest,
    report]

/-- The lines of a segment alone are read as its report. -/
theorem reportsFrom_lines (s : Segment) : reportsFrom none s.lines = [s.report] := by
  have hend : reportsFrom none (s.lines ++ []) = [s.report] := s.reportsFrom_append nofun
  rwa [List.append_nil] at hend

theorem closes (segments : List Segment) : Closes (segments.flatMap lines) := by
  rcases segments with - | ⟨s, segments⟩
  · rintro line ⟨⟩
  · rintro line hline
    obtain rfl : s.headerLine = line := Option.some.inj hline
    exact s.isHeader_headerLine

theorem reportsFrom_flatMap (segments : List Segment) :
    reportsFrom none (segments.flatMap lines) = segments.map report := by
  induction segments with
  | nil => rfl
  | cons s segments ih =>
    rw [List.flatMap_cons, s.reportsFrom_append (closes segments), ih, List.map_cons]

theorem countP_flatMap (segments : List Segment) :
    (segments.flatMap lines).countP isHeader = segments.length := by
  induction segments with
  | nil => rfl
  | cons s segments ih =>
    rw [List.flatMap_cons, List.countP_append, lines, List.countP_cons_of_pos s.isHeader_headerLine,
      countP_isHeader_of_plain s.body_plain, ih, List.length_cons, Nat.zero_add, Nat.add_comm]

end Segment

/-- Lines are segments, one after the other, behind lines that belong to none. -/
structure Segmented (all opening : List (List Char)) (segments : List Segment) : Prop where
  lines_eq : all = opening ++ segments.flatMap Segment.lines
  opening_plain : ∀ line ∈ opening, header? line = none

/-- **All lines can be cut into segments**, from the last line on: a line that is no header comes in
front of the opening, and a header turns the opening into its body. -/
theorem exists_segmented (all : List (List Char)) :
    ∃ opening segments, Segmented all opening segments := by
  induction all with
  | nil => exact ⟨[], [], rfl, fun _ hline ↦ absurd hline List.not_mem_nil⟩
  | cons line all ih =>
    obtain ⟨opening, segments, rfl, hopening⟩ := ih
    rcases hheader : header? line with - | header
    · exact ⟨line :: opening, segments, rfl, List.forall_mem_cons.2 ⟨hheader, hopening⟩⟩
    · exact ⟨[], ⟨line, header, hheader, opening, hopening⟩ :: segments, rfl,
        fun _ hline ↦ absurd hline List.not_mem_nil⟩

namespace Segmented

variable {all opening : List (List Char)} {segments : List Segment}

theorem reportsFrom_eq (h : Segmented all opening segments) :
    reportsFrom none all = segments.map Segment.report := by
  rw [h.lines_eq, reportsFrom_none_append h.opening_plain, Segment.reportsFrom_flatMap]

theorem countP_eq (h : Segmented all opening segments) : all.countP isHeader = segments.length := by
  rw [h.lines_eq, List.countP_append, countP_isHeader_of_plain h.opening_plain,
    Segment.countP_flatMap, Nat.zero_add]

/-- Lines that start with a header have nothing in front of their segments. -/
theorem opening_eq_nil (h : Segmented all opening segments) (hcloses : Closes all) :
    opening = [] := by
  rcases opening with - | ⟨line, opening⟩
  · rfl
  · have hheader := hcloses line (by rw [h.lines_eq]; rfl)
    rw [isHeader_eq_false_iff.2 (h.opening_plain line List.mem_cons_self)] at hheader
    cases hheader

theorem append {other : List (List Char)} {others : List Segment}
    (h : Segmented all opening segments) (hother : Segmented other [] others) :
    Segmented (all ++ other) opening (segments ++ others) where
  lines_eq := by
    rw [h.lines_eq, hother.lines_eq, List.nil_append, List.flatMap_append, List.append_assoc]
  opening_plain := h.opening_plain

end Segmented

/-- What starts with a header is read on its own. -/
theorem reportsFrom_none_append_of_closes {all other : List (List Char)} (h : Closes other) :
    reportsFrom none (all ++ other) = reportsFrom none all ++ reportsFrom none other := by
  obtain ⟨opening, segments, hall⟩ := exists_segmented all
  obtain ⟨nothing, others, hother⟩ := exists_segmented other
  obtain rfl := hother.opening_eq_nil h
  rw [(hall.append hother).reportsFrom_eq, hall.reportsFrom_eq, hother.reportsFrom_eq,
    List.map_append]

/-! ### The reports of an output -/

/-- **An output has the reports of its segments**, one for each line that is a header, in the order
of these lines, and each is what the lines of its segment are read as alone. So behind whole lines
an output that starts with a header is read on its own. With reports of one line any output is. -/
theorem reports_segmented :
    (∀ output : List Char,
      (∃ opening segments, Segmented (lines output) opening segments) ∧
      ∀ opening segments, Segmented (lines output) opening segments →
        reports output = segments.map Segment.report ∧
        (∀ s ∈ segments, reportsFrom none s.lines = [s.report]) ∧
        (reports output).length = (lines output).countP isHeader) ∧
    (∀ a b : List Char, IsEnded a →
      (b = [] ∨ ∃ first later, lines b = first :: later ∧ isHeader first) →
      reports (a ++ b) = reports a ++ reports b) ∧
    ∀ a b : List Char, IsEnded a →
      JavacStyle.reports (a ++ b) = JavacStyle.reports a ++ JavacStyle.reports b := by
  refine ⟨fun output ↦ ⟨exists_segmented _, fun opening segments h ↦ ?_⟩, fun a b ha hb ↦ ?_,
    fun a b ha ↦ JavacStyle.reports_append ha⟩
  · have hreports : reports output = segments.map Segment.report := h.reportsFrom_eq
    refine ⟨hreports, fun s _ ↦ s.reportsFrom_lines, ?_⟩
    rw [hreports, List.length_map, h.countP_eq]
  · have hcloses : Closes (lines b) := by
      rcases hb with rfl | ⟨first, later, hlines, hfirst⟩
      · rintro line ⟨⟩
      · rw [hlines]
        rintro line ⟨⟩
        exact hfirst
    rw [reports, lines_append ha]
    exact reportsFrom_none_append_of_closes hcloses

/-- An output of whole lines that ends within a report. -/
def brokenOff : List Char := "[info] compiling\n-- Error: A.scala:1:2 ---\n  | bad\n".toList

/-- An output that starts with a report. -/
def nextReport : List Char := "-- Warning: B.scala:3:4\n  | old\n  | ^^^".toList

/-- What a compiler with reports of one line writes, in two parts. -/
def firstPart : List Char := "A.java:1: error: bad\n1 error\n".toList

def secondPart : List Char := "B.java:2: warning: old".toList

theorem reports_segmented_brokenOff :
    IsEnded brokenOff ∧
      reports (brokenOff ++ nextReport) =
        [⟨.error, "compiler", "Error: bad", some ⟨⟨"A.scala"⟩, 1, some 2⟩⟩,
          ⟨.warning, "compiler", "Warning: old", some ⟨⟨"B.scala"⟩, 3, some 4⟩⟩] ∧
      IsEnded firstPart ∧ JavacStyle.reports (firstPart ++ secondPart) =
        [⟨.error, "compiler", "bad", some ⟨⟨"A.java"⟩, 1, none⟩⟩,
          ⟨.warning, "compiler", "old", some ⟨⟨"B.java"⟩, 2, none⟩⟩] := by
  have hended : IsEnded brokenOff := Or.inr (by decide)
  have hended' : IsEnded firstPart := Or.inr (by decide)
  obtain ⟨-, hscala, hjavac⟩ := reports_segmented
  have hstarts : ∃ first later, lines nextReport = first :: later ∧ isHeader first :=
    ⟨"-- Warning: B.scala:3:4".toList, ["  | old".toList, "  | ^^^".toList], by decide, by decide⟩
  refine ⟨hended, (hscala _ _ hended (.inr hstarts)).trans (by decide), hended', ?_⟩
  exact (hjavac _ _ hended').trans (by decide)

end WorkspaceIndex.Scala3Output
