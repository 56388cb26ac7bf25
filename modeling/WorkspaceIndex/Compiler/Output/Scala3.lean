import WorkspaceIndex.Compiler.Output.JavacStyle
/-!
# Reports of several lines

The compiler of Scala 3 starts a report with a header such as

    -- [E007] Type Mismatch Error: src/A.scala:3:15 ------------

and goes on with lines of source and of details, all of them with a bar in front. The details that
are more than a row of carets make up the message, after the title of the header. A header belongs
to the lines after it up to the next header, and lines before the first header to nothing.
-/

namespace WorkspaceIndex.Scala3Output

/-- The first line of a report. -/
structure Header where
  severity : Severity
  title : List Char
  path : List Char
  line : UInt32
  column : UInt32
  deriving DecidableEq, Repr

/-- The title behind a code in brackets, or all of a title without a code. -/
def titleWithoutCode? (title : List Char) : Option (List Char) :=
  match title with
  | '[' :: coded => (Text.cut? "] ".toList coded).map Prod.snd
  | _ => some title

/-- The severity that a title ends in. -/
def severityOf? (title : List Char) : Option Severity :=
  if "Error".toList.isSuffixOf title then some .error
  else if "Warning".toList.isSuffixOf title then some .warning
  else none

/-- The header on a line. -/
def header? (line : List Char) : Option Header := do
  let rest ← "-- ".toList.isPrefixOf? line
  let (coded, location) ← Text.cut? ": ".toList rest
  let title ← titleWithoutCode? coded
  let severity ← severityOf? title
  let location := Text.dropBack (fun c ↦ c = '-' || c = ' ') location
  let (location, column) ← Text.cutLast? ':' location
  let column ← Text.numeral? column
  let (path, number) ← Text.cutLast? ':' location
  let number ← Text.numeral? number
  some ⟨severity, title, path, number, column⟩

/-- The detail on a line. -/
def detail? (line : List Char) : Option (List Char) :=
  match Text.trimFront line with
  | '|' :: rest =>
    let text := Text.trim rest
    if text.all (· = '^') then none else some text
  | _ => none

/-- The report of a header with the details under it. -/
def Header.report (header : Header) (details : List (List Char)) : Diagnostic where
  severity := header.severity
  origin := JavacStyle.compilerOrigin
  message := String.ofList <|
    if details.isEmpty then header.title
    else header.title ++ ": ".toList ++ [' '].intercalate details
  position := some ⟨⟨String.ofList header.path⟩, header.line, some header.column⟩

/-- The reports of a list of lines, given the header and the details of the report that is being
read. -/
def reportsFrom (current : Option (Header × List (List Char))) :
    List (List Char) → List Diagnostic
  | [] => (current.map fun (header, details) ↦ header.report details).toList
  | line :: rest =>
    match header? line with
    | some header =>
      (current.map fun (header, details) ↦ header.report details).toList ++
        reportsFrom (some (header, [])) rest
    | none =>
      reportsFrom (current.map fun (header, details) ↦ (header, details ++ (detail? line).toList))
        rest

/-- The reports in the output of a compiler, in order. -/
def reports (output : List Char) : List Diagnostic := reportsFrom none (Text.lines output)

end WorkspaceIndex.Scala3Output
