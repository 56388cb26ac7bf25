import WorkspaceIndex.Diagnostic
import WorkspaceIndex.Text.Blank
import WorkspaceIndex.Text.Cut
import WorkspaceIndex.Text.Lines
import WorkspaceIndex.Text.Numeral
/-!
# Reports on one line

The Java compiler and that of Scala 2 write a report as `path:line: error: message`, or with
`warning` in the place of `error`. A line is read by its first marker of either kind, errors first;
a line in which what stands before the marker does not end in a line number is no report.
-/

namespace WorkspaceIndex.JavacStyle

/-- The origin of diagnostics that were read from the output of a compiler. -/
def compilerOrigin : String := "compiler"

/-- The text between a position and a message, for errors and for warnings. -/
def markers : List (List Char × Severity) :=
  [(": error: ".toList, .error), (": warning: ".toList, .warning)]

/-- The report on a line around a given marker. -/
def reportAt? (line : List Char) (marker : List Char × Severity) : Option Diagnostic := do
  let (location, message) ← Text.cut? marker.1 line
  let (path, number) ← Text.cutLast? ':' location
  let number ← Text.numeral? (Text.trim number)
  some {
    severity := marker.2
    origin := compilerOrigin
    message := String.ofList (Text.trim message)
    position := some ⟨⟨String.ofList path⟩, number, none⟩ }

/-- The report on a line. -/
def report? (line : List Char) : Option Diagnostic := markers.findSome? (reportAt? line)

/-- The reports in the output of a compiler, in order. -/
def reports (output : List Char) : List Diagnostic := (Text.lines output).filterMap report?

end WorkspaceIndex.JavacStyle
