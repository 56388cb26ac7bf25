import WorkspaceIndex.Path
/-!
# Diagnostics

What compilers, the indexer and the phases of a run have to say: a severity, who says it, a
message and perhaps a source position.
-/

namespace WorkspaceIndex

/-- How serious a diagnostic is. -/
inductive Severity where
  /-- From a compiler, it fails the run. -/
  | error
  | warning
  | info
  deriving DecidableEq, Repr, Inhabited

/-- The name of a severity. -/
def Severity.name : Severity → String
  | .error => "error"
  | .warning => "warning"
  | .info => "info"

/-- The level under which something of a severity is logged. -/
def Severity.level : Severity → String
  | .error => "ERROR"
  | .warning => "WARN"
  | .info => "INFO"

/-- A place in a source file; the column may be unknown. -/
structure Position where
  path : Path
  line : UInt32
  column : Option UInt32
  deriving DecidableEq, Repr, Inhabited

/-- The path, the line and the column if known, with colons between them. -/
def Position.text (p : Position) : String :=
  let column := match p.column with
    | some column => s!":{column.toNat}"
    | none => ""
  s!"{p.path}:{p.line.toNat}{column}"

/-- One message. -/
structure Diagnostic where
  severity : Severity
  /-- Who says it: a module, the indexer or a phase. -/
  origin : String
  message : String
  position : Option Position
  deriving DecidableEq, Repr, Inhabited

namespace Diagnostic

/-- A diagnostic without position. -/
def plain (severity : Severity) (origin message : String) : Diagnostic :=
  ⟨severity, origin, message, none⟩

/-- Whether the diagnostic is an error. -/
def isError (d : Diagnostic) : Bool := d.severity = .error

/-- Whether the diagnostic is a warning. -/
def isWarning (d : Diagnostic) : Bool := d.severity = .warning

/-- The message after its position, if it has one. -/
def text (d : Diagnostic) : String :=
  match d.position with
  | some position => s!"{position.text}: {d.message}"
  | none => d.message

/-- The number of errors among diagnostics. -/
def errorCount (ds : List Diagnostic) : Nat := ds.countP isError

end Diagnostic

end WorkspaceIndex
