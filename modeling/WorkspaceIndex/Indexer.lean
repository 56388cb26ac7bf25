import WorkspaceIndex.Text.Blank
import WorkspaceIndex.Text.Lines
import WorkspaceIndex.World
/-!
# Indexers as external programs

An indexer runs in the workspace root on the directories of its request. Every line of its error
stream that is not blank is passed on as a diagnostic, and how it ends alone decides whether there
is an index.
-/

namespace WorkspaceIndex.Indexer

/-- The command line for a request. -/
def command (program : String) (request : IndexRequest) : Command where
  program := program
  directory := some request.workspaceRoot
  arguments :=
    [.ofText "index-semanticdb", .ofText "--output", request.output.letters] ++
      (if request.parallel then [] else [.ofText "--no-parallel"]) ++
      (if request.buildKind.isEmpty then []
        else [.ofText "--build-kind", .ofText request.buildKind]) ++
      request.targetroots.map Path.letters

/-- The severity of a line, by the word it starts with. -/
def severityOf (line : List Char) : Severity :=
  if "error".toList.isPrefixOf line then .error
  else if "warn".toList.isPrefixOf line then .warning
  else .info

/-- The diagnostic on a line. -/
def diagnostic (line : List Char) : Diagnostic :=
  .plain (severityOf line) "indexer" (String.ofList (Text.trimBack line))

/-- The diagnostics on the error stream. -/
def diagnostics (errors : List Char) : List Diagnostic :=
  ((Text.lines errors).filter fun line ↦ !Text.isAllBlank line).map diagnostic

/-- Why an indexer that ended badly failed: what it wrote, or else how it ended. -/
def fault (program : String) (run : ProgramRun) : IndexFault :=
  match Text.trim run.errors.lenientText.toList with
  | [] => .silent program run.status
  | said => .refused (String.ofList said)

/-- Indexes by an external program. -/
def index (program : String) (request : IndexRequest) (files : FileStore) (machine : Machine) :
    Answer × Machine :=
  match machine.start files (command program request) with
  | (.error cause, machine) =>
    ({ result := .error (.indexer (.notStarted program cause)) }, machine)
  | (.ok run, machine) =>
    ({ diagnostics := diagnostics run.errors.lenientText.toList
       result := if run.succeeded then .ok () else .error (.indexer (fault program run)) },
      machine)

end WorkspaceIndex.Indexer
