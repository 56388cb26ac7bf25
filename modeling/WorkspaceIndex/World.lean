import WorkspaceIndex.Compiler.Request
import WorkspaceIndex.Diagnostic
import WorkspaceIndex.Failure
import WorkspaceIndex.IndexRequest
/-!
# Runs and their traces

A run works on a *world*: the files, the state of whatever answers from outside, and a trace of what
happened so far. Three collaborators answer from outside: one fetches plugins, one compiles and one
indexes. Their answers may depend on the files and on their own state, which they change as they
like; they write no files, and they cannot touch the trace. Every call of theirs, every diagnostic
that is reported and every notice is put on the trace by the functions of this module and by nothing
else, in the order in which it happens. A failed run keeps the world as it was left.
-/

namespace WorkspaceIndex

/-- Something a planner has to say about a module. -/
inductive Notice where
  | skipped (module reason : String)
  | unknownRuntime (module : String)
  deriving DecidableEq, Repr

namespace Notice

/-- The module a notice is about. -/
def module : Notice → String
  | .skipped module _ => module
  | .unknownRuntime module => module

/-- The severity of a notice. -/
def severity : Notice → Severity
  | .skipped _ _ => .error
  | .unknownRuntime _ => .warning

/-- The text of a notice. -/
def message : Notice → String
  | .skipped _ reason => s!"skipping module: {reason}"
  | .unknownRuntime _ => "unknown Java runtime version; not adding javac export flags"

end Notice

/-- Something that happened in a run. -/
inductive Event where
  | fetched (plugin : Plugin)
  | compiled (call : CompileCall)
  /-- The indexer was called, with the classpath file as it was then. -/
  | indexed (request : IndexRequest) (classpathFile : Option String)
  | reported (diagnostic : Diagnostic)
  | noticed (notice : Notice)
  deriving DecidableEq, Repr

/-- What a compiler or an indexer answers: what it reports, in order, and how it ends. -/
structure Answer where
  diagnostics : List Diagnostic := []
  result : Except Failure Unit := .ok ()

/-- The collaborators of a run over a build, with states of type `ε`. They are handed the files to
look at, and hand none back: what a compiler or an indexer leaves on the disk is not part of the
world. -/
structure Services (ε : Type) where
  host : HostGraph
  fetch : Plugin → FileStore → ε → Except Failure (List Path) × ε
  compile : CompileCall → FileStore → ε → Answer × ε
  index : IndexRequest → FileStore → ε → Answer × ε

/-- Everything a run can see or change. -/
structure World (ε : Type) where
  files : FileStore
  /-- The state of the collaborators. -/
  outside : ε
  trace : List Event := []

/-- A computation on a world that may fail. -/
abbrev Run (ε α : Type) := EStateM Failure (World ε) α

namespace World

variable {ε : Type}

/-- The world with one more event on its trace. -/
def record (w : World ε) (event : Event) : World ε := { w with trace := w.trace ++ [event] }

/-- The world after diagnostics were reported in order. -/
def report (w : World ε) (diagnostics : List Diagnostic) : World ε :=
  { w with trace := w.trace ++ diagnostics.map .reported }

end World

namespace Run

variable {ε : Type}

/-- The run that ends as `result` says. -/
def ofExcept {α : Type} (result : Except Failure α) : Run ε α :=
  match result with
  | .ok a => pure a
  | .error failure => throw failure

/-- Puts a notice on the trace. -/
def notice (n : Notice) : Run ε Unit := modify fun w ↦ w.record (.noticed n)

/-- Has a plugin fetched. -/
def fetch (services : Services ε) (plugin : Plugin) : Run ε (List Path) := fun w ↦
  let answer := services.fetch plugin w.files w.outside
  ofExcept answer.1 { w.record (.fetched plugin) with outside := answer.2 }

/-- Has a module compiled: all that the compiler reports goes on the trace, and both that and how
it ended is returned. -/
def compile (services : Services ε) (call : CompileCall) : Run ε Answer := fun w ↦
  let answer := services.compile call w.files w.outside
  let after := { w.record (.compiled call) with outside := answer.2 }
  .ok answer.1 (after.report answer.1.diagnostics)

/-- The classpath file that an indexer finds in its first directory. -/
def classpathFileOf (files : FileStore) (request : IndexRequest) : Option String :=
  request.targetroots.head?.bind fun root ↦
    (files.readText (IndexRequest.classpathFile root)).toOption

/-- Has an index built: all that the indexer reports goes on the trace. -/
def index (services : Services ε) (request : IndexRequest) : Run ε Unit := fun w ↦
  let answer := services.index request w.files w.outside
  let after :=
    { w.record (.indexed request (classpathFileOf w.files request)) with outside := answer.2 }
  ofExcept answer.1.result (after.report answer.1.diagnostics)

/-- Makes a directory and those above it, as part of an attempt. -/
def makeDirectories (attempt : Attempt) (path : Path) : Run ε Unit := fun w ↦
  let made := w.files.makeDirectories path
  let after := { w with files := made.2 }
  match made.1 with
  | .ok () => .ok () after
  | .error cause => .error (.refused attempt cause) after

/-- Writes a file in a directory that is there. -/
def overwriteFile (path : Path) (text : String) : Run ε Unit := fun w ↦
  match w.files.writeText path text with
  | .ok files => .ok () { w with files }
  | .error cause => .error (.refused (.writeFile path) cause) w

/-- Writes a file and makes the directories above it. -/
def writeFile (path : Path) (text : String) : Run ε Unit := do
  match path.parent? with
  | some above => makeDirectories (.createDirectory above) above
  | none => pure ()
  overwriteFile path text

end Run

end WorkspaceIndex
