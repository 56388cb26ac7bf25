import WorkspaceIndex.Compiler.Outcome
import WorkspaceIndex.Pipeline.Snapshot
/-!
# Phases

A run goes through phases. Each is a computation on a session, which holds the context, the
snapshots that were taken and the world. The built-in phases resolve the format of the index,
compile the modules, aggregate the classpath and build the index, and the last one cannot do
without what the first and the third leave in the context.

A phase that fails keeps what it has done to the session so far.
-/

namespace WorkspaceIndex

/-- The state of a pipeline. -/
structure Session (ε : Type) where
  context : Context
  /-- The snapshots taken so far, the oldest first. -/
  snapshots : List Snapshot := []
  world : World ε

/-- A computation on a session that may fail. -/
abbrev SessionM (ε α : Type) := EStateM Failure (Session ε) α

namespace Session

variable {ε : Type}

/-- A run, as a computation that changes nothing but the world of a session. -/
def inWorld {α : Type} (run : Run ε α) : SessionM ε α := fun s ↦
  match run s.world with
  | .ok a world => .ok a { s with world }
  | .error failure world => .error failure { s with world }

/-- Changes the context. -/
def modifyContext (f : Context → Context) : SessionM ε Unit :=
  modify fun s ↦ { s with context := f s.context }

/-- The context as it is. -/
def currentContext : SessionM ε Context := do return (← get).context

end Session

/-- A phase: its name, what it does in words, and the step. -/
structure Phase (ε : Type) where
  name : String
  description : String
  run : SessionM ε Unit

namespace Phase

variable {ε : Type}

/-! ### The format -/

/-- The known format that the name of an index asks for. -/
def resolvedFormat (output : Path) : Except Failure OutputFormat :=
  let format := OutputFormat.ofFileName output.text
  if format.isKnown then .ok format else .error (.unknownFormat output.text)

/-- The phase that resolves the format of the index. -/
def resolveFormat : Phase ε where
  name := "resolve-format"
  description := "Resolve the index format from the output file name"
  run := do
    let c ← Session.currentContext
    let format ← Session.inWorld (Run.ofExcept (resolvedFormat c.options.output))
    Session.modifyContext fun c ↦ { c with format := some format }

/-! ### Compiling -/

/-- The name of the phase that compiles, which is also the origin of its warnings. -/
def compileName : String := "compile"

/-- The warning about a module that is skipped. -/
def skipWarning (module reason : String) : Diagnostic :=
  .plain .warning compileName s!"skipped module '{module}': {reason}"

/-- Carries out the plan of a module. -/
def carryOut (services : Services ε) (m : Module) : Plan → SessionM ε Unit
  | .compile request => do
    match ← Session.inWorld (Outcome.ofRequest services request m.prerequisites) with
    | .compiled => Session.modifyContext fun c ↦ c.addCompiled ⟨m.name, m.variant⟩
    | .nothingToCompile => pure ()
  | .skip _ reason => Session.modifyContext fun c ↦ c.note (skipWarning m.name reason)

/-- Plans a module and carries the plan out. -/
def processModule (services : Services ε) (destination : Path) (m : Module) : SessionM ε Plan := do
  let plan ← Session.inWorld (Plan.build services destination m)
  carryOut services m plan
  return plan

/-- Goes through modules in order and returns their plans. -/
def processModules (services : Services ε) (destination : Path) :
    List Module → SessionM ε (List Plan)
  | [] => pure []
  | m :: rest => do
    let plan ← processModule services destination m
    let plans ← processModules services destination rest
    return plan :: plans

/-- The phase that compiles the modules. Plans go into the context when all are carried out. -/
def compile (services : Services ε) : Phase ε where
  name := compileName
  description := "Compile each module with SemanticDB enabled, stopping after extraction"
  run := do
    let c ← Session.currentContext
    let plans ← processModules services c.options.destination services.host.modules
    Session.modifyContext fun c ↦ c.addPlans plans

/-! ### The classpath and the index -/

/-- The phase that aggregates the classpath of all modules, those that are skipped included. -/
def aggregate (services : Services ε) : Phase ε where
  name := "aggregate"
  description := "Aggregate the dependency classpath with package identities"
  run := modify fun s ↦
    let entries :=
      Classpath.aggregate s.world.files s.context.options.dedupClasspath services.host.modules
    { s with context := { s.context with classpath := some entries } }

/-- The request for the index of a context. -/
def indexRequest (host : HostGraph) (c : Context) (format : OutputFormat)
    (classpath : List ClasspathEntry) : IndexRequest :=
  .forDestination c.options.destination c.options.output host.root c.language format classpath

/-- Writes the classpath file and has the index built. -/
def buildIndex (services : Services ε) (c : Context) (format : OutputFormat)
    (classpath : List ClasspathEntry) : Run ε Path := do
  Run.writeFile (IndexRequest.classpathFile c.options.destination)
    (IndexRequest.classpathText classpath)
  let request := indexRequest services.host c format classpath
  Run.index services request
  return request.output

/-- The phase that builds the index. -/
def index (services : Services ε) : Phase ε where
  name := "index"
  description := "Write javacopts.txt and build the index from the SemanticDB files"
  run := do
    let c ← Session.currentContext
    match c.format, c.classpath with
    | none, _ => throw .formatNotSet
    | _, none => throw .classpathNotSet
    | some format, some classpath =>
      let output ← Session.inWorld (buildIndex services c format classpath)
      Session.modifyContext fun c ↦ { c with index := some output }

/-- The built-in phases in order. -/
def builtin (services : Services ε) : List (Phase ε) :=
  [resolveFormat, compile services, aggregate services, index services]

end Phase

end WorkspaceIndex
