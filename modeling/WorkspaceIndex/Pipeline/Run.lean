import WorkspaceIndex.Pipeline.Phase
/-!
# Pipelines

A pipeline runs the built-in phases and after them any that were added. Hooks wrap every phase: all
that come before it, the phase, and all that come after it, hooks in the order in which they were
registered. The first failure ends the run.

`schedule` is the same as a flat list of named steps, which says in one place what a run consists
of and in which order.
-/

namespace WorkspaceIndex

/-- A plugin of a pipeline, with a step before and after every phase. -/
structure Hook (ε : Type) where
  name : String
  before : String → SessionM ε Unit := fun _ ↦ pure ()
  after : String → SessionM ε Unit := fun _ ↦ pure ()

/-- A pipeline by what was added to it. -/
structure Pipeline (ε : Type) where
  phases : List (Phase ε) := []
  hooks : List (Hook ε) := []

/-- The place of a step in a run. -/
inductive Moment where
  | before (hook phase : String)
  | phase (name : String)
  | after (hook phase : String)
  deriving DecidableEq, Repr

/-- Runs steps one after the other up to the first that fails. -/
def SessionM.all {ε : Type} : List (SessionM ε Unit) → SessionM ε Unit
  | [] => pure ()
  | step :: rest => do
    step
    SessionM.all rest

namespace Pipeline

variable {ε : Type}

/-- Every phase of a pipeline in order. -/
def allPhases (p : Pipeline ε) (services : Services ε) : List (Phase ε) :=
  Phase.builtin services ++ p.phases

/-- Runs one phase between its hooks. -/
def runPhase (p : Pipeline ε) (phase : Phase ε) : SessionM ε Unit := do
  SessionM.all (p.hooks.map fun hook ↦ hook.before phase.name)
  phase.run
  SessionM.all (p.hooks.map fun hook ↦ hook.after phase.name)

/-- Runs phases in order. -/
def runPhases (p : Pipeline ε) : List (Phase ε) → SessionM ε Unit
  | [] => pure ()
  | phase :: rest => do
    p.runPhase phase
    p.runPhases rest

/-- The session in which a run starts. -/
def start (options : GenerateOptions) (world : World ε) : Session ε :=
  { context := { options }, world }

/-- Runs a pipeline. The result comes with the session as the run left it. -/
def run (p : Pipeline ε) (services : Services ε) (options : GenerateOptions) (world : World ε) :
    EStateM.Result Failure (Session ε) Unit :=
  p.runPhases (p.allPhases services) (start options world)

/-! ### The schedule -/

/-- The steps of a phase between its hooks, each with its place. -/
def phaseSchedule (p : Pipeline ε) (phase : Phase ε) : List (Moment × SessionM ε Unit) :=
  (p.hooks.map fun hook ↦ (.before hook.name phase.name, hook.before phase.name)) ++
    [(.phase phase.name, phase.run)] ++
    p.hooks.map fun hook ↦ (.after hook.name phase.name, hook.after phase.name)

/-- All steps of a pipeline in order. -/
def schedule (p : Pipeline ε) (services : Services ε) : List (Moment × SessionM ε Unit) :=
  (p.allPhases services).flatMap p.phaseSchedule

end Pipeline

/-! ### Snapshots -/

namespace Hook

variable {ε : Type}

/-- Writes a snapshot to a directory, if there is a form for it. -/
def writeSnapshot (directory : Path) (snapshot : Snapshot) : Run ε Unit := do
  Run.makeDirectories (.createDirectory directory) directory
  match snapshot.text? with
  | some text => Run.overwriteFile (snapshot.file directory) text
  | none => throw .pathNotUtf8

/-- Takes a snapshot after a phase, and writes it if there is a directory for it. -/
def takeSnapshot (directory : Option Path) (phase : String) : SessionM ε Unit := do
  let snapshot := Snapshot.ofContext phase (← get).context
  modify fun s ↦ { s with snapshots := s.snapshots ++ [snapshot] }
  match directory with
  | some directory => Session.inWorld (writeSnapshot directory snapshot)
  | none => pure ()

/-- The hook that takes a snapshot after every phase. -/
def snapshots (directory : Option Path) : Hook ε where
  name := "snapshot"
  after := takeSnapshot directory

end Hook

end WorkspaceIndex
