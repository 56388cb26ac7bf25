import WorkspaceIndex.Pipeline.Run
import WorkspaceIndex.Report.Item
/-!
# The explanation of a run

What a run would do, without compiling anything: its phases, and the plan of every module. Plugins
are fetched, so that the plans show them.
-/

namespace WorkspaceIndex

/-- The plan of a module in short. -/
inductive ModulePlan where
  /-- `prerequisites` is the number of outputs of other modules that the compiler is given. -/
  | compile (name : String) (variant : Variant) (sources : Nat)
      (options javacOptions : List String) (classpath : Nat) (plugins : List Path)
      (prerequisites : Nat)
  | skip (name reason : String)
  deriving DecidableEq, Repr

/-- A phase by its name and what it does. -/
structure PhaseInfo where
  name : String
  description : String
  deriving DecidableEq, Repr

/-- The name and the description of a phase. -/
def Phase.info {ε : Type} (phase : Phase ε) : PhaseInfo := ⟨phase.name, phase.description⟩

/-- The result of an explanation. -/
structure ExplainReport where
  path : Path
  root : Path
  buildTool : String
  hostVersion : Option Version
  runtimeVersion : Option UInt32
  output : Path
  /-- The format of the index, unless its name asks for none. -/
  format : Option OutputFormat
  destination : Path
  phases : List PhaseInfo
  modules : List ModulePlan
  deriving DecidableEq, Repr

/-- The number of outputs of other modules that the compiler of a module is given. -/
def Module.prerequisiteCount (m : Module) : Nat :=
  match m.prerequisites with
  | some prerequisites => prerequisites.outputs.length
  | none => 0

/-- The plan of a module in short. -/
def ModulePlan.ofPlan (m : Module) : Plan → ModulePlan
  | .compile r => .compile r.module r.variant r.sources.length r.options r.javacOptions
      r.classpath.length r.pluginClasspath m.prerequisiteCount
  | .skip module reason => .skip module reason

namespace ExplainReport

variable {ε : Type}

/-- Plans modules in order and returns the plans in short. -/
def planModules (services : Services ε) (destination : Path) :
    List Module → Run ε (List ModulePlan)
  | [] => pure []
  | m :: rest => do
    let plan ← Plan.build services destination m
    let plans ← planModules services destination rest
    return ModulePlan.ofPlan m plan :: plans

/-- The format that the name of an index asks for, if it is known. -/
def knownFormat? (output : Path) : Option OutputFormat :=
  let format := OutputFormat.ofFileName output.text
  if format.isKnown then some format else none

/-- Explains a run. -/
def ofServices (services : Services ε) (path output destination : Path) :
    Run ε ExplainReport := do
  let modules ← planModules services destination services.host.modules
  let host := services.host
  let pipeline : Pipeline ε := {}
  return {
    path := path
    root := host.root
    buildTool := host.buildTool
    hostVersion := host.hostVersion
    runtimeVersion := host.runtimeVersion
    output := output
    format := knownFormat? output
    destination := destination
    phases := (pipeline.allPhases services).map Phase.info
    modules := modules }

/-! ### Showing -/

open Report

/-- A list of options as the lines of a plan show it, if there are any. -/
def optionItems (key : String) (options : List String) : List Item :=
  if options.isEmpty then [] else [.indentedKeyValue key (" ".intercalate options)]

/-- The items about a numbered plan. -/
def planItems (number : Nat) : ModulePlan → List Item
  | .compile name variant sources options javacOptions classpath plugins prerequisites =>
    [.numbered number s!"{name} ({variant})",
      .indentedKeyValue "  sources" (toString sources),
      .indentedKeyValue "  classpath" s!"{classpath} entries, {prerequisites} upstream outputs"] ++
      optionItems "  scalac" options ++ optionItems "  javac" javacOptions ++
      plugins.map fun plugin ↦ .indentedKeyValue "  plugin" plugin.text
  | .skip name reason => [.numbered number s!"{name} (skipped: {reason})"]

/-- The item about the format of the index. -/
def formatItem (output : Path) : Option OutputFormat → Item
  | some format => .indentedKeyValue "Format" format.name
  | none =>
    let expected := s!"expected one of: {OutputFormat.supportedList}"
    .warning s!"'{output}' has no supported extension ({expected})"

/-- The text of a version that may be missing. -/
def versionText : Option Version → String
  | some version => version.text
  | none => "(not declared)"

/-- The text of a release that may be missing. -/
def releaseText : Option UInt32 → String
  | some release => toString release.toNat
  | none => "(unknown)"

/-- The items of a report. -/
def items (r : ExplainReport) : List Item :=
  [.title "semdex Pipeline Explanation", .blank,
    .keyValue "Input" r.path.text,
    .indentedKeyValue "Root" r.root.text,
    .indentedKeyValue "Build tool" r.buildTool,
    .indentedKeyValue "Host version" (versionText r.hostVersion),
    .indentedKeyValue "Java runtime" (releaseText r.runtimeVersion),
    .blank,
    .keyValue "Output" r.output.text,
    formatItem r.output r.format,
    .indentedKeyValue "Destination" r.destination.text,
    .blank,
    .heading "Pipeline Phases"] ++
    ((enumerate r.phases).map fun (number, phase) ↦
      .numbered number s!"{phase.name} - {phase.description}") ++
    [.blank, .heading "Module Plans"] ++
    (enumerate r.modules).flatMap fun (number, plan) ↦ planItems number plan

end ExplainReport

end WorkspaceIndex
