import WorkspaceIndex.Pipeline.Run
import WorkspaceIndex.Report.Item
/-!
# The report of a run

A whole run, with or without snapshots on the way, and the summary of what it left in the context.
-/

namespace WorkspaceIndex

/-- The summary of a run. -/
structure GenerateReport where
  index : Path
  format : Option OutputFormat
  language : SourceLanguage
  /-- The modules that were compiled, in order. -/
  compiled : List String
  /-- The modules that were skipped, with their reasons. -/
  skipped : List (String × String)
  /-- The length of the classpath, modules that were skipped included. -/
  classpathEntries : Nat
  /-- The number of entries that are attributed to a package. -/
  packages : Nat
  warnings : Nat
  snapshotDirectory : Option Path
  deriving DecidableEq, Repr

namespace GenerateReport

/-- The summary of a context. -/
def ofContext (c : Context) (snapshotDirectory : Option Path) : GenerateReport where
  index := c.index.getD c.options.output
  format := c.format
  language := c.language
  compiled := c.compiled.map CompiledModule.name
  skipped := c.skipped
  classpathEntries := (c.classpath.getD []).length
  packages := ((c.classpath.getD []).filter fun entry ↦ entry.package.isSome).length
  warnings := c.warningCount
  snapshotDirectory := snapshotDirectory

/-- The directory for snapshots of a run, if they are asked for. -/
def snapshotDirectoryFor (visualize : Bool) (destination : Path) : Option Path :=
  if visualize then some (destination.join ⟨".semdex/debug"⟩) else none

/-- The pipeline of a run, with snapshots if there is a directory for them. -/
def pipeline {ε : Type} (snapshotDirectory : Option Path) : Pipeline ε where
  hooks := match snapshotDirectory with
    | some directory => [Hook.snapshots (some directory)]
    | none => []

/-- Makes a whole run. The result comes with the world as the run left it. -/
def generate {ε : Type} (services : Services ε) (options : GenerateOptions) (visualize : Bool)
    (world : World ε) : Except Failure GenerateReport × World ε :=
  let directory := snapshotDirectoryFor visualize options.destination
  match (pipeline directory).run services options world with
  | .ok () s => (.ok (ofContext s.context directory), s.world)
  | .error failure s => (.error failure, s.world)

/-! ### Showing -/

open Report

/-- The items of a report. The warnings come first and the index last. -/
def items (r : GenerateReport) : List Item :=
  let including := if r.skipped.isEmpty then "" else ", including skipped modules"
  r.skipped.map (fun (module, reason) ↦ .warning s!"skipped module '{module}': {reason}") ++
    [.heading s!"Compiled ({r.compiled.length})"] ++
    r.compiled.map .bullet ++
    [.indentedKeyValue "Language" r.language.name,
      .indentedKeyValue "Format" ((r.format.map OutputFormat.name).getD ""),
      .indentedKeyValue "Classpath"
        s!"{r.classpathEntries} entries, {r.packages} packages{including}"] ++
    (if r.warnings = 0 then [] else [.indentedKeyValue "Warnings" (toString r.warnings)]) ++
    (r.snapshotDirectory.map fun path ↦ .indentedKeyValue "Snapshots" path.text).toList ++
    [.blank, .text r.index.text]

end GenerateReport

end WorkspaceIndex
