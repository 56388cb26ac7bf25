import WorkspaceIndex.Plan
import WorkspaceIndex.Report.Item
/-!
# The check of a manifest

What can be said about a manifest that passed validation without running anything: findings that
deserve a warning, findings that are only told, and a summary of the modules.
-/

namespace WorkspaceIndex

/-- Something worth telling about a manifest. -/
inductive Finding where
  | noModules
  | noSources (module : String)
  | unusedScalaVersion (module : String)
  /-- The host is too old for the Java modules there are. -/
  | javaModulesSkipped (hostVersion : Version)
  | javaVersionDetected (program : String)
  deriving DecidableEq, Repr

/-- The sentence for a finding. -/
def Finding.message : Finding → String
  | .noModules => "no modules declared; the index will be empty"
  | .noSources module => s!"module '{module}' has no sources and will not be compiled"
  | .unusedScalaVersion module =>
    s!"module '{module}' sets scala_version, which only the scala2 variant uses"
  | .javaModulesSkipped version =>
    s!"host_version {version} is older than {Plan.minimumJavaHost}; java modules will be skipped"
  | .javaVersionDetected program =>
    s!"java_version not set; it will be detected with '{program} -version'"

/-- A declared module in short. -/
structure ModuleSummary where
  name : String
  variant : Variant
  sources : Nat
  dependencies : Nat
  prerequisites : List String
  deriving DecidableEq, Repr

/-- The result of a check. -/
structure CheckReport where
  path : Path
  root : Path
  warnings : List Finding
  infos : List Finding
  modules : List ModuleSummary
  deriving DecidableEq, Repr

namespace CheckReport

/-- The warning that there are no modules, if so. -/
def emptinessWarnings (m : Manifest) : List Finding :=
  if m.modules.isEmpty then [.noModules] else []

/-- The modules without sources. -/
def sourceWarnings (m : Manifest) : List Finding :=
  (m.modules.filter fun entry ↦ entry.2.sources.isEmpty).map fun entry ↦ .noSources entry.1

/-- The warning that Java modules will be skipped, if so. -/
def hostWarnings (m : Manifest) : List Finding :=
  match m.hasJavaModules, m.workspace.hostVersion with
  | true, some version =>
    if Plan.isTooOldForJava version then [.javaModulesSkipped version] else []
  | _, _ => []

/-- The modules with a compiler version that nobody reads. -/
def versionInfos (m : Manifest) : List Finding :=
  (m.modules.filter fun entry ↦
    decide (entry.2.variant ≠ .scala2) && entry.2.scalaVersion.isSome).map fun entry ↦
      .unusedScalaVersion entry.1

/-- The note that the version of the Java runtime will be asked for, if so. -/
def runtimeInfos (m : Manifest) : List Finding :=
  if m.hasJavaModules && m.workspace.javaVersion.isNone then
    [.javaVersionDetected m.tools.java]
  else []

/-- A module in short. -/
def summary (entry : String × ModuleConfig) : ModuleSummary :=
  ⟨entry.1, entry.2.variant, entry.2.sources.length, entry.2.dependencies.length,
    entry.2.prerequisites⟩

/-- Checks a manifest. -/
def ofFile (file : ManifestFile) : CheckReport where
  path := file.path
  root := file.root
  warnings := emptinessWarnings file.manifest ++ sourceWarnings file.manifest ++
    hostWarnings file.manifest
  infos := versionInfos file.manifest ++ runtimeInfos file.manifest
  modules := file.manifest.modules.map summary

/-! ### Showing -/

/-- The line about a module. -/
def summaryText (s : ModuleSummary) : String :=
  let after := if s.prerequisites.isEmpty then ""
    else ", after " ++ ", ".intercalate s.prerequisites
  s!"{s.name} ({s.variant}): {s.sources} sources, {s.dependencies} dependencies{after}"

/-- A number of modules in words. -/
def countText (count : Nat) : String :=
  s!"  {count} module" ++ (if count = 1 then "" else "s")

open Report in
/-- The items of a report. -/
def items (r : CheckReport) : List Item :=
  r.warnings.map (fun finding ↦ .warning finding.message) ++
    r.infos.map (fun finding ↦ .text s!"info: {finding.message}") ++
    (if r.warnings.isEmpty && r.infos.isEmpty then [] else [.blank]) ++
    [.text s!"✓ {r.path} is valid", .blank, .indentedKeyValue "Root" r.root.text,
      .heading (countText r.modules.length)] ++
    r.modules.map fun s ↦ .bullet (summaryText s)

end CheckReport

end WorkspaceIndex
