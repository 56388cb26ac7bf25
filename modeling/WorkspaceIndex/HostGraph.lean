import WorkspaceIndex.Manifest.Read
/-!
# Host graphs

The build as the pipeline sees it: a workspace root and modules in build order, every path resolved
against that root. A module that is compiled against others carries their outputs as a token, which
is handed to the compiler as it is.
-/

namespace WorkspaceIndex

/-- The compiled outputs of the modules that a module is compiled against. -/
structure PrerequisiteOutput where
  outputs : List Path
  deriving DecidableEq, Repr, Inhabited

/-- A module of the build. -/
structure Module where
  name : String
  variant : Variant
  scalaVersion : Option Version := none
  sources : List Path := []
  /-- The compile classpath, with the first spelling of every path. -/
  classpath : List Path := []
  options : List String := []
  javacOptions : List String := []
  /-- Resolved dependency artifacts. -/
  dependencies : List Path := []
  prerequisites : Option PrerequisiteOutput := none
  deriving DecidableEq, Repr, Inhabited

/-- A module with another classpath, of which the first spelling of every path is kept. -/
def Module.withClasspath (m : Module) (classpath : List Path) : Module :=
  { m with classpath := Path.dedup classpath }

/-- A build. -/
structure HostGraph where
  root : Path
  buildTool : String := "semdex"
  /-- The version of the build tool, if it is known. -/
  hostVersion : Option Version := none
  /-- The major version of the Java runtime, if it is known. -/
  runtimeVersion : Option UInt32 := none
  /-- The modules in build order. -/
  modules : List Module := []
  deriving DecidableEq, Repr, Inhabited

namespace Manifest

/-- Where the host build puts a compiled module: the declared output, or a directory under `out`
that is named after the module. -/
def moduleOutput (m : Manifest) (root : Path) (name : String) : Path :=
  match (m.module? name).bind ModuleConfig.output with
  | some output => root.join output
  | none => ((root.join ⟨"out"⟩).join ⟨name⟩).join ⟨"classes"⟩

/-- The outputs of the modules that a declaration names, if it names any. -/
def prerequisiteOutput? (m : Manifest) (root : Path) (config : ModuleConfig) :
    Option PrerequisiteOutput :=
  if config.prerequisites.isEmpty then none
  else some ⟨config.prerequisites.map (m.moduleOutput root)⟩

/-- The module that a declaration describes. -/
def toModule (m : Manifest) (root : Path) (name : String) (config : ModuleConfig) : Module where
  name := name
  variant := config.variant
  scalaVersion := config.scalaVersion
  sources := config.sources.map root.join
  classpath := Path.dedup (config.classpath.map root.join)
  options := config.options
  javacOptions := config.javacOptions
  dependencies := config.dependencies.map root.join
  prerequisites := m.prerequisiteOutput? root config

/-- The build that a manifest describes, with its modules in the order of declaration. -/
def toGraph (m : Manifest) (root : Path) (runtimeVersion : Option UInt32) : HostGraph where
  root := root
  buildTool := m.workspace.buildTool
  hostVersion := m.workspace.hostVersion
  runtimeVersion := runtimeVersion
  modules := m.modules.map fun (name, config) ↦ m.toModule root name config

end Manifest

end WorkspaceIndex
