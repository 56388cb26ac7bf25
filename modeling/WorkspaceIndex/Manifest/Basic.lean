import WorkspaceIndex.Package
import WorkspaceIndex.Variant
/-!
# Manifests

What a manifest declares: the workspace, the external programs to use, and the modules in build
order. All fields but the variant of a module have a default, which stands where the document says
nothing.
-/

namespace WorkspaceIndex

/-- What a manifest says about the workspace as a whole. -/
structure WorkspaceConfig where
  /-- The workspace root, seen from the directory of the manifest. -/
  root : Option Path := none
  /-- The host build tool by name, as the Java plugin is told. -/
  buildTool : String := "semdex"
  /-- The version of the host build tool, on which Java modules depend. -/
  hostVersion : Option Version := none
  /-- The major version of the Java runtime; detected where it is not given. -/
  javaVersion : Option UInt32 := none
  deriving DecidableEq, Repr, Inhabited

/-- The external programs of a run. -/
structure ToolsConfig where
  scalac : String := "scalac"
  javac : String := "javac"
  java : String := "java"
  /-- The program that fetches compiler plugins. -/
  coursier : String := "cs"
  indexer : String := "scip-java"
  deriving DecidableEq, Repr, Inhabited

/-- A module as the manifest declares it. Its paths are seen from the workspace root. -/
structure ModuleConfig where
  variant : Variant
  /-- The version of the Scala compiler; Scala 2 modules need one. -/
  scalaVersion : Option Version := none
  sources : List Path := []
  classpath : List Path := []
  /-- Options of the Scala compiler. -/
  options : List String := []
  javacOptions : List String := []
  /-- Resolved dependency artifacts, to be attributed to packages. -/
  dependencies : List Path := []
  /-- The modules whose outputs this one is compiled against. -/
  prerequisites : List String := []
  /-- Where the host build puts the compiled module. -/
  output : Option Path := none
  deriving DecidableEq, Repr, Inhabited

/-- A whole manifest. Module names are distinct, as they are the keys of one table. -/
structure Manifest where
  workspace : WorkspaceConfig := {}
  tools : ToolsConfig := {}
  /-- The modules with their names, in the order of declaration. -/
  modules : List (String × ModuleConfig) := []
  deriving DecidableEq, Repr, Inhabited

namespace Manifest

/-- The declaration of a module. -/
def module? (m : Manifest) (name : String) : Option ModuleConfig := m.modules.lookup name

/-- Whether a module is declared. -/
def hasModule (m : Manifest) (name : String) : Bool := (m.module? name).isSome

/-- Whether some module is compiled as Java. -/
def hasJavaModules (m : Manifest) : Bool := m.modules.any fun entry ↦ entry.2.variant = .java

end Manifest

end WorkspaceIndex
