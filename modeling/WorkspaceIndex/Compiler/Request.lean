import WorkspaceIndex.HostGraph
/-!
# Compile requests

All that a compiler needs to know to compile one module for its semantic information, and the two
entries through which a toolchain is called.
-/

namespace WorkspaceIndex

/-- An order to compile one module. -/
structure CompileRequest where
  module : String
  variant : Variant
  sources : List Path
  /-- The final options of the Scala compiler. -/
  options : List String
  /-- The final options of the Java compiler. -/
  javacOptions : List String
  classpath : List Path
  /-- The jars of the compiler plugin. -/
  pluginClasspath : List Path
  /-- The directory for semantic output, shared by all modules. -/
  destination : Path
  /-- The directory in which the compiler runs, and which its paths are relative to. -/
  workspaceRoot : Path
  deriving DecidableEq, Repr, Inhabited

/-- The entry of a toolchain that a module goes through. -/
inductive CompilerEntry where
  /-- For Scala modules, which may contain Java sources. -/
  | mixed
  /-- For Java modules. -/
  | java
  deriving DecidableEq, Repr

/-- The entry for a variant. -/
def CompilerEntry.ofVariant : Variant → CompilerEntry
  | .scala3 | .scala2 => .mixed
  | .java => .java

/-- The name of an entry. -/
def CompilerEntry.name : CompilerEntry → String
  | .mixed => "compile_mixed"
  | .java => "compile_java"

/-- A call of a toolchain. -/
structure CompileCall where
  entry : CompilerEntry
  request : CompileRequest
  prerequisites : Option PrerequisiteOutput
  deriving DecidableEq, Repr

end WorkspaceIndex
