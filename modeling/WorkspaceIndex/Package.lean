import WorkspaceIndex.Path
import WorkspaceIndex.Version
/-!
# Packages and tools

The identity of a published package, a classpath entry that may be attributed to one, and the
fixed identities of the tool that signs an index and of the compiler plugins it fetches.
-/

namespace WorkspaceIndex

/-- Coordinates of a published package. -/
structure PackageIdentity where
  group : String
  artifact : String
  version : String
  deriving DecidableEq, Repr, Inhabited

/-- The coordinates with colons between them. -/
def PackageIdentity.text (p : PackageIdentity) : String :=
  s!"{p.group}:{p.artifact}:{p.version}"

/-- A dependency path, attributed to a package where its metadata says so. -/
structure ClasspathEntry where
  path : Path
  package : Option PackageIdentity
  deriving DecidableEq, Repr, Inhabited

/-- Name and version of the tool that an index says it was made by. -/
structure ToolIdentity where
  name : String
  version : String
  deriving DecidableEq, Repr, Inhabited

/-- The version of this program. -/
def programVersion : String := "0.3.0"

/-- The identity embedded in every index. Readers of indexes match on the name, so it is not the
name of this program. -/
def ToolIdentity.current : ToolIdentity := ⟨"scip-java", programVersion⟩

/-- A compiler plugin that can be fetched. -/
inductive Plugin where
  /-- The plugin of one exact Scala 2 compiler version. -/
  | scalac (version : Version)
  /-- The plugin of every Java compiler. -/
  | javac
  deriving DecidableEq, Repr, Inhabited

/-- The coordinates under which a plugin is published. -/
def Plugin.coordinate : Plugin → String
  | .scalac version => s!"org.scalameta:semanticdb-scalac_{version}:4.8.15"
  | .javac => "com.sourcegraph:semanticdb-javac:0.9.9"

end WorkspaceIndex
