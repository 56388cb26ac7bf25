import WorkspaceIndex.Compiler.Command
import WorkspaceIndex.Indexer
import WorkspaceIndex.PluginFetch
/-!
# The programs of a manifest as collaborators

A manifest names the programs that fetch, compile and index. Their common state is the machine that
starts them.
-/

namespace WorkspaceIndex

namespace ToolsConfig

/-- The programs that compile. -/
def compilers (tools : ToolsConfig) : CompilerPrograms := ⟨tools.scalac, tools.javac⟩

/-- The collaborators behind the programs of a manifest. -/
def services (tools : ToolsConfig) (host : HostGraph) : Services Machine where
  host := host
  fetch := PluginFetch.fetch tools.coursier
  compile := tools.compilers.compile
  index := Indexer.index tools.indexer

end ToolsConfig

/-- The directory for semantic output where none is asked for. -/
def defaultDestination (root : Path) : Path := (root.join ⟨"out"⟩).join ⟨"semdex"⟩

/-- The directory for semantic output: the one asked for in its absolute form, or the default. -/
def destinationFor (workingDirectory root : Path) (asked : Option Path) : Except Failure Path :=
  match asked with
  | none => .ok (defaultDestination root)
  | some path =>
    match path.absolute? workingDirectory with
    | some absolute => .ok absolute
    | none => .error (.refused (.resolveDestination path) .emptyPath)

end WorkspaceIndex
