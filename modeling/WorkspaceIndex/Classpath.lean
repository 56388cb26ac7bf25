import WorkspaceIndex.HostGraph
import WorkspaceIndex.Jar
/-!
# The classpath of a build

The dependencies of all modules in one list, each with the identity of its package. Duplicates are
kept unless the list is asked to be without them, and then the first spelling of each path stays.
-/

namespace WorkspaceIndex.Classpath

/-- The dependencies of all modules, module after module. -/
def dependencies (modules : List Module) : List Path := modules.flatMap Module.dependencies

/-- The paths of the classpath of a build. -/
def paths (deduplicate : Bool) (modules : List Module) : List Path :=
  if deduplicate then Path.dedup (dependencies modules) else dependencies modules

/-- A path with the identity of its package. -/
def entry (files : FileStore) (path : Path) : ClasspathEntry := ⟨path, Jar.identity? files path⟩

/-- The classpath of a build. -/
def aggregate (files : FileStore) (deduplicate : Bool) (modules : List Module) :
    List ClasspathEntry :=
  (paths deduplicate modules).map (entry files)

end WorkspaceIndex.Classpath
