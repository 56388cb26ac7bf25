import WorkspaceIndex.ExternalTools
import WorkspaceIndex.HostGraph
import WorkspaceIndex.Proofs.FileStore.Walk
import WorkspaceIndex.Proofs.Path.Dedup
/-!
# The root of a workspace

The root comes from the absolute form of the path of the manifest, and every path of the build is
seen from it. The reading of a manifest has a fallback for a file without a directory above it, the
empty path, from which nothing would be absolute. It is not taken: where the absolute form has no
directory above it, the path has no visible piece, and what it names is a directory and cannot be
read.
-/

namespace WorkspaceIndex

/-! ### Places that are absolute -/

namespace ManifestFile

variable {store : FileStore} {path : Path} {file : ManifestFile}

/-- **The directory of a manifest that was read is absolute**, whatever the path it was read
from. -/
theorem isAbsolute_directory (h : read store path = .ok file) :
    file.directory.isAbsolute = true := by
  have hworking := store.isAbsolute_workingPath
  rw [read] at h
  split at h
  · cases h
  · rename_i source hread
    split at h
    · cases h
    · rename_i absolute habsolute
      split at h
      · cases h
      · cases h
        rcases hparent : absolute.parent? with - | directory
        · -- a path without a directory above it is none of a file
          obtain ⟨piece, hpiece, hvisible⟩ := FileStore.exists_isVisible_of_readText hread
          exact absurd hvisible
            (Path.not_isVisible_of_absolute? hworking habsolute hparent piece hpiece)
        · exact Path.isAbsolute_of_parent? (Path.isAbsolute_of_absolute? hworking habsolute) hparent

theorem isAbsolute_root (h : read store path = .ok file) : file.root.isAbsolute = true := by
  rw [root]
  split
  · exact Path.isAbsolute_join (isAbsolute_directory h) _
  · exact isAbsolute_directory h

end ManifestFile

/-- A directory for semantic output is absolute, be it asked for or the default. -/
theorem isAbsolute_of_destinationFor {workingDirectory root destination : Path}
    {asked : Option Path} (hworking : workingDirectory.isAbsolute = true)
    (hroot : root.isAbsolute = true)
    (h : destinationFor workingDirectory root asked = .ok destination) :
    destination.isAbsolute = true := by
  rcases asked with - | path
  · cases h
    exact Path.isAbsolute_join (Path.isAbsolute_join hroot _) _
  · rw [destinationFor] at h
    split at h
    · rename_i absolute habsolute
      cases h
      exact Path.isAbsolute_of_absolute? hworking habsolute
    · cases h

/-! ### Builds -/

/-- A module all of whose paths start at the root. -/
structure Module.Anchored (m : Module) : Prop where
  sources : ∀ source ∈ m.sources, source.Anchored
  classpath : ∀ entry ∈ m.classpath, entry.Anchored
  outputs : ∀ token, m.prerequisites = some token → ∀ output ∈ token.outputs, output.Anchored

/-- A build all of whose paths start at the root. -/
structure HostGraph.Anchored (host : HostGraph) : Prop where
  root : host.root.Anchored
  modules : ∀ m ∈ host.modules, m.Anchored

namespace Manifest

variable {m : Manifest} {root : Path}

theorem anchored_join (hroot : root.isAbsolute = true) (p : Path) : (root.join p).Anchored :=
  Path.anchored_of_isAbsolute (Path.isAbsolute_join hroot p)

theorem anchored_moduleOutput (hroot : root.isAbsolute = true) (name : String) :
    (m.moduleOutput root name).Anchored := by
  rw [moduleOutput]
  split
  · exact anchored_join hroot _
  · exact Path.anchored_of_isAbsolute
      (Path.isAbsolute_join (Path.isAbsolute_join (Path.isAbsolute_join hroot _) _) _)

theorem anchored_toModule (hroot : root.isAbsolute = true) (name : String) (config : ModuleConfig) :
    (m.toModule root name config).Anchored where
  sources := by
    intro source hsource
    obtain ⟨path, -, rfl⟩ := List.mem_map.1 hsource
    exact anchored_join hroot path
  classpath := by
    intro entry hentry
    obtain ⟨path, -, rfl⟩ := List.mem_map.1 (Path.mem_of_mem_dedup hentry)
    exact anchored_join hroot path
  outputs := by
    intro token htoken output houtput
    change m.prerequisiteOutput? root config = some token at htoken
    rw [prerequisiteOutput?] at htoken
    split at htoken
    · cases htoken
    · cases htoken
      obtain ⟨prerequisite, -, rfl⟩ := List.mem_map.1 houtput
      exact anchored_moduleOutput hroot prerequisite

/-- **A build under an absolute root has absolute paths only.** -/
theorem anchored_toGraph (m : Manifest) (hroot : root.isAbsolute = true)
    (runtimeVersion : Option UInt32) : (m.toGraph root runtimeVersion).Anchored where
  root := Path.anchored_of_isAbsolute hroot
  modules := by
    intro built hbuilt
    obtain ⟨entry, -, rfl⟩ := List.mem_map.1 hbuilt
    exact anchored_toModule hroot entry.1 entry.2

end Manifest

end WorkspaceIndex
