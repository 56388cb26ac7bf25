import WorkspaceIndex.FileStore.Basic
import WorkspaceIndex.Manifest.Validation
import WorkspaceIndex.Toml.Document
import WorkspaceIndex.Toml.Sound
/-!
# Reading manifests

From a text to a manifest that passed validation, and from a manifest file to a workspace with an
absolute root. Where a document does not fit the schema, that it is not sound counts for more than
the place at which it does not fit.
-/

namespace WorkspaceIndex

/-- The manifest that a text describes, checked. -/
def Manifest.parse (source : String) : Except ManifestError Manifest :=
  match Toml.parse? source with
  | none => .error .invalidDocument
  | some document =>
    match Schema.readManifest document with
    | .error misfit =>
      if document.isSound then .error (.misfit misfit.problem misfit.span)
      else .error .invalidDocument
    | .ok manifest =>
      match manifest.validate source with
      | .error error => .error error
      | .ok () => .ok manifest

/-- The manifest in a file. -/
def Manifest.load (store : FileStore) (path : Path) : Except ManifestError Manifest :=
  match store.readText path with
  | .error cause => .error (.unreadable path cause)
  | .ok source => Manifest.parse source

/-- A manifest with the file it was read from. -/
structure ManifestFile where
  path : Path
  /-- The directory of the file, as an absolute path. -/
  directory : Path
  manifest : Manifest
  deriving DecidableEq, Repr

namespace ManifestFile

/-- Reads a manifest file. The file has to be readable before its place is looked at. -/
def read (store : FileStore) (path : Path) : Except ManifestError ManifestFile :=
  match store.readText path with
  | .error cause => .error (.unreadable path cause)
  | .ok source =>
    match path.absolute? store.workingPath with
    | none => .error (.unreadable path .emptyPath)
    | some absolute =>
      match Manifest.parse source with
      | .error error => .error error
      | .ok manifest => .ok ⟨path, (absolute.parent?).getD ⟨""⟩, manifest⟩

/-- The workspace root: the one the manifest names, seen from its directory, or that directory. -/
def root (file : ManifestFile) : Path :=
  match file.manifest.workspace.root with
  | some root => file.directory.join root
  | none => file.directory

end ManifestFile

end WorkspaceIndex
