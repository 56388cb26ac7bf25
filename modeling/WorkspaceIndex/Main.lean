import WorkspaceIndex.CommandLine.Run
/-!
# The executable

Reads the manifest that the arguments name, runs the program on it, writes the files the run made,
and shows the report. All decisions are in `CommandLine.run`; here are only the reading and the
writing. Dependency archives are not opened and no program can be started from here, so a run goes
as far as it does without them.
-/

namespace WorkspaceIndex.CommandLine

/-- The manifest that an order reads, if it reads one. -/
def Order.manifest? : Order → Option Path
  | .generate _ manifest _ _ _ => some manifest
  | .check manifest => some manifest
  | .explain _ manifest _ => some manifest
  | .completions _ => none

/-- The location of the directory with an absolute path. -/
def locationOf (directory : String) : Location :=
  (Path.components ⟨directory⟩).filterMap fun
    | .name text => some text
    | _ => none

/-- A location and those above it, the nearest to the root first. -/
def locationsTo (location : Location) : List Location :=
  (List.range location.length).map fun n ↦ location.take (n + 1)

/-- A store with a directory and those above it. -/
def storeAt (directory : Location) : FileStore :=
  ⟨(locationsTo directory).map fun location ↦ (location, .directory), directory⟩

/-- A store with one more file and the directories above it. -/
def addFile (store : FileStore) (path : Path) (text : String) : FileStore :=
  let store := match path.parent? with
    | some above => (store.makeDirectories above).2
    | none => store
  (store.writeText path text).toOption.getD store

/-- The store that holds what the arguments name. -/
def loadStore (directory : String) (arguments : List String) : IO FileStore := do
  let store := storeAt (locationOf directory)
  match (parse arguments).toOption.bind Order.manifest? with
  | none => return store
  | some path =>
    try
      let text ← IO.FS.readFile path.text
      return addFile store path text
    catch _ => return store

/-- Writes what a run has added to the store or changed in it. -/
def saveChanges (before after : FileStore) : IO Unit := do
  for (location, node) in after.nodes do
    if before.node? location ≠ some node then
      match node with
      | .directory => IO.FS.createDirAll (FileStore.pathOf location).text
      | .file content => IO.FS.writeFile (FileStore.pathOf location).text content.lenientText
      | .archive _ => pure ()

end WorkspaceIndex.CommandLine

open WorkspaceIndex CommandLine in
/-- Runs the program with the arguments it was started with. -/
def main (arguments : List String) : IO UInt32 := do
  let directory := (← IO.currentDir).toString
  let files ← loadStore directory arguments
  let (ending, after) := CommandLine.run ⟨files, { programs := [] }⟩ arguments
  saveChanges files after.files
  IO.print ending.output
  IO.eprint ending.warningText
  match ending.message? with
  | some message => IO.eprintln s!"error: {message}"
  | none => pure ()
  return ending.status.toUInt32
