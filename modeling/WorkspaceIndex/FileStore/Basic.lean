import WorkspaceIndex.OsError
import WorkspaceIndex.Path
import WorkspaceIndex.Text.Cut
import WorkspaceIndex.Text.Utf8
/-!
# The file store

Files and directories as a value. A *location* is the list of names from the root to an entry; the
store gives every location at most one node, and the root is always a directory. There are no
links, so `..` leads to the location without its last name.

A path is walked name by name from the root or from the working directory. Every name but the last
has to lead into a directory, and so does the last one where a separator or a `.` follows it. The
last name may be missing, which is how new entries come about. Names and paths have a greatest
length in bytes.
-/

namespace WorkspaceIndex

/-- The content of a file: a text, or bytes that may be none. -/
inductive Blob where
  | text (text : String)
  | bytes (bytes : List UInt8)
  deriving DecidableEq, Repr, Inhabited

namespace Blob

/-- The text of a content that is valid throughout. -/
def text? : Blob → Option String
  | .text s => some s
  | .bytes b => Text.Utf8.decode? b

/-- The text of any content, with a replacement character for what is none. -/
def lenientText : Blob → String
  | .text s => s
  | .bytes b => Text.Utf8.decodeLenient b

end Blob

/-- A named content inside an archive. -/
structure ArchiveEntry where
  name : String
  content : Blob
  deriving DecidableEq, Repr, Inhabited

/-- An entry put into an archive. It takes the place of an earlier one with its name. -/
def ArchiveEntry.insert (entry : ArchiveEntry) (entries : List ArchiveEntry) :
    List ArchiveEntry :=
  if entries.any fun e ↦ e.name = entry.name then
    entries.map fun e ↦ if e.name = entry.name then entry else e
  else entries ++ [entry]

/-- What stands at a location. -/
inductive FileNode where
  | directory
  | file (content : Blob)
  /-- A file that is an archive, as the list of its entries. -/
  | archive (entries : List ArchiveEntry)
  deriving DecidableEq, Repr, Inhabited

/-- The names from the root to an entry. -/
abbrev Location := List OsText

/-- Files and directories, and the directory from which relative paths are walked. -/
structure FileStore where
  nodes : List (Location × FileNode)
  workingDirectory : Location
  deriving Repr, Inhabited

/-- The archive with entries that were written in the given order. -/
def FileNode.ofEntries (entries : List ArchiveEntry) : FileNode :=
  .archive (entries.foldl (fun kept entry ↦ entry.insert kept) [])

namespace FileStore

/-- What stands at a location. -/
def node? (store : FileStore) (location : Location) : Option FileNode :=
  if location = [] then some .directory else store.nodes.lookup location

/-- The store with a node at a location, in the place of what stood there. -/
def put (store : FileStore) (location : Location) (node : FileNode) : FileStore :=
  if (store.nodes.lookup location).isSome then
    { store with
      nodes := store.nodes.map fun entry ↦ if entry.1 = location then (location, node) else entry }
  else { store with nodes := store.nodes ++ [(location, node)] }

/-- The absolute path of a location. -/
def pathOf (location : Location) : Path := ⟨.char '/' :: [.char '/'].intercalate location⟩

/-- The absolute path of the working directory. -/
def workingPath (store : FileStore) : Path := pathOf store.workingDirectory

/-! ### Walking a path -/

/-- The number of bytes that a name may have. -/
def maxNameLength : Nat := 255

/-- The number of bytes that a path may have. -/
def maxPathLength : Nat := 4095

/-- The step from a location that a piece of a path takes. A step is taken inside a directory. -/
def step (store : FileStore) (location : Location) (piece : OsText) : Except OsError Location :=
  match store.node? location with
  | none => .error .notFound
  | some .directory =>
    if piece.isEmpty || piece = [.char '.'] then .ok location
    else if piece = [.char '.', .char '.'] then .ok location.dropLast
    else if maxNameLength < piece.byteLength then .error .nameTooLong
    else .ok (location ++ [piece])
  | some _ => .error .notADirectory

/-- The location to which pieces of a path lead, one after the other. -/
def steps (store : FileStore) : Location → List OsText → Except OsError Location
  | location, [] => .ok location
  | location, piece :: rest =>
    match store.step location piece with
    | .ok next => steps store next rest
    | .error e => .error e

/-- The location to which some of the pieces of a path lead. -/
def walk (store : FileStore) (p : Path) (pieces : List OsText) : Except OsError Location :=
  if p.letters.isEmpty then .error .notFound
  else if p.letters.contains (.char '\x00') then .error .nulInPath
  else if maxPathLength < p.letters.byteLength then .error .nameTooLong
  else store.steps (if p.isAbsolute then [] else store.workingDirectory) pieces

/-- The pieces of a path without the empty ones at its end. -/
def namePieces (p : Path) : List OsText :=
  (p.pieces.reverse.dropWhile List.isEmpty).reverse

/-- The location of a path, whether or not anything stands there. -/
def locate (store : FileStore) (p : Path) : Except OsError Location := store.walk p p.pieces

/-- What stands at a path. -/
def resolve (store : FileStore) (p : Path) : Except OsError FileNode :=
  match store.locate p with
  | .error e => .error e
  | .ok location =>
    match store.node? location with
    | none => .error .notFound
    | some node => .ok node

/-- Whether a path leads to a directory. -/
def isDirectory (store : FileStore) (p : Path) : Bool :=
  match store.resolve p with
  | .ok .directory => true
  | _ => false

/-! ### Reading -/

/-- An archive without entries as a text: a mark, and eighteen bytes that count nothing. -/
def emptyArchiveText : String :=
  String.ofList (['P', 'K', '\x05', '\x06'] ++ List.replicate 18 '\x00')

/-- The text of the file at a path. An archive with entries holds bytes that are no text. -/
def readText (store : FileStore) (p : Path) : Except OsError String :=
  match store.resolve p with
  | .error e => .error e
  | .ok .directory => .error .isADirectory
  | .ok (.archive []) => .ok emptyArchiveText
  | .ok (.archive _) => .error .notUtf8
  | .ok (.file content) =>
    match content.text? with
    | some text => .ok text
    | none => .error .notUtf8

/-- The entries of the archive at a path, if one stands there. -/
def archive? (store : FileStore) (p : Path) : Option (List ArchiveEntry) :=
  match store.resolve p with
  | .ok (.archive entries) => some entries
  | _ => none

/-! ### Writing -/

/-- Writes a text to the file at a path, in the place of what it held. A path that ends in a
separator names no file, and its last name is not looked at. -/
def writeText (store : FileStore) (p : Path) (text : String) : Except OsError FileStore :=
  if p.letters.getLast? == some (.char '/') then
    (store.walk p ((namePieces p).dropLast ++ [[.char '.']])).bind fun _ ↦ .error .isADirectory
  else match store.locate p with
    | .error e => .error e
    | .ok location =>
      match store.node? location with
      | some .directory => .error .isADirectory
      | _ => .ok (store.put location (.file (.text text)))

/-- Makes one directory. The one above it has to be there already. -/
def makeDirectory (store : FileStore) (p : Path) : Except OsError FileStore :=
  match store.walk p (namePieces p) with
  | .error e => .error e
  | .ok location =>
    match store.node? location with
    | some _ => .error .fileExists
    | none => .ok (store.put location .directory)

/-- Makes a directory and those above it that are missing, nearest to the root first. A failure
keeps what was made before it. The fuel bounds the number of directories above. -/
def makeDirectoriesWithin : Nat → FileStore → Path → Except OsError Unit × FileStore
  | 0, store, _ => (.error .notFound, store)
  | fuel + 1, store, p =>
    if p.letters.isEmpty then (.ok (), store)
    else match store.makeDirectory p with
      | .ok made => (.ok (), made)
      | .error .notFound =>
        match p.parent? with
        | none => (.error .notFound, store)
        | some above =>
          match makeDirectoriesWithin fuel store above with
          | (.error e, store) => (.error e, store)
          | (.ok (), store) =>
            match store.makeDirectory p with
            | .ok made => (.ok (), made)
            | .error e => (if store.isDirectory p then .ok () else .error e, store)
      | .error e => (if store.isDirectory p then .ok () else .error e, store)

/-- Makes a directory and those above it that are missing. -/
def makeDirectories (store : FileStore) (p : Path) : Except OsError Unit × FileStore :=
  makeDirectoriesWithin (p.letters.length + 1) store p

end FileStore

end WorkspaceIndex
