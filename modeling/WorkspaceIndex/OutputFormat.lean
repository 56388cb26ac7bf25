/-!
# Output formats

The encoding of an index is read off the extension of its file name. Only the last component
counts, and the extension has to leave something in front of it: `.scip` alone names no format.
-/

namespace WorkspaceIndex

/-- Encoding of an index file. -/
inductive OutputFormat where
  /-- LSIF as lines of JSON. -/
  | lsif
  /-- LSIF as protocol buffers. -/
  | lsifProtobuf
  /-- SCIP as protocol buffers. -/
  | scip
  /-- SCIP as lines of JSON. -/
  | scipNdjson
  /-- The extension is none of the supported ones. -/
  | unknown
  deriving DecidableEq, Repr, Inhabited

namespace OutputFormat

/-- The extensions of the known formats, none a proper suffix of an earlier one. -/
def extensions : List (String × OutputFormat) :=
  [(".lsif-protobuf", .lsifProtobuf), (".scip.ndjson", .scipNdjson), (".lsif", .lsif),
    (".scip", .scip)]

/-- The supported extensions in the order in which messages list them. -/
def supported : List String := [".lsif", ".lsif-protobuf", ".scip", ".scip.ndjson"]

/-- The supported extensions as messages show them. -/
def supportedList : String := ", ".intercalate supported

/-- The part of a file name after its last slash or backslash. -/
def lastComponent (name : List Char) : List Char :=
  (name.reverse.takeWhile fun c ↦ c ≠ '/' && c ≠ '\\').reverse

/-- Whether a name ends in an extension and has something before it. -/
def hasExtension (name extension : List Char) : Bool :=
  extension.length < name.length && extension.isSuffixOf name

/-- The format that a file name asks for. -/
def ofFileName (name : String) : OutputFormat :=
  let last := lastComponent name.toList
  match extensions.find? fun entry ↦ hasExtension last entry.1.toList with
  | some (_, format) => format
  | none => .unknown

/-- Whether the format is one of the supported ones. -/
def isKnown (format : OutputFormat) : Bool := format ≠ .unknown

/-- The name of a format. -/
def name : OutputFormat → String
  | .lsif => "lsif"
  | .lsifProtobuf => "lsif-protobuf"
  | .scip => "scip"
  | .scipNdjson => "scip-ndjson"
  | .unknown => "unknown"

/-- The format with a given name; a name of none is `unknown`. -/
def ofName (text : String) : OutputFormat :=
  ([.lsif, .lsifProtobuf, .scip, .scipNdjson].find? fun format ↦ format.name = text).getD .unknown

instance : ToString OutputFormat := ⟨name⟩

end OutputFormat

end WorkspaceIndex
