import WorkspaceIndex.Package
import WorkspaceIndex.OutputFormat
import WorkspaceIndex.Variant
import WorkspaceIndex.Text.Quoted
/-!
# Index requests

All that an indexer is told to turn the semantic output in a directory into one index, and the
classpath file it reads there.
-/

namespace WorkspaceIndex

/-- An order to build an index. -/
structure IndexRequest where
  /-- The directories with semantic output. -/
  targetroots : List Path
  output : Path
  workspaceRoot : Path
  tool : ToolIdentity
  language : SourceLanguage
  format : OutputFormat
  parallel : Bool
  packages : List PackageIdentity
  /-- The name of the host build, if it is one that the indexer knows. -/
  buildKind : String
  deriving DecidableEq, Repr

namespace IndexRequest

/-- The order to index one directory, with the index inside it. -/
def forDestination (destination output workspaceRoot : Path) (language : SourceLanguage)
    (format : OutputFormat) (classpath : List ClasspathEntry) : IndexRequest where
  targetroots := [destination]
  output := destination.join output
  workspaceRoot := workspaceRoot
  tool := .current
  language := language
  format := format
  parallel := true
  packages := classpath.filterMap ClasspathEntry.package
  buildKind := ""

/-! ### The classpath file -/

/-- The name of the classpath file in a directory with semantic output. -/
def classpathFileName : String := "javacopts.txt"

/-- The path of the classpath file of a directory. -/
def classpathFile (destination : Path) : Path := destination.join ⟨classpathFileName⟩

/-- The text of the classpath file: an option and its value on a line each. -/
def classpathText (classpath : List ClasspathEntry) : String :=
  let joined := ":".intercalate (classpath.map fun entry ↦ entry.path.text)
  s!"-classpath\n{joined}\n"

/-! ### The listing of a request -/

/-- Items between brackets. -/
def listing (items : List String) : String := "[" ++ ", ".intercalate items ++ "]"

/-- A record by its name and fields. -/
def recordText (name : String) (fields : List (String × String)) : String :=
  let body := ", ".intercalate (fields.map fun (field, value) ↦ s!"{field}: {value}")
  s!"{name} \x7b {body} \x7d"

/-- A letter inside quotes. Bytes that belong to no character are written by their numbers. -/
def escapeLetter : Letter → List Char
  | .char c => Text.escape c
  | .stray bytes => bytes.flatMap fun b ↦
      '\\' :: 'x' :: (Nat.toDigits 16 (b.toNat / 16) ++ Nat.toDigits 16 (b.toNat % 16)).map
        Char.toUpper

/-- A path between quotes. -/
def quotedPath (path : Path) : String :=
  String.ofList ('"' :: path.letters.flatMap escapeLetter ++ ['"'])

/-- The name of a language as a listing writes it. -/
def languageText : SourceLanguage → String
  | .scala => "Scala"
  | .java => "Java"

/-- The name of a format as a listing writes it. -/
def formatText : OutputFormat → String
  | .lsif => "Lsif"
  | .lsifProtobuf => "LsifProtobuf"
  | .scip => "Scip"
  | .scipNdjson => "ScipNdjson"
  | .unknown => "Unknown"

/-- A package as a record. -/
def packageText (p : PackageIdentity) : String :=
  recordText "PackageIdentity"
    [("group", Text.quote p.group), ("artifact", Text.quote p.artifact),
      ("version", Text.quote p.version)]

/-- A listing of the fields of a request, for people who look for a fault. -/
def debugText (r : IndexRequest) : String :=
  let fields :=
    [("targetroots", listing (r.targetroots.map quotedPath)),
      ("output", quotedPath r.output),
      ("workspace_root", quotedPath r.workspaceRoot),
      ("tool", recordText "ToolIdentity"
        [("name", Text.quote r.tool.name), ("version", Text.quote r.tool.version)]),
      ("language", languageText r.language),
      ("format", formatText r.format),
      ("parallel", if r.parallel then "true" else "false"),
      ("packages", listing (r.packages.map packageText)),
      ("build_kind", Text.quote r.buildKind)]
  let body := ", ".intercalate (fields.map fun (field, value) ↦ s!"{field}: {value}")
  s!"IndexBuildRequest \x7b {body}, .. \x7d"

end IndexRequest

end WorkspaceIndex
