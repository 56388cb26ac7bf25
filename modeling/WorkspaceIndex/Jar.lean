import WorkspaceIndex.FileStore.Basic
import WorkspaceIndex.Package
import WorkspaceIndex.Text.Blank
import WorkspaceIndex.Text.Cut
import WorkspaceIndex.Text.Lines
/-!
# The identity of a jar

A jar that was built by the usual tools holds a file of properties with its coordinates, two levels
below a fixed directory. The candidates are looked at in the order of the archive, and the first
that names a group, an artifact and a version decides. A candidate that is no text ends the search.
-/

namespace WorkspaceIndex.Jar

/-- The directory above the metadata of packages. -/
def metadataDirectory : String := "META-INF/maven/"

/-- The name of a file of properties. -/
def propertiesName : String := "pom.properties"

/-- A text without a given end, if it has it. -/
def withoutEnd? (ending s : List Char) : Option (List Char) :=
  (ending.reverse.isPrefixOf? s.reverse).map List.reverse

/-- Whether an entry is a file of properties exactly two levels below the metadata directory. -/
def isCandidate (name : String) : Bool :=
  match metadataDirectory.toList.isPrefixOf? name.toList with
  | none => false
  | some rest =>
    match withoutEnd? propertiesName.toList rest with
    | none => false
    | some middle =>
      match (Text.dropBack (· = '/') middle).splitOn '/' with
      | [group, artifact] => !group.isEmpty && !artifact.isEmpty
      | _ => false

/-! ### Properties -/

/-- The key and the value on a line, unless it is blank, a comment or has no separator. -/
def property? (line : List Char) : Option (List Char × List Char) :=
  match Text.trim line with
  | [] => none
  | '#' :: _ => none
  | '!' :: _ => none
  | text =>
    (Text.cutWhere? (fun c ↦ c = '=' || c = ':') text).map fun (key, value) ↦
      (Text.trim key, Text.trim value)

/-- All keys with their values, in order. -/
def properties (content : List Char) : List (List Char × List Char) :=
  (Text.lines content).filterMap property?

/-- The last value of a key. -/
def lastValue? (key : String) (entries : List (List Char × List Char)) : Option (List Char) :=
  entries.reverse.lookup key.toList

/-- The coordinates that a file of properties gives, if it gives all three. -/
def identityOf? (content : String) : Option PackageIdentity :=
  let entries := properties content.toList
  match lastValue? "groupId" entries, lastValue? "artifactId" entries,
      lastValue? "version" entries with
  | some group, some artifact, some version =>
    if group.isEmpty || artifact.isEmpty || version.isEmpty then none
    else some ⟨String.ofList group, String.ofList artifact, String.ofList version⟩
  | _, _, _ => none

/-! ### Archives -/

/-- The coordinates that the first complete file of properties gives. -/
def firstIdentity? : List ArchiveEntry → Option PackageIdentity
  | [] => none
  | entry :: rest =>
    match entry.content.text? with
    | none => none
    | some content =>
      match identityOf? content with
      | some identity => some identity
      | none => firstIdentity? rest

/-- The coordinates inside an archive. -/
def identityOfEntries? (entries : List ArchiveEntry) : Option PackageIdentity :=
  firstIdentity? (entries.filter fun entry ↦ isCandidate entry.name)

/-- The coordinates of the jar at a path; none if no archive stands there. -/
def identity? (files : FileStore) (path : Path) : Option PackageIdentity :=
  (files.archive? path).bind identityOfEntries?

end WorkspaceIndex.Jar
