import WorkspaceIndex.Pipeline.Context
import WorkspaceIndex.Text.Json
/-!
# Snapshots

The context right after a phase, and the form in which it is written to a file. Parts that are not
filled in yet are left out of that form, except for the position of a diagnostic. The form is a
text, so there is none for a context with a path that is no text.
-/

namespace WorkspaceIndex

open WorkspaceIndex.Text (Json)

/-- The state of a run right after a phase. -/
structure Snapshot where
  phase : String
  format : Option OutputFormat
  plans : List Plan
  compiled : List CompiledModule
  classpath : Option (List ClasspathEntry)
  index : Option Path
  diagnostics : List Diagnostic
  deriving DecidableEq, Repr

namespace Snapshot

/-- The snapshot of a context after a phase. -/
def ofContext (phase : String) (c : Context) : Snapshot where
  phase := phase
  format := c.format
  plans := c.plans
  compiled := c.compiled
  classpath := c.classpath
  index := c.index
  diagnostics := c.diagnostics

/-! ### The written form -/

/-- A path. There is no form for one that is no text. -/
def pathJson (path : Path) : Option Json := path.text?.map .string

/-- A list of values, if there is a form for each. -/
def arrayJson {α : Type} (form : α → Option Json) (values : List α) : Option Json :=
  (values.mapM form).map .array

/-- A plan with its action in front. -/
def planJson : Plan → Option Json
  | .compile request => do
    let sources ← arrayJson pathJson request.sources
    let classpath ← arrayJson pathJson request.classpath
    let pluginClasspath ← arrayJson pathJson request.pluginClasspath
    let destination ← pathJson request.destination
    let workspaceRoot ← pathJson request.workspaceRoot
    return .object [
      ("action", .string "compile"),
      ("module", .string request.module),
      ("variant", .string request.variant.name),
      ("sources", sources),
      ("options", .strings request.options),
      ("javac_options", .strings request.javacOptions),
      ("classpath", classpath),
      ("plugin_classpath", pluginClasspath),
      ("destination", destination),
      ("workspace_root", workspaceRoot)]
  | .skip module reason => some (.object [
      ("action", .string "skip"),
      ("module", .string module),
      ("reason", .string reason)])

/-- A compiled module. -/
def compiledJson (m : CompiledModule) : Json :=
  .object [("name", .string m.name), ("variant", .string m.variant.name)]

/-- The coordinates of a package. -/
def packageJson (p : PackageIdentity) : Json :=
  .object [("group", .string p.group), ("artifact", .string p.artifact),
    ("version", .string p.version)]

/-- A classpath entry, with its package if it has one. -/
def entryJson (entry : ClasspathEntry) : Option Json := do
  let path ← pathJson entry.path
  return .object ([("path", path)] ++
    (entry.package.map fun p ↦ ("package", packageJson p)).toList)

/-- A position, with its column if it is known. -/
def positionJson (p : Position) : Option Json := do
  let path ← pathJson p.path
  return .object ([("path", path), ("line", .number p.line.toNat)] ++
    (p.column.map fun column ↦ ("column", .number column.toNat)).toList)

/-- A diagnostic; one without position says so. -/
def diagnosticJson (d : Diagnostic) : Option Json := do
  let position ← match d.position with
    | some position => positionJson position
    | none => some .null
  return .object [("severity", .string d.severity.name), ("origin", .string d.origin),
    ("message", .string d.message), ("position", position)]

/-- A member of an object, or none for a value that is missing. -/
def memberJson {α : Type} (name : String) (form : α → Option Json) :
    Option α → Option (List (String × Json))
  | some value => (form value).map fun json ↦ [(name, json)]
  | none => some []

/-- A snapshot as a value to be written, if all its paths are texts. -/
def json? (s : Snapshot) : Option Json := do
  let plans ← arrayJson planJson s.plans
  let classpath ← memberJson "classpath" (arrayJson entryJson) s.classpath
  let index ← memberJson "index" pathJson s.index
  let diagnostics ← arrayJson diagnosticJson s.diagnostics
  return .object ([("phase", .string s.phase)] ++
    (s.format.map fun format ↦ ("format", .string format.name)).toList ++
    [("plans", plans), ("compiled", .array (s.compiled.map compiledJson))] ++
    classpath ++ index ++ [("diagnostics", diagnostics)])

/-- The text of a snapshot file, if there is a form for the snapshot. -/
def text? (s : Snapshot) : Option String := s.json?.map Json.text

/-- The file of a snapshot in a directory. -/
def file (directory : Path) (s : Snapshot) : Path := directory.join ⟨s!"{s.phase}.json"⟩

end Snapshot

end WorkspaceIndex
