import WorkspaceIndex.Manifest.Basic
import WorkspaceIndex.Text.Quoted
import WorkspaceIndex.Toml.Value
/-!
# The schema of manifests

A document is fitted to the schema in the order in which it is written, and the first problem ends
the reading. The schema is data: for every kind of section, the list of its fields with the reading
of each. A key that is no field is a problem at the key, a value of the wrong kind one at the value.

A section is normally a table. It may also be an array, whose items are the values of the fields in
the order of the schema; fields without an item keep their defaults, and items without a field are
ignored.
-/

namespace WorkspaceIndex.Schema

open WorkspaceIndex.Toml (Value Node Key Entries)

/-- The kinds of values that a problem can name. -/
inductive Kind where
  | string (text : String)
  | integer (value : Int)
  | float (value : Binary64)
  | boolean (value : Bool)
  | sequence
  | map
  | oversized
  deriving DecidableEq, Repr

/-- The description of a kind in messages. -/
def Kind.text : Kind → String
  | .string text => s!"string {Text.quote text}"
  | .integer value => s!"integer `{value}`"
  | .float value => s!"floating point `{value.text}`"
  | .boolean value => s!"boolean `{value}`"
  | .sequence => "sequence"
  | .map => "map"
  | .oversized => "number out of range"

/-- The kind of a value. A date counts as a map. -/
def kindOf : Value → Kind
  | .string text => .string text
  | .integer value => .integer value
  | .float value => .float value
  | .boolean value => .boolean value
  | .array _ _ => .sequence
  | .datetime _ => .map
  | .table _ _ => .map
  | .oversized => .oversized

/-- What the schema can ask for at a place. -/
inductive Expected where
  | word
  | string
  | path
  | sequence
  | map
  | workspace
  | tools
  | module
  deriving DecidableEq, Repr

/-- The description of an expectation in messages. -/
def Expected.text : Expected → String
  | .word => "u32"
  | .string => "a string"
  | .path => "path string"
  | .sequence => "a sequence"
  | .map => "a map"
  | .workspace => "struct WorkspaceConfig"
  | .tools => "struct ToolsConfig"
  | .module => "struct ModuleConfig"

/-- Why a document does not fit the schema. -/
inductive Problem where
  | unknownField (name : String) (fields : List String)
  | missingVariant
  | wrongKind (found : Kind) (expected : Expected)
  | outOfRange (value : Int)
  | version (error : VersionError)
  | unknownVariant (name : String)
  /-- A variant is neither a text nor a table. -/
  | variantKind
  /-- A table in the place of a variant has no key, or more than one. -/
  | variantKeys (isEmpty : Bool)
  /-- The only key of such a table has something inside; `isTable` tells how it is written. -/
  | variantContent (isTable : Bool)
  /-- The only key of such a table has no table as its value. -/
  | variantPayload (found : String)
  /-- An array in the place of a module has no items. -/
  | emptyModule
  deriving DecidableEq, Repr

/-- Names between backquotes with commas. -/
def quotedNames (names : List String) : String :=
  ", ".intercalate (names.map fun name ↦ s!"`{name}`")

/-- The sentence that reports a problem. -/
def Problem.message : Problem → String
  | .unknownField name fields => s!"unknown field `{name}`, expected one of {quotedNames fields}"
  | .missingVariant => "missing field `variant`"
  | .wrongKind found expected => s!"invalid type: {found.text}, expected {expected.text}"
  | .outOfRange value => s!"invalid value: integer `{value}`, expected u32"
  | .version error => error.message
  | .unknownVariant name =>
    s!"unknown variant `{name}`, expected one of {quotedNames (Variant.all.map Variant.name)}"
  | .variantKind => "wanted string or table"
  | .variantKeys isEmpty =>
    "wanted exactly 1 element, " ++ (if isEmpty then "found 0 elements" else "more than 1 element")
  | .variantContent isTable => if isTable then "expected empty table" else "expected empty array"
  | .variantPayload found => s!"expected table, found {found}"
  | .emptyModule => "invalid length 0, expected struct ModuleConfig with 9 elements"

/-- A problem at its place. -/
structure Misfit where
  problem : Problem
  span : Span
  deriving DecidableEq, Repr

/-- A value read out of a document, or the first problem. -/
abbrev Reading (α : Type) := Except Misfit α

/-- The problem of a value of the wrong kind. -/
def mismatch {α : Type} (node : Node) (expected : Expected) : Reading α :=
  .error ⟨.wrongKind (kindOf node.value) expected, node.span⟩

/-! ### Single values -/

/-- Reads a text. -/
def readText (expected : Expected) (node : Node) : Reading String :=
  match node.value with
  | .string text => .ok text
  | _ => mismatch node expected

/-- Reads a string. -/
def readString (node : Node) : Reading String := readText .string node

/-- Reads a path. -/
def readPath (node : Node) : Reading Path := (readText .path node).map Path.mk

/-- Reads a natural number of 32 bits. -/
def readWord (node : Node) : Reading UInt32 :=
  match node.value with
  | .integer value =>
    if value < 0 then .error ⟨.outOfRange value, node.span⟩
    else match Text.word? value.toNat with
      | some word => .ok word
      | none => .error ⟨.outOfRange value, node.span⟩
  | _ => mismatch node .word

/-- Reads a version. -/
def readVersion (node : Node) : Reading Version :=
  match readString node with
  | .error misfit => .error misfit
  | .ok text =>
    match Version.parse text with
    | .ok version => .ok version
    | .error error => .error ⟨.version error, node.span⟩

/-- Reads every item of an array. -/
def readList {α : Type} (read : Node → Reading α) (node : Node) : Reading (List α) :=
  match node.value with
  | .array _ items => items.mapM read
  | _ => mismatch node .sequence

/-- The variant with exactly a given name. -/
def variantNamed (name : String) (place : Span) : Reading Variant :=
  match Variant.ofName? name with
  | some variant => .ok variant
  | none => .error ⟨.unknownVariant name, place⟩

/-- Checks the value of the key that names a variant, which has to be an empty table or array. -/
def readPayload (node : Node) : Reading Unit :=
  match node.value with
  | .table _ [] => .ok ()
  | .array _ [] => .ok ()
  | .table _ _ => .error ⟨.variantContent true, node.span⟩
  | .array _ _ => .error ⟨.variantContent false, node.span⟩
  | .string _ => .error ⟨.variantPayload "string", node.span⟩
  | .integer _ => .error ⟨.variantPayload "integer", node.span⟩
  | .float _ => .error ⟨.variantPayload "float", node.span⟩
  | .boolean _ => .error ⟨.variantPayload "boolean", node.span⟩
  | .datetime _ => .error ⟨.variantPayload "datetime", node.span⟩
  | .oversized => .error ⟨.variantPayload "number", node.span⟩

/-- Reads a variant: its name, or a table with its name as the only key and nothing inside. -/
def readVariant (node : Node) : Reading Variant :=
  match node.value with
  | .string name => variantNamed name node.span
  | .table _ [] => .error ⟨.variantKeys true, node.span⟩
  | .table _ [(key, payload)] =>
    match variantNamed key.value key.span with
    | .error misfit => .error misfit
    | .ok variant => (readPayload payload).map fun _ ↦ variant
  | .table _ _ => .error ⟨.variantKeys false, node.span⟩
  | _ => .error ⟨.variantKind, node.span⟩

/-! ### Sections -/

/-- A field of a section: its name, and how its value changes the section. -/
structure Field (α : Type) where
  name : String
  read : Node → Reading (α → α)

/-- A field whose value is read by `read` and put in by `set`. -/
def field {α β : Type} (name : String) (read : Node → Reading β) (set : α → β → α) : Field α :=
  ⟨name, fun node ↦ (read node).map fun value section_ ↦ set section_ value⟩

/-- The field with a given name. -/
def fieldNamed? {α : Type} (fields : List (Field α)) (name : String) : Option (Field α) :=
  fields.find? fun field ↦ field.name = name

/-- Reads one key of a table with its value. -/
def readEntry {α : Type} (fields : List (Field α)) (start : α) (entry : Key × Node) : Reading α :=
  match fieldNamed? fields entry.1.value with
  | none => .error ⟨.unknownField entry.1.value (fields.map Field.name), entry.1.span⟩
  | some field => (field.read entry.2).map fun change ↦ change start

/-- Reads the keys of a table in order. -/
def readEntries {α : Type} (fields : List (Field α)) (start : α) (entries : Entries) : Reading α :=
  entries.foldlM (readEntry fields) start

/-- Reads the items of an array as the values of the fields, in order. -/
def readItems {α : Type} (fields : List (Field α)) (start : α) (items : List Node) : Reading α :=
  (fields.zip items).foldlM
    (fun section_ (field, item) ↦ (field.read item).map fun change ↦ change section_) start

/-- Reads a section over its defaults. -/
def readSection {α : Type} (expected : Expected) (fields : List (Field α)) (start : α)
    (node : Node) : Reading α :=
  match node.value with
  | .table _ entries => readEntries fields start entries
  | .array _ items => readItems fields start items
  | .datetime _ => .error ⟨.unknownField Toml.dateKey (fields.map Field.name), node.span⟩
  | _ => mismatch node expected

/-- The fields of the workspace section. -/
def workspaceFields : List (Field WorkspaceConfig) :=
  [field "root" readPath fun c root ↦ { c with root := some root },
    field "build_tool" readString fun c buildTool ↦ { c with buildTool },
    field "host_version" readVersion fun c version ↦ { c with hostVersion := some version },
    field "java_version" readWord fun c word ↦ { c with javaVersion := some word }]

/-- The fields of the tools section. -/
def toolsFields : List (Field ToolsConfig) :=
  [field "scalac" readString fun c scalac ↦ { c with scalac },
    field "javac" readString fun c javac ↦ { c with javac },
    field "java" readString fun c java ↦ { c with java },
    field "coursier" readString fun c coursier ↦ { c with coursier },
    field "indexer" readString fun c indexer ↦ { c with indexer }]

/-- A module while it is read: its variant may still be missing. -/
structure ModuleDraft where
  variant : Option Variant := none
  /-- The other fields; the variant in here is a place holder. -/
  config : ModuleConfig := { variant := .java }

/-- Changes the configuration of a draft. -/
def ModuleDraft.change (draft : ModuleDraft) (config : ModuleConfig) : ModuleDraft :=
  { draft with config }

/-- The fields of a module. -/
def moduleFields : List (Field ModuleDraft) :=
  [field "variant" readVariant fun d variant ↦ { d with variant := some variant },
    field "scala_version" readVersion fun d version ↦
      d.change { d.config with scalaVersion := some version },
    field "sources" (readList readPath) fun d sources ↦ d.change { d.config with sources },
    field "classpath" (readList readPath) fun d classpath ↦ d.change { d.config with classpath },
    field "options" (readList readString) fun d options ↦ d.change { d.config with options },
    field "javac_options" (readList readString) fun d javacOptions ↦
      d.change { d.config with javacOptions },
    field "dependencies" (readList readPath) fun d dependencies ↦
      d.change { d.config with dependencies },
    field "upstream" (readList readString) fun d prerequisites ↦
      d.change { d.config with prerequisites },
    field "output" readPath fun d output ↦ d.change { d.config with output := some output }]

/-- Reads a module. That it has no variant is noticed after all its keys. -/
def readModule (node : Node) : Reading ModuleConfig :=
  match readSection .module moduleFields {} node with
  | .error misfit => .error misfit
  | .ok draft =>
    match draft.variant, node.value with
    | some variant, _ => .ok { draft.config with variant }
    | none, .array _ _ => .error ⟨.emptyModule, node.span⟩
    | none, _ => .error ⟨.missingVariant, node.span⟩

/-- Reads a module with its name. -/
def readNamedModule (entry : Key × Node) : Reading (String × ModuleConfig) :=
  (readModule entry.2).map fun config ↦ (entry.1.value, config)

/-- Reads the modules in the order of the table. -/
def readModules (node : Node) : Reading (List (String × ModuleConfig)) :=
  match node.value with
  | .table _ entries => entries.mapM readNamedModule
  | .datetime text => .error ⟨.wrongKind (.string text) .module, node.span⟩
  | _ => mismatch node .map

/-- The sections of a manifest. -/
def manifestFields : List (Field Manifest) :=
  [field "workspace" (readSection .workspace workspaceFields {}) fun m workspace ↦
      { m with workspace },
    field "tools" (readSection .tools toolsFields {}) fun m tools ↦ { m with tools },
    field "modules" readModules fun m modules ↦ { m with modules }]

/-- Fits a document to the schema of manifests. -/
def readManifest (document : Entries) : Reading Manifest := readEntries manifestFields {} document

end WorkspaceIndex.Schema
