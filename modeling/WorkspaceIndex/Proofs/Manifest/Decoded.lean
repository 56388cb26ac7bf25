import WorkspaceIndex.Proofs.Manifest.Sections
import WorkspaceIndex.Proofs.Text.Numerals
/-!
# What a manifest says

The schema of manifests, read as a specification. A manifest is *described* by a document if every
part of it is the value of the key of its name, or the default (`Manifest.DescribedBy`). What a
single value says is a relation, with no mention of places and problems.
-/

namespace WorkspaceIndex.Schema

open WorkspaceIndex.Toml (Value Node Key Entries)

variable {α β : Type}

/-! ### What a value says -/

/-- A text. -/
def IsString (value : Value) (text : String) : Prop := value = .string text

/-- A text, as a path. -/
def IsPath (value : Value) (path : Path) : Prop := ∃ text, value = .string text ∧ path = .mk text

/-- A whole number of 32 bits. -/
def IsWord (value : Value) (word : UInt32) : Prop := value = .integer word.toNat

/-- A text that is read as a version. -/
def IsVersion (value : Value) (version : Version) : Prop :=
  ∃ text, value = .string text ∧ Version.parse text = .ok version

/-- A table or an array with nothing inside. -/
def IsEmpty (value : Value) : Prop :=
  (∃ origin, value = .table origin []) ∨ ∃ ofTables, value = .array ofTables []

/-- The name of a variant, as a text or as the only key of a table with nothing under it. -/
def IsVariant (value : Value) (variant : Variant) : Prop :=
  value = .string variant.name ∨
    ∃ origin key payload, value = .table origin [(key, payload)] ∧ key.value = variant.name ∧
      IsEmpty payload.value

/-- An array with an item for each element. -/
def IsList (R : Value → β → Prop) (value : Value) (elements : List β) : Prop :=
  ∃ ofTables items, value = .array ofTables items ∧
    List.Forall₂ (fun item element ↦ R item.value element) items elements

/-- A value for a part that may also be left out. -/
def IsSome (R : Value → β → Prop) (value : Value) (part : Option β) : Prop :=
  ∃ element, R value element ∧ part = some element

/-- A section, as the table that it stands for. -/
def IsSection (names : List String) (R : Entries → α → Prop) (value : Value) (section_ : α) :
    Prop :=
  ∃ entries, sectionEntries? names value = some entries ∧ R entries section_

/-- A reading that comes to what a relation says. -/
def Reads (read : Node → Reading β) (R : Value → β → Prop) : Prop :=
  ∀ node element, read node = .ok element ↔ R node.value element

theorem reads_readString : Reads readString IsString := by
  intro node text
  rw [readString, readText, IsString]
  split <;> rename_i hvalue <;> simp_all [mismatch]

theorem reads_readPath : Reads readPath IsPath := by
  intro node path
  have htext : ∀ text, readText .path node = .ok text ↔ node.value = .string text := by
    intro text
    rw [readText]
    split <;> rename_i hvalue <;> simp_all [mismatch]
  rw [readPath, map_eq_ok, IsPath]
  exact exists_congr fun text ↦ and_congr (htext text) eq_comm

theorem reads_readWord : Reads readWord IsWord := by
  intro node word
  rw [readWord, IsWord]
  split
  · rename_i value hvalue
    rw [hvalue, Value.integer.injEq]
    by_cases hneg : value < 0
    · rw [if_pos hneg]
      exact iff_of_false (by simp) (by omega)
    · rw [if_neg hneg]
      have hword := @Text.word?_eq_some_iff value.toNat word
      split
      · rename_i found hfound
        rw [hfound, Option.some.injEq] at hword
        rw [Except.ok.injEq, hword]
        omega
      · rename_i hnone
        rw [hnone] at hword
        refine iff_of_false (by simp) fun h ↦ ?_
        have : value.toNat = word.toNat := by omega
        exact absurd (hword.2 this) (by simp)
  · rename_i hvalue
    refine iff_of_false (by simp [mismatch]) fun h ↦ ?_
    exact hvalue _ h

theorem reads_readVersion : Reads readVersion IsVersion := by
  intro node version
  have hstring := reads_readString node
  rw [readVersion, IsVersion]
  split
  · rename_i misfit hread
    refine iff_of_false (by simp) ?_
    rintro ⟨text, hvalue, -⟩
    have := (hstring text).2 hvalue
    rw [hread] at this
    cases this
  · rename_i text hread
    have hvalue : node.value = .string text := (hstring text).1 hread
    simp only [hvalue, Value.string.injEq]
    rcases hparse : Version.parse text with error | parsed <;> simp [hparse]

theorem readPayload_eq_ok_iff (node : Node) : readPayload node = .ok () ↔ IsEmpty node.value := by
  rw [readPayload, IsEmpty]
  split <;> rename_i hvalue <;> simp_all

theorem variantNamed_eq_ok_iff {name : String} {place : Span} {variant : Variant} :
    variantNamed name place = .ok variant ↔ name = variant.name := by
  unfold variantNamed Variant.ofName? Variant.all
  cases variant <;> grind [Variant.name]

theorem reads_readVariant : Reads readVariant IsVariant := by
  intro node variant
  rw [readVariant, IsVariant]
  split
  · rename_i name hvalue
    simp [hvalue, variantNamed_eq_ok_iff]
  · rename_i origin hvalue
    simp [hvalue]
  · rename_i origin key payload hvalue
    have hnamed : (∃ origin key payload, node.value = .table origin [(key, payload)] ∧
        key.value = variant.name ∧ IsEmpty payload.value) ↔
          variantNamed key.value key.span = .ok variant ∧ readPayload payload = .ok () := by
      rw [variantNamed_eq_ok_iff, readPayload_eq_ok_iff, hvalue]
      simp
    rw [hnamed, hvalue]
    rcases variantNamed key.value key.span with misfit | named
    · simp
    · rcases readPayload payload with misfit | ⟨⟨⟩⟩ <;> simp [Except.map]
  · rename_i origin entries hnil hsingle hvalue
    refine iff_of_false (by simp) ?_
    rintro (h | ⟨_, key, payload, h, -⟩)
    · simp [hvalue] at h
    · rw [hvalue] at h
      cases h
      exact hsingle key payload rfl
  · rename_i hstring _ _ htable
    refine iff_of_false (by simp) ?_
    rintro (h | ⟨origin, key, payload, h, -⟩)
    · exact hstring _ h
    · exact htable _ _ h

/-- Reading one item after the other is reading each. -/
theorem mapM_eq_ok_iff {γ : Type} {f : γ → Reading β} {items : List γ} :
    ∀ {elements : List β}, items.mapM f = .ok elements ↔
      List.Forall₂ (fun item element ↦ f item = .ok element) items elements := by
  induction items with
  | nil =>
    intro elements
    rw [List.mapM_nil, List.forall₂_nil_left_iff]
    exact ⟨fun h ↦ by cases h; rfl, fun h ↦ by rw [h]; rfl⟩
  | cons item items ih =>
    intro elements
    rw [List.mapM_cons, List.forall₂_cons_left_iff, bind_eq_ok]
    simp only [bind_eq_ok, ih]
    constructor
    · rintro ⟨element, hfirst, rest, hrest, h⟩
      cases h
      exact ⟨element, rest, hfirst, hrest, rfl⟩
    · rintro ⟨element, rest, hfirst, hrest, rfl⟩
      exact ⟨element, hfirst, rest, hrest, rfl⟩

theorem Reads.readList {read : Node → Reading β} {R : Value → β → Prop} (h : Reads read R) :
    Reads (readList read) (IsList R) := by
  intro node elements
  have hitems (items : List Node) : items.mapM read = .ok elements ↔
      List.Forall₂ (fun item element ↦ R item.value element) items elements := by
    rw [mapM_eq_ok_iff]
    simp only [h _ _]
  rw [Schema.readList, IsList]
  split
  · rename_i ofTables items hvalue
    rw [hitems, hvalue]
    simp
  · rename_i hvalue
    refine iff_of_false (by simp [mismatch]) ?_
    rintro ⟨ofTables, items, h, -⟩
    exact hvalue _ _ h

/-! ### The types of the fields -/

/-- Whether a value says anything of a kind. -/
def Typed (R : Value → β → Prop) (value : Value) : Prop := ∃ element, R value element

/-- The fields of the workspace section. -/
def workspaceTypes : FieldTypes :=
  [("root", Typed IsPath), ("build_tool", Typed IsString), ("host_version", Typed IsVersion),
    ("java_version", Typed IsWord)]

/-- The fields of the tools section. -/
def toolsTypes : FieldTypes :=
  [("scalac", Typed IsString), ("javac", Typed IsString), ("java", Typed IsString),
    ("coursier", Typed IsString), ("indexer", Typed IsString)]

/-- The fields of a module. -/
def moduleTypes : FieldTypes :=
  [("variant", Typed IsVariant), ("scala_version", Typed IsVersion),
    ("sources", Typed (IsList IsPath)), ("classpath", Typed (IsList IsPath)),
    ("options", Typed (IsList IsString)), ("javac_options", Typed (IsList IsString)),
    ("dependencies", Typed (IsList IsPath)), ("upstream", Typed (IsList IsString)),
    ("output", Typed IsPath)]

/-- A section of the fields of a module in which the variant is there. -/
def FitsModule (value : Value) : Prop :=
  ∃ entries, sectionEntries? (moduleTypes.map Prod.fst) value = some entries ∧
    Fits moduleTypes entries ∧ "variant" ∈ entries.keys

/-- A table of modules. -/
def FitsModules (value : Value) : Prop :=
  ∃ origin entries, value = .table origin entries ∧ ∀ entry ∈ entries, FitsModule entry.2.value

/-- The sections of a manifest. -/
def manifestTypes : FieldTypes :=
  [("workspace", FitsSection workspaceTypes), ("tools", FitsSection toolsTypes),
    ("modules", FitsModules)]

/-! ### The values of the fields -/

/-- What a table says about the workspace. -/
structure DescribesWorkspace (entries : Entries) (c : WorkspaceConfig) : Prop where
  root : Given (IsSome IsPath) none entries "root" c.root
  buildTool : Given IsString "semdex" entries "build_tool" c.buildTool
  hostVersion : Given (IsSome IsVersion) none entries "host_version" c.hostVersion
  javaVersion : Given (IsSome IsWord) none entries "java_version" c.javaVersion

/-- What a table says about the tools. -/
structure DescribesTools (entries : Entries) (c : ToolsConfig) : Prop where
  scalac : Given IsString "scalac" entries "scalac" c.scalac
  javac : Given IsString "javac" entries "javac" c.javac
  java : Given IsString "java" entries "java" c.java
  coursier : Given IsString "cs" entries "coursier" c.coursier
  indexer : Given IsString "scip-java" entries "indexer" c.indexer

/-- What a table says about a module. Only the variant has to be there. -/
structure DescribesModule (entries : Entries) (c : ModuleConfig) : Prop where
  variant : ∃ node, entries.find? "variant" = some node ∧ IsVariant node.value c.variant
  scalaVersion : Given (IsSome IsVersion) none entries "scala_version" c.scalaVersion
  sources : Given (IsList IsPath) [] entries "sources" c.sources
  classpath : Given (IsList IsPath) [] entries "classpath" c.classpath
  options : Given (IsList IsString) [] entries "options" c.options
  javacOptions : Given (IsList IsString) [] entries "javac_options" c.javacOptions
  dependencies : Given (IsList IsPath) [] entries "dependencies" c.dependencies
  prerequisites : Given (IsList IsString) [] entries "upstream" c.prerequisites
  output : Given (IsSome IsPath) none entries "output" c.output

/-- A table of modules, one for each key and in the order of the keys. -/
def IsModules (value : Value) (modules : List (String × ModuleConfig)) : Prop :=
  ∃ origin entries, value = .table origin entries ∧
    List.Forall₂ (fun entry named ↦ named.1 = entry.1.value ∧
      IsSection (moduleTypes.map Prod.fst) DescribesModule entry.2.value named.2) entries modules

/-- What a document says about a manifest. -/
structure DescribesManifest (document : Entries) (m : Manifest) : Prop where
  workspace : Given (IsSection (workspaceTypes.map Prod.fst) DescribesWorkspace) {} document
    "workspace" m.workspace
  tools : Given (IsSection (toolsTypes.map Prod.fst) DescribesTools) {} document "tools" m.tools
  modules : Given IsModules [] document "modules" m.modules

/-! ### The workspace and the tools -/

theorem Reads.hasType {read : Node → Reading β} {R : Value → β → Prop} (h : Reads read R)
    (node : Node)
    (_ : node.value.KeysDistinct) : (∃ element, read node = .ok element) ↔ Typed R node.value :=
  exists_congr fun element ↦ h node element

theorem haveTypes_workspace : HaveTypes workspaceFields workspaceTypes := by
  simp only [workspaceFields, workspaceTypes, haveTypes_cons]
  exact ⟨reads_readPath.hasType, reads_readString.hasType, reads_readVersion.hasType,
    reads_readWord.hasType, haveTypes_nil⟩

theorem haveTypes_tools : HaveTypes toolsFields toolsTypes := by
  simp only [toolsFields, toolsTypes, haveTypes_cons]
  have hstring := reads_readString.hasType
  exact ⟨hstring, hstring, hstring, hstring, hstring, haveTypes_nil⟩

theorem describesWorkspace_of_readEntries {entries : Entries} {c : WorkspaceConfig}
    (hdistinct : entries.KeysDistinct) (h : readEntries workspaceFields {} entries = .ok c) :
    DescribesWorkspace entries c := by
  have hpart {γ : Type} {name : String} {R : Value → γ → Prop} {part : WorkspaceConfig → γ}
      (hwatches : Watches workspaceFields name R part) :=
    given_of_readEntries (by decide) hwatches hdistinct h
  simp only [workspaceFields, watches_cons, watches_nil] at hpart
  constructor
  · exact hpart (by simp [IsSome, reads_readPath _ _])
  · exact hpart (by simp [reads_readString _ _])
  · exact hpart (by simp [IsSome, reads_readVersion _ _])
  · exact hpart (by simp [IsSome, reads_readWord _ _])

theorem describesTools_of_readEntries {entries : Entries} {c : ToolsConfig}
    (hdistinct : entries.KeysDistinct) (h : readEntries toolsFields {} entries = .ok c) :
    DescribesTools entries c := by
  have hpart {name : String} {part : ToolsConfig → String}
      (hwatches : Watches toolsFields name IsString part) :=
    given_of_readEntries (by decide) hwatches hdistinct h
  simp only [toolsFields, watches_cons, watches_nil, reads_readString _ _] at hpart
  constructor <;> exact hpart (by simp)

/-! ### The modules -/

theorem haveTypes_module : HaveTypes moduleFields moduleTypes := by
  simp only [moduleFields, moduleTypes, haveTypes_cons]
  have hpaths := reads_readPath.readList.hasType
  have hstrings := reads_readString.readList.hasType
  exact ⟨reads_readVariant.hasType, reads_readVersion.hasType, hpaths, hpaths, hstrings, hstrings,
    hpaths, hstrings, reads_readPath.hasType, haveTypes_nil⟩

/-- The variant of a draft is that of the key, if there is one. -/
theorem variant_of_readEntries {entries : Entries} {draft : ModuleDraft}
    (hdistinct : entries.KeysDistinct) (h : readEntries moduleFields {} entries = .ok draft) :
    Given (IsSome IsVariant) none entries "variant" draft.variant := by
  refine given_of_readEntries (by decide) ?_ hdistinct h
  simp +contextual [moduleFields, watches_cons, watches_nil, IsSome, reads_readVariant _ _,
    ModuleDraft.change]

theorem isSome_variant_iff {entries : Entries} {draft : ModuleDraft}
    (hdistinct : entries.KeysDistinct) (h : readEntries moduleFields {} entries = .ok draft) :
    draft.variant.isSome = true ↔ "variant" ∈ entries.keys := by
  have hvariant := variant_of_readEntries hdistinct h
  rw [← not_iff_not, ← Entries.find?_eq_none_iff]
  rw [Given] at hvariant
  split at hvariant
  · rename_i node hnode
    obtain ⟨variant, -, hdraft⟩ := hvariant
    simp [hdraft, hnode]
  · rename_i hnone
    simp [hvariant, hnone]

theorem describesModule_of_readEntries {entries : Entries} {draft : ModuleDraft} {variant : Variant}
    (hdistinct : entries.KeysDistinct) (h : readEntries moduleFields {} entries = .ok draft)
    (hvariant : draft.variant = some variant) :
    DescribesModule entries { draft.config with variant } := by
  have hpart {γ : Type} {name : String} {R : Value → γ → Prop} (part : ModuleConfig → γ)
      (hwatches : Watches moduleFields name R fun draft ↦ part draft.config) :=
    given_of_readEntries (by decide) hwatches hdistinct h
  have hpath := reads_readPath
  have hpaths := hpath.readList
  have hstrings := reads_readString.readList
  simp only [moduleFields, watches_cons, watches_nil, ModuleDraft.change, hpath _ _, hpaths _ _,
    hstrings _ _, reads_readVersion _ _] at hpart
  constructor
  case variant =>
    have hgiven := variant_of_readEntries hdistinct h
    rw [Given, hvariant] at hgiven
    split at hgiven
    · rename_i node hnode
      obtain ⟨found, hfound, heq⟩ := hgiven
      cases heq
      exact ⟨node, hnode, hfound⟩
    · cases hgiven
  case scalaVersion => exact hpart (·.scalaVersion) (by simp +contextual [IsSome])
  case sources => exact hpart (·.sources) (by simp +contextual)
  case classpath => exact hpart (·.classpath) (by simp +contextual)
  case options => exact hpart (·.options) (by simp +contextual)
  case javacOptions => exact hpart (·.javacOptions) (by simp +contextual)
  case dependencies => exact hpart (·.dependencies) (by simp +contextual)
  case prerequisites => exact hpart (·.prerequisites) (by simp +contextual)
  case output => exact hpart (·.output) (by simp +contextual [IsSome])

/-- A module is read as a draft, and the draft has to have a variant. -/
theorem readModule_eq_ok_iff {node : Node} {config : ModuleConfig} :
    readModule node = .ok config ↔
      ∃ draft variant, readSection .module moduleFields {} node = .ok draft ∧
        draft.variant = some variant ∧ config = { draft.config with variant } := by
  unfold readModule
  split
  · rename_i misfit hread
    simp [hread]
  · rename_i draft hread
    simp only [hread, Except.ok.injEq]
    -- what is said about a missing variant depends on how the module is written
    split <;> simp [*, eq_comm]

theorem exists_readModule_iff {node : Node} (hnode : node.value.KeysDistinct) :
    (∃ config, readModule node = .ok config) ↔ FitsModule node.value := by
  have hnames : (moduleFields.map Field.name).Nodup := by decide
  simp only [readModule_eq_ok_iff, readSection_eq_ok_iff hnames, FitsModule,
    ← haveTypes_module.map_name]
  constructor
  · rintro ⟨config, draft, variant, ⟨entries, hentries, hread⟩, hvariant, rfl⟩
    have hdistinct := keysDistinct_of_sectionEntries? hnames hentries hnode
    have hfits :=
      (exists_readEntries_iff hnames haveTypes_module hdistinct.values).1 ⟨draft, hread⟩
    have hkey := (isSome_variant_iff hdistinct hread).1 (by rw [hvariant]; rfl)
    exact ⟨entries, hentries, hfits, hkey⟩
  · rintro ⟨entries, hentries, hfits, hkey⟩
    have hdistinct := keysDistinct_of_sectionEntries? hnames hentries hnode
    obtain ⟨draft, hread⟩ :=
      (@exists_readEntries_iff _ _ _ hnames haveTypes_module _ hdistinct.values {}).2 hfits
    obtain ⟨variant, hvariant⟩ :=
      Option.isSome_iff_exists.1 ((isSome_variant_iff hdistinct hread).2 hkey)
    exact ⟨_, draft, variant, ⟨entries, hentries, hread⟩, hvariant, rfl⟩

theorem isSection_of_readModule {node : Node} {config : ModuleConfig}
    (hnode : node.value.KeysDistinct) (h : readModule node = .ok config) :
    IsSection (moduleTypes.map Prod.fst) DescribesModule node.value config := by
  have hnames : (moduleFields.map Field.name).Nodup := by decide
  obtain ⟨draft, variant, hsection, hvariant, rfl⟩ := readModule_eq_ok_iff.1 h
  obtain ⟨entries, hentries, hread⟩ := (readSection_eq_ok_iff hnames).1 hsection
  have hdistinct := keysDistinct_of_sectionEntries? hnames hentries hnode
  exact ⟨entries, hentries, describesModule_of_readEntries hdistinct hread hvariant⟩

/-- Modules are read one after the other, out of a table. -/
theorem readModules_eq_ok_iff {node : Node} {modules : List (String × ModuleConfig)} :
    readModules node = .ok modules ↔
      ∃ origin entries, node.value = .table origin entries ∧
        List.Forall₂ (fun entry named ↦ named.1 = entry.1.value ∧
          readModule entry.2 = .ok named.2) entries modules := by
  have hnamed (entry : Key × Node) (named : String × ModuleConfig) :
      readNamedModule entry = .ok named ↔
        named.1 = entry.1.value ∧ readModule entry.2 = .ok named.2 := by
    rw [readNamedModule, map_eq_ok]
    constructor
    · rintro ⟨config, hread, rfl⟩
      exact ⟨rfl, hread⟩
    · rintro ⟨hname, hread⟩
      exact ⟨named.2, hread, by rw [← hname]⟩
  unfold readModules
  split
  · rename_i origin entries hvalue
    rw [mapM_eq_ok_iff, hvalue]
    simp [hnamed]
  · rename_i hvalue
    simp [hvalue]
  · rename_i htable _
    refine iff_of_false (by simp [mismatch]) ?_
    rintro ⟨origin, entries, hvalue, -⟩
    exact htable _ _ hvalue

/-- Each element of a list has a partner where there is a list of partners. -/
theorem exists_forall₂_iff {γ δ : Type} {R : γ → δ → Prop} {l : List γ} :
    (∃ m, List.Forall₂ R l m) ↔ ∀ a ∈ l, ∃ b, R a b := by
  induction l with
  | nil => simp
  | cons a l ih =>
    rw [List.forall_mem_cons, ← ih]
    simp only [List.forall₂_cons_left_iff]
    constructor
    · rintro ⟨_, b, m, hfirst, hrest, rfl⟩
      exact ⟨⟨b, hfirst⟩, m, hrest⟩
    · rintro ⟨⟨b, hfirst⟩, m, hrest⟩
      exact ⟨_, b, m, hfirst, hrest, rfl⟩

theorem exists_readModules_iff {node : Node} (hnode : node.value.KeysDistinct) :
    (∃ modules, readModules node = .ok modules) ↔ FitsModules node.value := by
  simp only [readModules_eq_ok_iff, FitsModules]
  rw [exists_comm]
  refine exists_congr fun origin ↦ ?_
  rw [exists_comm]
  refine exists_congr fun entries ↦ ?_
  rw [exists_and_left]
  refine and_congr_right fun hvalue ↦ ?_
  rw [hvalue] at hnode
  have hvalues := (Entries.keysDistinct_of_table hnode).values
  rw [exists_forall₂_iff]
  refine forall₂_congr fun entry hentry ↦ ?_
  rw [← exists_readModule_iff (hvalues entry hentry)]
  constructor
  · rintro ⟨named, -, hread⟩
    exact ⟨named.2, hread⟩
  · rintro ⟨config, hread⟩
    exact ⟨(entry.1.value, config), rfl, hread⟩

theorem isModules_of_readModules {node : Node} {modules : List (String × ModuleConfig)}
    (hnode : node.value.KeysDistinct) (h : readModules node = .ok modules) :
    IsModules node.value modules := by
  obtain ⟨origin, entries, hvalue, hmodules⟩ := readModules_eq_ok_iff.1 h
  rw [hvalue] at hnode
  have hvalues := (Entries.keysDistinct_of_table hnode).values
  refine ⟨origin, entries, hvalue, ?_⟩
  refine ((List.forall₂_and_left _ _).2 ⟨hvalues, hmodules⟩).imp ?_
  rintro entry named ⟨hentry, hname, hread⟩
  exact ⟨hname, isSection_of_readModule hentry hread⟩

/-! ### The manifest -/

theorem haveTypes_manifest : HaveTypes manifestFields manifestTypes := by
  simp only [manifestFields, manifestTypes, haveTypes_cons]
  exact ⟨fun _ ↦ exists_readSection_iff (by decide) haveTypes_workspace,
    fun _ ↦ exists_readSection_iff (by decide) haveTypes_tools,
    fun _ ↦ exists_readModules_iff, haveTypes_nil⟩

theorem isSection_of_readSection {fields : List (Field α)} {types : FieldTypes}
    {R : Entries → α → Prop} (hnames : (fields.map Field.name).Nodup)
    (htypes : HaveTypes fields types) {start : α}
    (hread : ∀ {entries section_}, entries.KeysDistinct →
      readEntries fields start entries = .ok section_ → R entries section_)
    {expected : Expected} {node : Node} {section_ : α} (hnode : node.value.KeysDistinct)
    (h : readSection expected fields start node = .ok section_) :
    IsSection (types.map Prod.fst) R node.value section_ := by
  rw [← htypes.map_name]
  obtain ⟨entries, hentries, hsection⟩ := (readSection_eq_ok_iff hnames).1 h
  have hdistinct := keysDistinct_of_sectionEntries? hnames hentries hnode
  exact ⟨entries, hentries, hread hdistinct hsection⟩

/-- **What is read out of a document is what it says.** -/
theorem describesManifest_of_readManifest {document : Entries} {m : Manifest}
    (hdistinct : document.KeysDistinct) (h : readManifest document = .ok m) :
    DescribesManifest document m := by
  have hpart {γ : Type} {name : String} {R : Value → γ → Prop} (part : Manifest → γ)
      (hwatches : Watches manifestFields name R part) :=
    given_of_readEntries (by decide) hwatches hdistinct h
  have hworkspace (node : Node) (c : WorkspaceConfig) :=
    @isSection_of_readSection _ _ _ _ (by decide) haveTypes_workspace {}
      describesWorkspace_of_readEntries .workspace node c
  have htools (node : Node) (c : ToolsConfig) :=
    @isSection_of_readSection _ _ _ _ (by decide) haveTypes_tools {}
      describesTools_of_readEntries .tools node c
  simp only [manifestFields, watches_cons, watches_nil] at hpart
  constructor
  · exact hpart (·.workspace) (by simpa using hworkspace)
  · exact hpart (·.tools) (by simpa using htools)
  · exact hpart (·.modules) (by simpa using fun _ _ ↦ isModules_of_readModules)

end WorkspaceIndex.Schema
