import WorkspaceIndex.Proofs.Manifest.Decoded
/-!
# The order of keys in a manifest

A document says the same, wherever in a text its parts are written, and whatever the order of the
keys of the workspace, of the tools, of a module and of the document as a whole
(`readManifest_reordered`). The order of the modules is left out: it is part of what a manifest
says.

Together with what can be read at all and what it says, this is all about reading a document that
came out of a text, in which no table has two keys of one name (`readManifest_of_parse`).
-/

namespace WorkspaceIndex.Schema

open WorkspaceIndex.Toml (Value Node Key Entries)

variable {α β : Type}

/-! ### Values at other places -/

/-- Two values that say the same, wherever they are written. -/
inductive Same : Value → Value → Prop
  | refl (value : Value) : Same value value
  | array {ofTables ofTables' : Bool} {items items' : List Node}
      (items_same : List.Forall₂ (fun item item' ↦ Same item.value item'.value) items items') :
      Same (.array ofTables items) (.array ofTables' items')
  | table {origin origin' : Toml.TableOrigin} {entries entries' : Entries}
      (keys_eq : entries.keys = entries'.keys)
      (values_same : List.Forall₂ (fun entry entry' ↦ Same entry.2.value entry'.2.value)
        entries entries') :
      Same (.table origin entries) (.table origin' entries')

/-- A relation to values that does not look at where they are written. -/
def Respects (R : Value → β → Prop) : Prop :=
  ∀ value value' : Value, Same value value' → ∀ element, R value element ↔ R value' element

theorem respects_isString : Respects IsString := by
  rintro value value' hsame text
  cases hsame <;> simp [IsString]

theorem respects_isPath : Respects IsPath := by
  rintro value value' hsame path
  cases hsame <;> simp [IsPath]

theorem respects_isWord : Respects IsWord := by
  rintro value value' hsame word
  cases hsame <;> simp [IsWord]

theorem respects_isVersion : Respects IsVersion := by
  rintro value value' hsame version
  cases hsame <;> simp [IsVersion]

theorem isEmpty_iff_of_same {value value' : Value} (h : Same value value') :
    IsEmpty value ↔ IsEmpty value' := by
  cases h with
  | refl => exact Iff.rfl
  | array h => cases h <;> simp [IsEmpty]
  | table _ h => cases h <;> simp [IsEmpty]

theorem respects_isVariant : Respects IsVariant := by
  rintro value value' hsame variant
  cases hsame with
  | refl => exact Iff.rfl
  | array h => simp [IsVariant]
  | table hkeys h =>
    -- both tables have one key, and then it is the same one, or none of them is a variant
    rcases h with _ | ⟨hfirst, _ | _⟩
    · simp [IsVariant]
    · rename_i entry entry'
      obtain ⟨key, payload⟩ := entry
      obtain ⟨key', payload'⟩ := entry'
      have hkey : key.value = key'.value := by simpa [Entries.keys] using hkeys
      have hempty : IsEmpty payload.value ↔ IsEmpty payload'.value := isEmpty_iff_of_same hfirst
      simp [IsVariant, hkey, hempty]
    · simp [IsVariant]

theorem forall₂_congr_left {γ δ : Type} {S : γ → γ → Prop} {R : γ → δ → Prop} {l l' : List γ}
    (h : List.Forall₂ S l l') (hR : ∀ a a' b, S a a' → (R a b ↔ R a' b)) :
    ∀ m, List.Forall₂ R l m ↔ List.Forall₂ R l' m := by
  induction h with
  | nil => exact fun _ ↦ Iff.rfl
  | cons hfirst _ ih =>
    intro m
    simp only [List.forall₂_cons_left_iff, ih, fun b ↦ hR _ _ b hfirst]

theorem Respects.isList {R : Value → β → Prop} (h : Respects R) : Respects (IsList R) := by
  rintro value value' hsame elements
  cases hsame with
  | refl => exact Iff.rfl
  | array hitems =>
    have hcongr := @forall₂_congr_left _ _ _ (fun item element ↦ R item.value element) _ _ hitems
      (fun item item' element hitem ↦ h _ _ hitem element) elements
    simpa [IsList] using hcongr
  | table => simp [IsList]

/-- What is read does not depend on where it is written. -/
theorem Respects.read_iff {read : Node → Reading β} {R : Value → β → Prop} (hrespects : Respects R)
    (hreads : Reads read R) (node node' : Node) (_ : node.value.KeysDistinct)
    (hsame : Same node.value node'.value) (element : β) :
    read node = .ok element ↔ read node' = .ok element := by
  rw [hreads, hreads, hrespects _ _ hsame]

/-! ### Sections with their keys in another order -/

/-- Two values that say the same but for the order of their keys. -/
inductive Reordered : Value → Value → Prop
  | same {value value' : Value} (h : Same value value') : Reordered value value'
  | table {origin origin' : Toml.TableOrigin} {entries entries' : Entries}
      (h : ReorderedEntries (fun _ ↦ Same) entries entries') :
      Reordered (.table origin entries) (.table origin' entries')

theorem relatedEntries_of_same {entries entries' : Entries} (hkeys : entries.keys = entries'.keys)
    (hvalues :
      List.Forall₂ (fun entry entry' ↦ Same entry.2.value entry'.2.value) entries entries') :
    RelatedEntries (fun _ ↦ Same) entries entries' := by
  induction hvalues with
  | nil => exact .nil
  | cons hfirst _ ih =>
    obtain ⟨hkey, hrest⟩ := List.cons.inj hkeys
    exact .cons ⟨hkey, hfirst⟩ (ih hrest)

theorem relatedEntries_itemEntries (names : List String) {items items' : List Node}
    (h : List.Forall₂ (fun item item' ↦ Same item.value item'.value) items items') :
    RelatedEntries (fun _ ↦ Same) (itemEntries names items) (itemEntries names items') := by
  induction h generalizing names with
  | nil =>
    rw [itemEntries, List.zip_nil_right]
    exact .nil
  | cons hfirst _ ih =>
    rcases names with - | ⟨name, names⟩
    · exact .nil
    · exact .cons ⟨rfl, hfirst⟩ (ih names)

/-- A section in another order stands for a table in another order. -/
theorem Reordered.exists_sectionEntries? {value value' : Value} (h : Reordered value value')
    (names : List String) {entries : Entries}
    (hentries : sectionEntries? names value = some entries) :
    ∃ entries', sectionEntries? names value' = some entries' ∧
      ReorderedEntries (fun _ ↦ Same) entries entries' := by
  have hsame (entries : Entries) : RelatedEntries (fun _ ↦ Same) entries entries :=
    List.forall₂_same.2 fun entry _ ↦ ⟨rfl, .refl entry.2.value⟩
  cases h with
  | same h =>
    cases h with
    | refl => exact ⟨entries, hentries, entries, .refl entries, hsame entries⟩
    | array hitems =>
      cases hentries
      exact ⟨_, rfl, _, .refl _, relatedEntries_itemEntries names hitems⟩
    | table hkeys hvalues =>
      cases hentries
      exact ⟨_, rfl, _, .refl _, relatedEntries_of_same hkeys hvalues⟩
  | table h =>
    cases hentries
    exact ⟨_, rfl, h⟩

/-- What is no section is none in another order. -/
theorem Reordered.sectionEntries?_eq_none {value value' : Value} (h : Reordered value value')
    (names : List String) (hnone : sectionEntries? names value = none) :
    sectionEntries? names value' = none := by
  cases h with
  | same h =>
    cases h with
    | refl => exact hnone
    | array => cases hnone
    | table => cases hnone
  | table => cases hnone

/-- **The order of the keys of a section does not matter.** -/
theorem readSection_reordered {fields : List (Field α)} (hnames : (fields.map Field.name).Nodup)
    (hapart : fields.Pairwise Field.Apart) (halike : ReadAlike fields fun _ ↦ Same)
    {expected : Expected} {start : α} (node node' : Node) (hnode : node.value.KeysDistinct)
    (h : Reordered node.value node'.value) (section_ : α) :
    readSection expected fields start node = .ok section_ ↔
      readSection expected fields start node' = .ok section_ := by
  rw [readSection_eq_ok_iff hnames, readSection_eq_ok_iff hnames]
  rcases hentries : sectionEntries? (fields.map Field.name) node.value with - | entries
  · rw [h.sectionEntries?_eq_none _ hentries]
  · obtain ⟨entries', hentries', hreordered⟩ := h.exists_sectionEntries? _ hentries
    have hdistinct := keysDistinct_of_sectionEntries? hnames hentries hnode
    rw [hentries']
    simp only [Option.some.injEq, exists_eq_left',
      readEntries_reordered hnames hapart halike hreordered hdistinct]

theorem apart_workspace : workspaceFields.Pairwise Field.Apart := by
  simp only [workspaceFields, List.pairwise_cons, List.forall_mem_cons]
  simp [field_apart_field]

theorem readAlike_workspace : ReadAlike workspaceFields fun _ ↦ Same :=
  readAlike_cons (respects_isPath.read_iff reads_readPath) <|
    readAlike_cons (respects_isString.read_iff reads_readString) <|
    readAlike_cons (respects_isVersion.read_iff reads_readVersion) <|
    readAlike_cons (respects_isWord.read_iff reads_readWord) readAlike_nil

theorem apart_tools : toolsFields.Pairwise Field.Apart := by
  simp only [toolsFields, List.pairwise_cons, List.forall_mem_cons]
  simp [field_apart_field]

theorem readAlike_tools : ReadAlike toolsFields fun _ ↦ Same := by
  have hstring := respects_isString.read_iff reads_readString
  exact readAlike_cons hstring <| readAlike_cons hstring <| readAlike_cons hstring <|
    readAlike_cons hstring <| readAlike_cons hstring readAlike_nil

theorem apart_module : moduleFields.Pairwise Field.Apart := by
  simp only [moduleFields, List.pairwise_cons, List.forall_mem_cons]
  simp [field_apart_field, ModuleDraft.change]

theorem readAlike_module : ReadAlike moduleFields fun _ ↦ Same := by
  have hvariant := respects_isVariant.read_iff reads_readVariant
  have hversion := respects_isVersion.read_iff reads_readVersion
  have hpaths := respects_isPath.isList.read_iff reads_readPath.readList
  have hstrings := respects_isString.isList.read_iff reads_readString.readList
  have hpath := respects_isPath.read_iff reads_readPath
  exact readAlike_cons hvariant <| readAlike_cons hversion <| readAlike_cons hpaths <|
    readAlike_cons hpaths <| readAlike_cons hstrings <| readAlike_cons hstrings <|
    readAlike_cons hpaths <| readAlike_cons hstrings <| readAlike_cons hpath readAlike_nil

/-- The order of the keys of a module does not matter. -/
theorem readModule_reordered {node node' : Node} (hnode : node.value.KeysDistinct)
    (h : Reordered node.value node'.value) (config : ModuleConfig) :
    readModule node = .ok config ↔ readModule node' = .ok config := by
  have hdraft := @readSection_reordered _ _ (by decide) apart_module readAlike_module .module {}
    node node' hnode h
  simp only [readModule_eq_ok_iff, hdraft]

/-! ### Documents with their keys in another order -/

/-- Two tables of the same modules in the same order, each with its keys in any order. -/
inductive ReorderedModules : Value → Value → Prop
  | same {value value' : Value} (h : Same value value') : ReorderedModules value value'
  | table {origin origin' : Toml.TableOrigin} {entries entries' : Entries}
      (h : RelatedEntries (fun _ ↦ Reordered) entries entries') :
      ReorderedModules (.table origin entries) (.table origin' entries')

/-- Two sections of a document that say the same but for the order of their keys. -/
def ReorderedSection (name : String) (value value' : Value) : Prop :=
  if name = "modules" then ReorderedModules value value' else Reordered value value'

/-- Two documents that say the same but for the order of their keys. -/
abbrev ReorderedDocument : Entries → Entries → Prop := ReorderedEntries ReorderedSection

/-- Related modules are read alike, one by one. -/
theorem forall₂_readModule_iff {entries entries' : Entries}
    (hvalues : ∀ entry ∈ entries, entry.2.value.KeysDistinct)
    (h : RelatedEntries (fun _ ↦ Reordered) entries entries')
    (modules : List (String × ModuleConfig)) :
    List.Forall₂ (fun entry named ↦ named.1 = entry.1.value ∧ readModule entry.2 = .ok named.2)
        entries modules ↔
      List.Forall₂ (fun entry named ↦ named.1 = entry.1.value ∧ readModule entry.2 = .ok named.2)
        entries' modules := by
  refine forall₂_congr_left ((List.forall₂_and_left _ _).2 ⟨hvalues, h⟩) ?_ modules
  rintro entry entry' named ⟨hvalue, hkey, hreordered⟩
  rw [hkey, readModule_reordered hvalue hreordered]

theorem readModules_reordered (node node' : Node) (hnode : node.value.KeysDistinct)
    (h : ReorderedModules node.value node'.value) (modules : List (String × ModuleConfig)) :
    readModules node = .ok modules ↔ readModules node' = .ok modules := by
  obtain ⟨span, value⟩ := node
  obtain ⟨span', value'⟩ := node'
  simp only [readModules_eq_ok_iff]
  simp only at hnode h
  cases h with
  | same h =>
    cases h with
    | refl => exact Iff.rfl
    | array => simp
    | table hkeys hvalues =>
      have hrelated : RelatedEntries (fun _ ↦ Reordered) _ _ :=
        (relatedEntries_of_same hkeys hvalues).imp fun _ _ hentry ↦ ⟨hentry.1, .same hentry.2⟩
      simpa using
        forall₂_readModule_iff (Entries.keysDistinct_of_table hnode).values hrelated modules
  | table hrelated =>
    simpa using forall₂_readModule_iff (Entries.keysDistinct_of_table hnode).values hrelated modules

theorem apart_manifest : manifestFields.Pairwise Field.Apart := by
  simp only [manifestFields, List.pairwise_cons, List.forall_mem_cons]
  simp [field_apart_field]

theorem readAlike_manifest : ReadAlike manifestFields ReorderedSection := by
  refine readAlike_cons ?_ (readAlike_cons ?_ (readAlike_cons ?_ readAlike_nil))
  · exact readSection_reordered (by decide) apart_workspace readAlike_workspace
  · exact readSection_reordered (by decide) apart_tools readAlike_tools
  · exact readModules_reordered

theorem readManifest_reordered {document document' : Entries} (hdistinct : document.KeysDistinct)
    (h : ReorderedDocument document document') (m : Manifest) :
    readManifest document = .ok m ↔ readManifest document' = .ok m :=
  readEntries_reordered (by decide) apart_manifest readAlike_manifest h hdistinct

/-! ### Documents that were read out of a text -/

/-- **What reading a document comes to.** It succeeds exactly where every key is one of the schema,
every value has the type of its key and every module has a variant. Then every part of the manifest
is what the document says, or the default, with the modules in the order of their first mention; and
it is the same whatever the order of the keys elsewhere.

A section is a table, or an array with the values of its fields in order. -/
theorem readManifest_of_parse {source : String} {document : Entries}
    (h : Toml.parse? source = some document) :
    ((∃ m, readManifest document = .ok m) ↔ Fits manifestTypes document) ∧
      (∀ m, readManifest document = .ok m → DescribesManifest document m) ∧
      ∀ document', ReorderedDocument document document' →
        ∀ m, readManifest document = .ok m ↔ readManifest document' = .ok m := by
  have hdistinct : document.KeysDistinct := Toml.parse?_keysDistinct h
  refine ⟨?_, fun m ↦ describesManifest_of_readManifest hdistinct, fun document' hreordered ↦
    readManifest_reordered hdistinct hreordered⟩
  exact exists_readEntries_iff (by decide) haveTypes_manifest hdistinct.values

/-- A manifest with something in every section. -/
def twoModules : String :=
  "[modules.app]\nupstream = ['core']\nvariant = \x7b java = \x7b\x7d \x7d\n" ++
    "[workspace]\njava_version = 17\n" ++
    "[modules.core]\nsources = ['a.scala', 'b.scala']\nvariant = 'scala3'\n"

/-- Its two modules come in the order in which they are mentioned. -/
theorem readManifest_of_twoModules :
    ∃ document, Toml.parse? twoModules = some document ∧ Fits manifestTypes document ∧
      ∃ m, readManifest document = .ok m ∧ DescribesManifest document m ∧
        m.modules.map Prod.fst = ["app", "core"] ∧ m.workspace.javaVersion = some 17 := by
  have hread : ((Toml.parse? twoModules).bind fun document ↦
      (readManifest document).toOption.map fun m ↦
        (m.modules.map Prod.fst, m.workspace.javaVersion)) = some (["app", "core"], some 17) := by
    decide +kernel
  obtain ⟨document, hdocument, hread⟩ := Option.bind_eq_some_iff.1 hread
  obtain ⟨hfits, hdescribes, -⟩ := readManifest_of_parse hdocument
  rcases hm : readManifest document with misfit | m
  · simp [hm, Except.toOption] at hread
  · have hparts : m.modules.map Prod.fst = ["app", "core"] ∧ m.workspace.javaVersion = some 17 := by
      simpa [hm, Except.toOption] using hread
    exact ⟨document, hdocument, hfits.1 ⟨m, hm⟩, m, hm, hdescribes m hm, hparts⟩

/-- An array is read as a section, and so is one in the place of the table under a variant. -/
theorem parse_of_arrays :
    ((Toml.parse? "workspace = []\n").bind fun document ↦
      (document.find? "workspace").map fun node ↦
        kindOf node.value) = some .sequence ∧
      Manifest.parse "workspace = []\n" = .ok {} ∧
      Manifest.parse "[modules.core]\nvariant = \x7b java = [] \x7d\n" =
        .ok { modules := [("core", { variant := .java })] } := by
  decide +kernel

end WorkspaceIndex.Schema
