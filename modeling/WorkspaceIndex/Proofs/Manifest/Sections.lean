import Mathlib.Data.List.Forall2
import Mathlib.Data.List.Pairwise
import WorkspaceIndex.Proofs.Manifest.Parsed
/-!
# Reading a section

A section is read key by key, and each key changes what was read so far by its field. Four things
are true of that whatever the fields are.

* An array is read like the table of its items under the names of the fields
  (`readSection_eq_ok_iff`), so the others are about tables only.
* It succeeds exactly where every key is a field with a value of the type of that field
  (`exists_readEntries_iff`). What was read so far has no say in that.
* What one part of the section holds in the end is the value of one key, or the default
  (`given_of_readEntries`). This needs that only one field changes that part, and that there is one
  key of a name.
* The order of the keys does not matter if the fields change different parts (`readEntries_perm`),
  and neither does how a value is written as long as it is read alike (`readEntries_congr`).
-/

namespace WorkspaceIndex.Schema

open WorkspaceIndex.Toml (Value Node Key Entries)

variable {α β : Type} {fields : List (Field α)}

/-! ### Fields by name -/

theorem fieldNamed?_eq_some {field : Field α} {name : String}
    (h : fieldNamed? fields name = some field) : field ∈ fields ∧ field.name = name :=
  ⟨List.mem_of_find?_eq_some h, by simpa using List.find?_some h⟩

/-- A field is found under its name. -/
theorem fieldNamed?_of_mem (hnames : (fields.map Field.name).Nodup) {field : Field α}
    (h : field ∈ fields) : fieldNamed? fields field.name = some field := by
  rcases hfound : fieldNamed? fields field.name with - | found
  · rw [fieldNamed?, List.find?_eq_none] at hfound
    exact absurd (decide_eq_true rfl) (hfound field h)
  · obtain ⟨hmem, hname⟩ := fieldNamed?_eq_some hfound
    rw [List.inj_on_of_nodup_map hnames hmem h hname]

/-- A key is read by the field of its name. -/
theorem readEntry_eq_ok_iff (hnames : (fields.map Field.name).Nodup) {start next : α}
    {entry : Key × Node} :
    readEntry fields start entry = .ok next ↔
      ∃ field ∈ fields, field.name = entry.1.value ∧
        ∃ change, field.read entry.2 = .ok change ∧ next = change start := by
  constructor
  · intro h
    unfold readEntry at h
    split at h
    · cases h
    · rename_i field hfield
      obtain ⟨hmem, hname⟩ := fieldNamed?_eq_some hfield
      obtain ⟨change, hread, rfl⟩ := map_eq_ok.1 h
      exact ⟨field, hmem, hname, change, hread, rfl⟩
  · rintro ⟨field, hmem, hname, change, hread, rfl⟩
    rw [readEntry, ← hname, fieldNamed?_of_mem hnames hmem]
    exact map_eq_ok.2 ⟨change, hread, rfl⟩

theorem readEntries_cons_eq_ok_iff {start last : α} {entry : Key × Node} {entries : Entries} :
    readEntries fields start (entry :: entries) = .ok last ↔
      ∃ next, readEntry fields start entry = .ok next ∧
        readEntries fields next entries = .ok last := by
  rw [readEntries, List.foldlM_cons]
  exact bind_eq_ok

/-! ### Arrays as tables -/

/-- The table of items under names. Items without a name are left out. -/
def itemEntries (names : List String) (items : List Node) : Entries :=
  (names.zip items).map fun pair ↦ (⟨pair.2.span, pair.1⟩, pair.2)

/-- The keys and values of a section with fields of given names: those of a table, or the items of
an array under the names. Nothing else is a section. -/
def sectionEntries? (names : List String) : Value → Option Entries
  | .table _ entries => some entries
  | .array _ items => some (itemEntries names items)
  | _ => none

theorem keys_itemEntries_sublist (names : List String) :
    ∀ items : List Node, (itemEntries names items).keys.Sublist names := by
  induction names with
  | nil => exact fun _ ↦ List.nil_sublist _
  | cons name names ih =>
    intro items
    rcases items with - | ⟨item, items⟩
    · exact List.nil_sublist _
    · exact (ih items).cons_cons name

/-- The items of an array are read under the names of the fields. -/
theorem readItems_eq (hnames : (fields.map Field.name).Nodup) (start : α) (items : List Node) :
    readItems fields start items =
      readEntries fields start (itemEntries (fields.map Field.name) items) := by
  rw [readItems, readEntries, itemEntries, List.zip_map_left, List.map_map, List.foldlM_map]
  suffices hfold : ∀ pairs : List (Field α × Node), (∀ pair ∈ pairs, pair.1 ∈ fields) →
      ∀ start : α,
        pairs.foldlM (fun section_ pair ↦
          (pair.1.read pair.2).map fun change ↦ change section_) start =
        pairs.foldlM (fun section_ pair ↦
          readEntry fields section_ (⟨pair.2.span, pair.1.name⟩, pair.2)) start from
    hfold _ (fun pair hpair ↦ (List.of_mem_zip hpair).1) start
  intro pairs
  induction pairs with
  | nil => exact fun _ _ ↦ rfl
  | cons pair pairs ih =>
    intro hpairs start
    have hfirst : readEntry fields start (⟨pair.2.span, pair.1.name⟩, pair.2) =
        (pair.1.read pair.2).map fun change ↦ change start := by
      rw [readEntry, fieldNamed?_of_mem hnames (hpairs pair List.mem_cons_self)]
    rw [List.foldlM_cons, List.foldlM_cons, hfirst]
    exact bind_congr fun next ↦
      ih (fun other hother ↦ hpairs other (List.mem_cons_of_mem _ hother)) next

/-- **A section is read as the table that it stands for.** -/
theorem readSection_eq_ok_iff (hnames : (fields.map Field.name).Nodup) {expected : Expected}
    {start last : α} {node : Node} :
    readSection expected fields start node = .ok last ↔
      ∃ entries, sectionEntries? (fields.map Field.name) node.value = some entries ∧
        readEntries fields start entries = .ok last := by
  unfold readSection
  rcases node.value with
    text | value | value | value | text | - | ⟨ofTables, items⟩ | ⟨origin, entries⟩
  case array => simp [sectionEntries?, readItems_eq hnames]
  case table => simp [sectionEntries?]
  all_goals simp [sectionEntries?, mismatch]

/-- The table that a section stands for has distinct keys. -/
theorem keysDistinct_of_sectionEntries? {names : List String} (hnames : names.Nodup) {value : Value}
    {entries : Entries} (h : sectionEntries? names value = some entries)
    (hvalue : value.KeysDistinct) : entries.KeysDistinct := by
  cases hvalue with
  | table hnodup hvalues =>
    cases h
    exact ⟨hnodup, hvalues⟩
  | @array ofTables items hitems =>
    cases h
    refine ⟨hnames.sublist (keys_itemEntries_sublist names items), fun entry hentry ↦ ?_⟩
    obtain ⟨pair, hpair, rfl⟩ := List.mem_map.1 hentry
    exact hitems _ (List.of_mem_zip hpair).2
  | _ => cases h

/-! ### Where reading succeeds -/

/-- The names of the fields of a section, with what makes a value one of that field. -/
abbrev FieldTypes := List (String × (Value → Prop))

/-- Every key is the name of a field and has a value of its type. -/
def Fits (types : FieldTypes) (entries : Entries) : Prop :=
  ∀ entry ∈ entries, ∃ type ∈ types, type.1 = entry.1.value ∧ type.2 entry.2.value

/-- Fields that read exactly the values of their types. -/
def HaveTypes (fields : List (Field α)) (types : FieldTypes) : Prop :=
  List.Forall₂ (fun field type ↦ field.name = type.1 ∧ ∀ node, node.value.KeysDistinct →
    ((∃ change, field.read node = .ok change) ↔ type.2 node.value)) fields types

theorem haveTypes_nil : HaveTypes ([] : List (Field α)) [] := .nil

theorem haveTypes_cons {name : String} {read : Node → Reading β} {set : α → β → α}
    {P : Value → Prop} {types : FieldTypes} :
    HaveTypes (field name read set :: fields) ((name, P) :: types) ↔
      (∀ node, node.value.KeysDistinct → ((∃ value, read node = .ok value) ↔ P node.value)) ∧
        HaveTypes fields types := by
  rw [HaveTypes, HaveTypes, List.forall₂_cons]
  simp [field, map_eq_ok]

theorem HaveTypes.map_name {types : FieldTypes} (h : HaveTypes fields types) :
    fields.map Field.name = types.map Prod.fst := by
  induction h with
  | nil => rfl
  | cons hfirst _ ih => rw [List.map_cons, List.map_cons, ih, hfirst.1]

/-- A value is read by the field of a name exactly where it has the type of that name. -/
theorem HaveTypes.exists_iff {types : FieldTypes} (h : HaveTypes fields types) (name : String)
    {node : Node} (hnode : node.value.KeysDistinct) :
    (∃ field ∈ fields, field.name = name ∧ ∃ change, field.read node = .ok change) ↔
      ∃ type ∈ types, type.1 = name ∧ type.2 node.value := by
  induction h with
  | nil => simp
  | cons hfirst _ ih =>
    obtain ⟨hname, hreads⟩ := hfirst
    rw [List.exists_mem_cons_iff, List.exists_mem_cons_iff, ih, hname, hreads node hnode]

/-- **Reading succeeds exactly where every key is a field with a value of its type.** -/
theorem exists_readEntries_iff {types : FieldTypes} (hnames : (fields.map Field.name).Nodup)
    (htypes : HaveTypes fields types) {entries : Entries}
    (hvalues : ∀ entry ∈ entries, entry.2.value.KeysDistinct) :
    ∀ {start : α}, (∃ last, readEntries fields start entries = .ok last) ↔ Fits types entries := by
  induction entries with
  | nil => exact fun {start} ↦ iff_of_true ⟨start, rfl⟩ (by simp [Fits])
  | cons entry entries ih =>
    intro start
    obtain ⟨hvalue, hrest⟩ := List.forall_mem_cons.1 hvalues
    have ih := @ih hrest
    -- whether the first key is read does not depend on what was read before it
    have hentry : (∃ next, readEntry fields start entry = .ok next) ↔
        ∃ type ∈ types, type.1 = entry.1.value ∧ type.2 entry.2.value := by
      rw [← htypes.exists_iff _ hvalue]
      simp only [readEntry_eq_ok_iff hnames]
      constructor
      · rintro ⟨_, field, hmem, hname, change, hread, rfl⟩
        exact ⟨field, hmem, hname, change, hread⟩
      · rintro ⟨field, hmem, hname, change, hread⟩
        exact ⟨change start, field, hmem, hname, change, hread, rfl⟩
    rw [Fits, List.forall_mem_cons, ← hentry]
    simp only [readEntries_cons_eq_ok_iff]
    constructor
    · rintro ⟨last, next, hfirst, hrest⟩
      exact ⟨⟨next, hfirst⟩, ih.1 ⟨last, hrest⟩⟩
    · rintro ⟨⟨next, hfirst⟩, hrest⟩
      obtain ⟨last, hlast⟩ := ih.2 hrest
      exact ⟨last, next, hfirst, hlast⟩

/-- A section whose keys are fields with values of their types. -/
def FitsSection (types : FieldTypes) (value : Value) : Prop :=
  ∃ entries, sectionEntries? (types.map Prod.fst) value = some entries ∧ Fits types entries

theorem exists_readSection_iff {types : FieldTypes} (hnames : (fields.map Field.name).Nodup)
    (htypes : HaveTypes fields types) {expected : Expected} {start : α} {node : Node}
    (hnode : node.value.KeysDistinct) :
    (∃ last, readSection expected fields start node = .ok last) ↔ FitsSection types node.value := by
  simp only [readSection_eq_ok_iff hnames, FitsSection, ← htypes.map_name]
  rw [exists_comm]
  refine exists_congr fun entries ↦ ?_
  rw [exists_and_left]
  refine and_congr_right fun hentries ↦ ?_
  exact exists_readEntries_iff hnames htypes
    (keysDistinct_of_sectionEntries? hnames hentries hnode).values

/-! ### What a part of a section holds -/

/-- A part of a section is what the field of one name makes it, and no other field touches it. -/
def Watches (fields : List (Field α)) (name : String) (R : Value → β → Prop) (part : α → β) :
    Prop :=
  ∀ field ∈ fields, ∀ (node : Node) (change : α → α), node.value.KeysDistinct →
    field.read node = .ok change →
      (field.name = name → ∀ section_, R node.value (part (change section_))) ∧
        (field.name ≠ name → ∀ section_, part (change section_) = part section_)

theorem watches_nil {name : String} {R : Value → β → Prop} {part : α → β} :
    Watches [] name R part := fun _ hfield ↦ absurd hfield List.not_mem_nil

theorem watches_cons {γ : Type} {other name : String} {read : Node → Reading γ} {set : α → γ → α}
    {R : Value → β → Prop} {part : α → β} :
    Watches (field other read set :: fields) name R part ↔
      (∀ node value, node.value.KeysDistinct → read node = .ok value →
        (other = name → ∀ section_, R node.value (part (set section_ value))) ∧
          (other ≠ name → ∀ section_, part (set section_ value) = part section_)) ∧
        Watches fields name R part := by
  rw [Watches, List.forall_mem_cons]
  refine and_congr_left' ⟨fun h node value hnode hread ↦ ?_, fun h node change hnode hchange ↦ ?_⟩
  · exact h node _ hnode (map_eq_ok.2 ⟨value, hread, rfl⟩)
  · obtain ⟨value, hread, rfl⟩ := map_eq_ok.1 hchange
    exact h node value hnode hread

/-- What a part of a section is by the value of a key, or by its default if there is no such key. -/
def Given (R : Value → β → Prop) (default : β) (entries : Entries) (name : String) (part : β) :
    Prop :=
  match entries.find? name with
  | some node => R node.value part
  | none => part = default

theorem find?_cons (entry : Key × Node) (entries : Entries) (name : String) :
    Entries.find? (entry :: entries) name =
      if entry.1.value = name then some entry.2 else entries.find? name := by
  rw [Entries.find?, List.find?_cons]
  by_cases h : entry.1.value = name <;> simp [h, Entries.find?]

/-- **A part of a section that was read holds the value of its key, or what it held before.** -/
theorem given_of_readEntries (hnames : (fields.map Field.name).Nodup) {name : String}
    {R : Value → β → Prop} {part : α → β} (hpart : Watches fields name R part) {entries : Entries} :
    ∀ {start last : α}, entries.KeysDistinct → readEntries fields start entries = .ok last →
      Given R (part start) entries name (part last) := by
  induction entries with
  | nil =>
    intro start last _ h
    cases h
    rfl
  | cons entry entries ih =>
    intro start last hdistinct h
    obtain ⟨next, hfirst, hrest⟩ := readEntries_cons_eq_ok_iff.1 h
    obtain ⟨field, hmem, hname, change, hread, rfl⟩ := (readEntry_eq_ok_iff hnames).1 hfirst
    obtain ⟨hnew, hnodup⟩ := List.nodup_cons.1 hdistinct.nodup
    have hlast := ih ⟨hnodup, fun other hother ↦
      hdistinct.values other (List.mem_cons_of_mem _ hother)⟩ hrest
    obtain ⟨hsets, hkeeps⟩ :=
      hpart field hmem entry.2 change (hdistinct.values entry List.mem_cons_self) hread
    rw [Given, find?_cons]
    by_cases hkey : entry.1.value = name
    · -- no later key has the name, so the value of this one stays
      have hnone : Entries.find? entries name = none := Entries.find?_eq_none_iff.2 (hkey ▸ hnew)
      rw [Given, hnone] at hlast
      rw [if_pos hkey]
      show R entry.2.value (part last)
      rw [hlast]
      exact hsets (hname.trans hkey) start
    · rw [if_neg hkey]
      rwa [hkeeps (fun h ↦ hkey (hname.symm.trans h)) start] at hlast

/-! ### The order of the keys -/

/-- Two fields whose changes do not meet. -/
def Field.Apart (first second : Field α) : Prop :=
  ∀ (node node' : Node) (change change' : α → α), first.read node = .ok change →
    second.read node' = .ok change' →
      ∀ section_, change (change' section_) = change' (change section_)

instance : Std.Symm (@Field.Apart α) where
  symm _ _ h node node' change change' hread hread' section_ :=
    (h node' node change' change hread' hread section_).symm

theorem field_apart_field {β γ : Type} {first second : String} {read : Node → Reading β}
    {read' : Node → Reading γ} {set : α → β → α} {set' : α → γ → α}
    (h : ∀ section_ value value',
      set (set' section_ value') value = set' (set section_ value) value') :
    (field first read set).Apart (field second read' set') := by
  intro node node' change change' hchange hchange' section_
  obtain ⟨value, -, rfl⟩ := map_eq_ok.1 hchange
  obtain ⟨value', -, rfl⟩ := map_eq_ok.1 hchange'
  exact h section_ value value'

/-- **The order of the keys does not matter** where the fields change different parts. -/
theorem readEntries_perm (hnames : (fields.map Field.name).Nodup)
    (hapart : fields.Pairwise Field.Apart)
    {entries entries' : Entries} (hperm : entries.Perm entries') :
    ∀ {start last : α}, entries.keys.Nodup →
      (readEntries fields start entries = .ok last ↔
        readEntries fields start entries' = .ok last) := by
  induction hperm with
  | nil => exact fun _ ↦ Iff.rfl
  | cons entry _ ih =>
    intro start last hnodup
    simp only [readEntries_cons_eq_ok_iff, ih (List.nodup_cons.1 hnodup).2]
  | swap entry other entries =>
    intro start last hnodup
    have hne : other.1.value ≠ entry.1.value := by
      intro h
      refine (List.nodup_cons.1 hnodup).1 ?_
      exact List.mem_map.2 ⟨entry, List.mem_cons_self, h.symm⟩
    -- both keys are read, one after the other, and it is the same to read them the other way round
    have hswap (first second : Key × Node) (hne : first.1.value ≠ second.1.value)
        (h : readEntries fields start (first :: second :: entries) = .ok last) :
        readEntries fields start (second :: first :: entries) = .ok last := by
      simp only [readEntries_cons_eq_ok_iff, readEntry_eq_ok_iff hnames] at h ⊢
      obtain ⟨_, ⟨field, hfield, hname, change, hread, rfl⟩,
        _, ⟨field', hfield', hname', change', hread', rfl⟩, hrest⟩ := h
      have hfields : field' ≠ field := by
        rintro rfl
        exact hne (hname.symm.trans hname')
      have hcommute := hapart.forall hfield' hfield hfields
      rw [hcommute _ _ _ _ hread' hread] at hrest
      exact ⟨_, ⟨field', hfield', hname', change', hread', rfl⟩,
        _, ⟨field, hfield, hname, change, hread, rfl⟩, hrest⟩
    exact ⟨hswap other entry hne, hswap entry other hne.symm⟩
  | trans hperm _ ih ih' =>
    intro start last hnodup
    exact (ih hnodup).trans (ih' ((hperm.map _).nodup_iff.1 hnodup))

/-- Tables with the same keys in the same order, whose values are related under each key. -/
def RelatedEntries (S : String → Value → Value → Prop) : Entries → Entries → Prop :=
  List.Forall₂ fun entry entry' ↦
    entry.1.value = entry'.1.value ∧ S entry.1.value entry.2.value entry'.2.value

/-- Tables with the same keys in any order, whose values are related under each key. -/
def ReorderedEntries (S : String → Value → Value → Prop) (entries entries' : Entries) : Prop :=
  ∃ middle, entries.Perm middle ∧ RelatedEntries S middle entries'

/-- Fields that read related values alike. -/
def ReadAlike (fields : List (Field α)) (S : String → Value → Value → Prop) : Prop :=
  ∀ field ∈ fields, ∀ node node' : Node, node.value.KeysDistinct →
    S field.name node.value node'.value →
      ∀ change, field.read node = .ok change ↔ field.read node' = .ok change

theorem readAlike_nil {S : String → Value → Value → Prop} : ReadAlike ([] : List (Field α)) S :=
  fun _ hfield ↦ absurd hfield List.not_mem_nil

theorem readAlike_cons {name : String} {read : Node → Reading β} {set : α → β → α}
    {S : String → Value → Value → Prop}
    (hread : ∀ node node' : Node, node.value.KeysDistinct → S name node.value node'.value →
      ∀ value, read node = .ok value ↔ read node' = .ok value)
    (hfields : ReadAlike fields S) : ReadAlike (field name read set :: fields) S := by
  refine List.forall_mem_cons.2 ⟨fun node node' hnode hsame change ↦ ?_, hfields⟩
  have hvalue := hread node node' hnode hsame
  simp only [field, map_eq_ok, hvalue]

/-- **How values are written does not matter** where the fields read them alike. -/
theorem readEntries_congr (hnames : (fields.map Field.name).Nodup)
    {S : String → Value → Value → Prop} (halike : ReadAlike fields S) {entries entries' : Entries}
    (h : RelatedEntries S entries entries')
    (hvalues : ∀ entry ∈ entries, entry.2.value.KeysDistinct) :
    ∀ {start last : α}, readEntries fields start entries = .ok last ↔
      readEntries fields start entries' = .ok last := by
  induction h with
  | nil => exact Iff.rfl
  | @cons entry entry' _ _ hfirst _ ih =>
    intro start last
    obtain ⟨hkey, hsame⟩ := hfirst
    obtain ⟨hvalue, hrest⟩ := List.forall_mem_cons.1 hvalues
    have hentry (next : α) : readEntry fields start entry = .ok next ↔
        readEntry fields start entry' = .ok next := by
      simp only [readEntry_eq_ok_iff hnames, ← hkey]
      refine exists_congr fun field ↦ and_congr_right fun hmem ↦ and_congr_right fun hname ↦ ?_
      simp only [halike field hmem entry.2 entry'.2 hvalue (hname ▸ hsame)]
    simp only [readEntries_cons_eq_ok_iff, hentry, ih hrest]

/-- Neither the order of the keys matters nor how their values are written. -/
theorem readEntries_reordered (hnames : (fields.map Field.name).Nodup)
    (hapart : fields.Pairwise Field.Apart) {S : String → Value → Value → Prop}
    (halike : ReadAlike fields S) {entries entries' : Entries}
    (h : ReorderedEntries S entries entries') (hdistinct : entries.KeysDistinct) {start last : α} :
    readEntries fields start entries = .ok last ↔ readEntries fields start entries' = .ok last := by
  obtain ⟨middle, hperm, hrelated⟩ := h
  have hvalues : ∀ entry ∈ middle, entry.2.value.KeysDistinct :=
    fun entry hentry ↦ hdistinct.values entry (hperm.mem_iff.2 hentry)
  exact (readEntries_perm hnames hapart hperm hdistinct.nodup).trans
    (readEntries_congr hnames halike hrelated hvalues)

end WorkspaceIndex.Schema
