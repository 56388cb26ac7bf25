import WorkspaceIndex.Proofs.Manifest.Decoded
import WorkspaceIndex.Proofs.Text.Pieces
import WorkspaceIndex.Proofs.Toml.Places
/-!
# Labels on the declarations of modules

An error about a module comes with a label, a range of the text that is meant to show the offence.
It is not taken from the tree of the document, though every key and every text of the tree is known
to be written at its range (`Toml.parse?_in`). The text is searched for forms in which the offence
is often written (`Label.forms`), and the label is the first place of the first form that stands
anywhere (`Label.Leads`). So it is on the offence exactly if that place is, and what stands in the
same form elsewhere, be it a value or a comment, can draw it away.
-/

namespace WorkspaceIndex

open Text (byteLength)
open Toml (Entries Key Node Value)

/-- One range lies in another. -/
def Span.Within (inner outer : Span) : Prop :=
  outer.offset ≤ inner.offset ∧ inner.offset + inner.length ≤ outer.offset + outer.length

instance (inner outer : Span) : Decidable (inner.Within outer) :=
  inferInstanceAs (Decidable (_ ∧ _))

/-! ### The search -/

namespace Label

/-- A text to be marked, with what has to stand on either side of it. -/
structure Form where
  before : List Char
  marked : List Char
  after : List Char

/-- A form stands in a text, with the marked part at a place. -/
def Form.StandsAt (form : Form) (source : List Char) (place : Span) : Prop :=
  ∃ front back, source = front ++ (form.before ++ form.marked ++ form.after ++ back) ∧
    place = ⟨byteLength front + byteLength form.before, byteLength form.marked⟩

theorem Form.StandsAt.covers {form : Form} {source : List Char} {place : Span}
    (h : form.StandsAt source place) : place.Covers source form.marked := by
  obtain ⟨front, back, rfl, rfl⟩ := h
  refine ⟨front ++ form.before, form.after ++ back, ?_, ?_⟩
  · simp only [List.append_assoc]
  · rw [Text.byteLength_append]

/-- The forms in which the name of a module is declared. -/
def declarations (name : String) : List Form :=
  [⟨"[modules.".toList, name.toList, "]".toList⟩,
    ⟨"[modules.\"".toList, name.toList, "\"]".toList⟩,
    ⟨"\n".toList, name.toList, " = \x7b".toList⟩]

/-- The forms in which a fault of a module is looked for, one after the other. -/
def forms (name : String) : ModuleFault → List Form
  | .unknownPrerequisite prerequisite =>
    ⟨['"'], prerequisite.toList, ['"']⟩ :: declarations name
  | _ => declarations name

/-- A place is the first of the first form that stands anywhere. -/
inductive Leads (source : List Char) : List Form → Span → Prop
  | first {form : Form} {rest : List Form} {place : Span} (stands : form.StandsAt source place)
    (leftmost : ∀ other, form.StandsAt source other → place.offset ≤ other.offset) :
    Leads source (form :: rest) place
  | later {form : Form} {rest : List Form} {place : Span}
    (absent : ∀ other, ¬form.StandsAt source other) (leads : Leads source rest place) :
    Leads source (form :: rest) place

theorem Leads.stands {source : List Char} {forms : List Form} {place : Span}
    (h : Leads source forms place) : ∃ form ∈ forms, form.StandsAt source place := by
  induction h with
  | first stands _ => exact ⟨_, List.mem_cons_self, stands⟩
  | later _ _ ih =>
    obtain ⟨form, hform, hstands⟩ := ih
    exact ⟨form, List.mem_cons_of_mem _ hform, hstands⟩

/-- The place of a form as it is searched for. -/
def Form.find? (form : Form) (source : List Char) : Option Span :=
  (Pattern.around form.before form.marked form.after).find? source (byteLength form.marked)

section Search

variable {form : Form} {source : List Char} {place : Span}

theorem find?_eq_some_iff (hbefore : form.before ≠ []) :
    form.find? source = some place ↔ form.StandsAt source place ∧
      ∀ other, form.StandsAt source other → place.offset ≤ other.offset := by
  have hne : form.before ++ form.marked ++ form.after ≠ [] := by simp [hbefore]
  rw [Form.find?, Pattern.find?, Option.map_eq_some_iff]
  constructor
  · rintro ⟨offset, hoffset, rfl⟩
    obtain ⟨⟨front, back, hsource, rfl⟩, hmin⟩ := (Text.find?_eq_some_iff hne).1 hoffset
    refine ⟨⟨front, back, hsource, rfl⟩, ?_⟩
    rintro _ ⟨front', back', hsource', rfl⟩
    exact Nat.add_le_add_right (hmin front' back' hsource') _
  · rintro ⟨⟨front, back, hsource, rfl⟩, hmin⟩
    refine ⟨byteLength front, (Text.find?_eq_some_iff hne).2 ⟨⟨front, back, hsource, rfl⟩, ?_⟩, rfl⟩
    intro front' back' hsource'
    exact Nat.le_of_add_le_add_right (hmin _ ⟨front', back', hsource', rfl⟩)

theorem find?_eq_none_iff (hbefore : form.before ≠ []) :
    form.find? source = none ↔ ∀ other, ¬form.StandsAt source other := by
  have hne : form.before ++ form.marked ++ form.after ≠ [] := by simp [hbefore]
  rw [Form.find?, Pattern.find?, Option.map_eq_none_iff]
  refine (Text.find?_eq_none_iff hne).trans ⟨?_, ?_⟩
  · rintro h _ ⟨front, back, hsource, rfl⟩
    exact h front back hsource
  · exact fun h front back hsource ↦ h _ ⟨front, back, hsource, rfl⟩

/-- Trying forms one after the other finds the place that leads. -/
theorem findSome?_find?_eq_some_iff {forms : List Form}
    (hbefore : ∀ form ∈ forms, form.before ≠ []) :
    (forms.findSome? fun form ↦ form.find? source) = some place ↔ Leads source forms place := by
  induction forms with
  | nil => exact iff_of_false (by simp) nofun
  | cons form rest ih =>
    obtain ⟨hform, hrest⟩ := List.forall_mem_cons.1 hbefore
    rw [List.findSome?_cons]
    rcases hfind : form.find? source with - | found
    · have habsent := (find?_eq_none_iff hform).1 hfind
      refine (ih hrest).trans ⟨.later habsent, fun h ↦ ?_⟩
      cases h with
      | first stands _ => exact absurd stands (habsent _)
      | later _ leads => exact leads
    · obtain ⟨hstands, hleft⟩ := (find?_eq_some_iff hform).1 hfind
      refine ⟨fun h ↦ ?_, fun h ↦ ?_⟩
      · cases h
        exact .first hstands hleft
      · cases h with
        | first stands leftmost =>
          exact hfind.symm.trans ((find?_eq_some_iff hform).2 ⟨stands, leftmost⟩)
        | later absent _ => exact absurd hstands (absent _)

theorem findSome?_find?_eq_none_iff {forms : List Form}
    (hbefore : ∀ form ∈ forms, form.before ≠ []) :
    (forms.findSome? fun form ↦ form.find? source) = none ↔
      ∀ form ∈ forms, ∀ place, ¬form.StandsAt source place := by
  rw [List.findSome?_eq_none_iff]
  exact forall₂_congr fun form hform ↦ find?_eq_none_iff (hbefore form hform)

end Search

theorem moduleSpan?_eq_findSome? (source name : String) :
    moduleSpan? source name = (declarations name).findSome? fun form ↦ form.find? source.toList :=
  rfl

theorem faultSpan?_eq_findSome? (source name : String) (fault : ModuleFault) :
    faultSpan? source name fault =
      (forms name fault).findSome? fun form ↦ form.find? source.toList := by
  cases fault with
  | unknownPrerequisite prerequisite =>
    have hquoted : (⟨['"'], prerequisite.toList, ['"']⟩ : Form).find? source.toList =
        quotedSpan? source prerequisite := rfl
    rw [faultSpan?, forms, List.findSome?_cons, moduleSpan?_eq_findSome?, hquoted]
    cases quotedSpan? source prerequisite <;> rfl
  | _ => rfl

theorem before_ne_nil_of_mem_declarations {name : String} :
    ∀ form ∈ declarations name, form.before ≠ [] := by
  simp [declarations]

theorem marked_of_mem_declarations {name : String} :
    ∀ form ∈ declarations name, form.marked = name.toList := by
  simp [declarations]

theorem before_ne_nil_of_mem_forms {name : String} {fault : ModuleFault} :
    ∀ form ∈ forms name fault, form.before ≠ [] := by
  cases fault with
  | unknownPrerequisite prerequisite =>
    exact List.forall_mem_cons.2 ⟨List.cons_ne_nil _ _, before_ne_nil_of_mem_declarations⟩
  | _ => exact before_ne_nil_of_mem_declarations

/-- What is marked is the name of the module, or that of the prerequisite that is missing. -/
theorem marked_of_mem_forms {name : String} {fault : ModuleFault} {form : Form}
    (h : form ∈ forms name fault) :
    form.marked = name.toList ∨
      ∃ prerequisite, fault = .unknownPrerequisite prerequisite ∧
        form.marked = prerequisite.toList := by
  cases fault with
  | unknownPrerequisite prerequisite =>
    rcases List.mem_cons.1 h with rfl | h
    · exact .inr ⟨prerequisite, rfl, rfl⟩
    · exact .inl (marked_of_mem_declarations form h)
  | _ => exact .inl (marked_of_mem_declarations form h)

/-- **A label is the place that leads among the forms of its fault.** -/
theorem faultSpan?_eq_some_iff {source name : String} {fault : ModuleFault} {place : Span} :
    faultSpan? source name fault = some place ↔ Leads source.toList (forms name fault) place := by
  rw [faultSpan?_eq_findSome?]
  exact findSome?_find?_eq_some_iff before_ne_nil_of_mem_forms

theorem faultSpan?_eq_none_iff {source name : String} {fault : ModuleFault} :
    faultSpan? source name fault = none ↔
      ∀ form ∈ forms name fault, ∀ place, ¬form.StandsAt source.toList place := by
  rw [faultSpan?_eq_findSome?]
  exact findSome?_find?_eq_none_iff before_ne_nil_of_mem_forms

end Label

/-! ### The offence -/

namespace Toml.Entries

/-- The modules of a document, with their keys. -/
def modules (document : Entries) : Entries :=
  match (document.find? "modules").map Located.value with
  | some (.table _ entries) => entries
  | _ => []

end Toml.Entries

/-- The items of the list of prerequisites of a module. -/
def Schema.prerequisiteItems (declared : Value) : List Node :=
  match ((Schema.sectionEntries? (Schema.moduleTypes.map Prod.fst) declared).bind fun entries ↦
      entries.find? "upstream").map Toml.Located.value with
  | some (.array _ items) => items
  | _ => []

/-- Whether a value is a given text. -/
def Toml.Value.isText (text : String) : Value → Bool
  | .string found => found = text
  | _ => false

/-- The places of a fault of a module: an item with the name that is missing, or the name of the
module. -/
def ModuleFault.places (declared : Key × Node) : ModuleFault → List Span
  | .unknownPrerequisite prerequisite =>
    ((Schema.prerequisiteItems declared.2.value).filter fun item ↦
      item.value.isText prerequisite).map
      Toml.Located.span ++ [declared.1.span]
  | _ => [declared.1.span]

/-- A range is on a fault of a module. -/
def ModuleFault.IsAt (declared : Key × Node) (fault : ModuleFault) (place : Span) : Prop :=
  ∃ offence ∈ fault.places declared, place.Within offence

instance (declared : Key × Node) (fault : ModuleFault) (place : Span) :
    Decidable (fault.IsAt declared place) :=
  inferInstanceAs (Decidable (∃ offence ∈ _, _))

namespace Schema

/-- What a list of partners holds is the partner of something. -/
theorem exists_mem_of_forall₂ {γ δ : Type} {R : γ → δ → Prop} {l : List γ} {m : List δ}
    (h : List.Forall₂ R l m) {b : δ} (hb : b ∈ m) : ∃ a ∈ l, R a b := by
  induction h with
  | nil => cases hb
  | @cons a b' l m hfirst _ ih =>
    rcases List.mem_cons.1 hb with rfl | hb
    · exact ⟨a, List.mem_cons_self, hfirst⟩
    · obtain ⟨a', ha', hrel⟩ := ih hb
      exact ⟨a', List.mem_cons_of_mem _ ha', hrel⟩

theorem modules_eq_of_find? {document entries : Entries} {node : Node} {origin : Toml.TableOrigin}
    (hnode : document.find? "modules" = some node) (hvalue : node.value = .table origin entries) :
    document.modules = entries := by
  rw [Toml.Entries.modules, hnode, Option.map_some, hvalue]

/-- A module that was read is declared in the table of modules. -/
theorem exists_declared {document : Entries} {m : Manifest} {name : String}
    {config : ModuleConfig} (h : DescribesManifest document m) (hmem : (name, config) ∈ m.modules) :
    ∃ declared ∈ document.modules, declared.1.value = name ∧
      IsSection (moduleTypes.map Prod.fst) DescribesModule declared.2.value config := by
  have hmodules := h.modules
  rw [Given] at hmodules
  split at hmodules
  · rename_i node hnode
    obtain ⟨origin, entries, hvalue, hentries⟩ := hmodules
    obtain ⟨declared, hdeclared, hname, hsection⟩ := exists_mem_of_forall₂ hentries hmem
    rw [modules_eq_of_find? hnode hvalue]
    exact ⟨declared, hdeclared, hname.symm, hsection⟩
  · rw [hmodules] at hmem
    cases hmem

/-- A prerequisite that was read is an item of the list in the declaration. -/
theorem exists_prerequisiteItem {declared : Value} {config : ModuleConfig} {prerequisite : String}
    (h : IsSection (moduleTypes.map Prod.fst) DescribesModule declared config)
    (hmem : prerequisite ∈ config.prerequisites) :
    ∃ item ∈ prerequisiteItems declared, item.value = .string prerequisite := by
  obtain ⟨entries, hentries, hdescribes⟩ := h
  have hgiven := hdescribes.prerequisites
  rw [Given] at hgiven
  split at hgiven
  · rename_i node hnode
    obtain ⟨ofTables, items, hvalue, hitems⟩ := hgiven
    obtain ⟨item, hitem, htext⟩ := exists_mem_of_forall₂ hitems hmem
    have hlist : prerequisiteItems declared = items := by
      rw [prerequisiteItems, hentries, Option.bind_some, hnode, Option.map_some, hvalue]
    exact ⟨item, hlist ▸ hitem, htext⟩
  · rw [hgiven] at hmem
    cases hmem

end Schema

namespace Toml

variable {source : List Char}

/-- The keys of the modules of a document are what stands at their places. -/
theorem Entries.In.modules {document : Entries} (h : document.In source) :
    document.modules.In source := by
  unfold Entries.modules
  split
  · rename_i origin entries hvalue
    obtain ⟨⟨span, value⟩, hnode, rfl⟩ := Option.map_eq_some_iff.1 hvalue
    exact nodeIn_table_iff.1 (h.find? hnode)
  · exact fun _ hentry ↦ absurd hentry List.not_mem_nil

/-- The modules of a document have distinct keys. -/
theorem Entries.KeysDistinct.modules {document : Entries} (h : document.KeysDistinct) :
    document.modules.KeysDistinct := by
  unfold Entries.modules
  split
  · rename_i origin entries hvalue
    obtain ⟨⟨span, value⟩, hnode, rfl⟩ := Option.map_eq_some_iff.1 hvalue
    exact keysDistinct_of_table (h.find? hnode)
  · exact keysDistinct_nil

/-- The values of a section are what stands at their places, be it written as a table or as an
array. -/
theorem NodeIn.sectionEntries {names : List String} {node : Node} {entries : Entries}
    (h : NodeIn source node) (hentries : Schema.sectionEntries? names node.value = some entries) :
    ∀ entry ∈ entries, NodeIn source entry.2 := by
  obtain ⟨span, value⟩ := node
  unfold Schema.sectionEntries? at hentries
  split at hentries <;> rename_i hvalue <;> cases hentries <;> obtain rfl : value = _ := hvalue
  · exact fun entry hentry ↦ (nodeIn_table_iff.1 h entry hentry).2
  · intro entry hentry
    obtain ⟨pair, hpair, rfl⟩ := List.mem_map.1 hentry
    exact nodeIn_array_iff.1 h _ (List.of_mem_zip hpair).2

/-- The prerequisites of a module are what stands at their places. -/
theorem NodeIn.prerequisiteItems {declared : Node} (h : NodeIn source declared) :
    ∀ item ∈ Schema.prerequisiteItems declared.value, NodeIn source item := by
  unfold Schema.prerequisiteItems
  split
  · rename_i ofTables items hvalue
    obtain ⟨⟨span, value⟩, hnode, rfl⟩ := Option.map_eq_some_iff.1 hvalue
    obtain ⟨entries, hentries, hfound⟩ := Option.bind_eq_some_iff.1 hnode
    obtain ⟨key, hmem⟩ := Entries.mem_of_find? hfound
    exact nodeIn_array_iff.1 (h.sectionEntries hentries _ hmem)
  · exact fun _ hitem ↦ absurd hitem List.not_mem_nil

end Toml

namespace Manifest

/-! ### The label -/

/-- A manifest that is refused for a module has a document in which the module is declared, and if a
prerequisite is missing, it is in the list of the module. -/
theorem exists_declared_of_parse {source name : String} {fault : ModuleFault} {label? : Option Span}
    (h : Manifest.parse source = .error (.invalidModule name fault label?)) :
    ∃ document, Toml.parse? source = some document ∧ ∃ declared ∈ document.modules,
      declared.1.value = name ∧
      (∀ prerequisite, fault = .unknownPrerequisite prerequisite →
        ∃ item ∈ Schema.prerequisiteItems declared.2.value, item.value = .string prerequisite) ∧
      label? = faultSpan? source name fault := by
  unfold Manifest.parse at h
  split at h
  · cases h
  · rename_i document hdocument
    split at h
    · split at h <;> cases h
    · rename_i m hm
      split at h
      · rename_i error hvalidate
        cases h
        have hdistinct := Toml.parse?_keysDistinct hdocument
        have hdescribes := Schema.describesManifest_of_readManifest hdistinct hm
        obtain ⟨_, _, hfault, heq⟩ := validate_eq_error_iff.1 hvalidate
        cases heq
        obtain ⟨before, config, after, hmodules, -, hoffends⟩ :=
          (firstFault?_eq_some_iff_offends (Schema.nodup_of_readManifest hm hdistinct)).1 hfault
        have hmem : (name, config) ∈ m.modules := by
          rw [hmodules]
          exact List.mem_append_right _ List.mem_cons_self
        obtain ⟨declared, hdeclared, hname, hsection⟩ := Schema.exists_declared hdescribes hmem
        refine ⟨document, hdocument, declared, hdeclared, hname, ?_, rfl⟩
        rintro prerequisite rfl
        cases hoffends with
        | unknownPrerequisite _ _ _ split_ _ _ =>
          exact Schema.exists_prerequisiteItem hsection (by rw [split_]; simp)
      · cases h

/-- **Where the label is when a module is refused.**

The module is declared in the document, under one key, which stands in the text at its range; and so
does, if a prerequisite is missing, an item with its name in the list of the module.

The label is searched for in the text, and is the first place of the first form that stands
anywhere; if no form stands anywhere there is none. What it covers is always the name of the module,
or that of the missing prerequisite. It is on the offence if and only if the place that leads is,
and this is so where nothing else stands in one of the forms. -/
theorem label_of_parse {source name : String} {fault : ModuleFault} {label? : Option Span}
    (h : Manifest.parse source = .error (.invalidModule name fault label?)) :
    ∃ document, Toml.parse? source = some document ∧ ∃ declared ∈ document.modules,
      declared.1.value = name ∧
      (∀ other ∈ document.modules, other.1.value = name → other = declared) ∧
      (∃ written, declared.1.span.Covers source.toList written ∧
        Toml.WritesKey written name.toList) ∧
      (∀ prerequisite, fault = .unknownPrerequisite prerequisite →
        ∃ item ∈ Schema.prerequisiteItems declared.2.value, item.value = .string prerequisite ∧
          Toml.TextIn source.toList item.span prerequisite ∧
          ∃ written, item.span.Covers source.toList written ∧ Toml.Quoted written) ∧
      (label? = none ↔
        ∀ form ∈ Label.forms name fault, ∀ place, ¬form.StandsAt source.toList place) ∧
      (∀ label, label? = some label ↔ Label.Leads source.toList (Label.forms name fault) label) ∧
      (∀ label, label? = some label → label.Covers source.toList name.toList ∨
        ∃ prerequisite, fault = .unknownPrerequisite prerequisite ∧
          label.Covers source.toList prerequisite.toList) ∧
      ((∀ label, label? = some label → fault.IsAt declared label) ↔
        ∀ place, Label.Leads source.toList (Label.forms name fault) place →
          fault.IsAt declared place) ∧
      ((∀ form ∈ Label.forms name fault, ∀ place, form.StandsAt source.toList place →
          fault.IsAt declared place) →
        ∀ label, label? = some label → fault.IsAt declared label) := by
  obtain ⟨document, hdocument, declared, hdeclared, hname, hitem, rfl⟩ := exists_declared_of_parse h
  have hplaces := (Toml.parse?_in hdocument).modules declared hdeclared
  have hdistinct := (Toml.parse?_keysDistinct hdocument).modules.nodup
  refine ⟨document, hdocument, declared, hdeclared, hname, fun other hother hsame ↦ ?_, ?_, ?_,
    Label.faultSpan?_eq_none_iff, fun label ↦ Label.faultSpan?_eq_some_iff, fun label hlabel ↦ ?_,
    ?_, ?_⟩
  · exact List.inj_on_of_nodup_map hdistinct hother hdeclared (hsame.trans hname.symm)
  · exact hname ▸ hplaces.1.covers
  · rintro prerequisite rfl
    obtain ⟨item, hmem, htext⟩ := hitem prerequisite rfl
    obtain ⟨span, value⟩ := item
    obtain rfl : value = _ := htext
    have hread := (hplaces.2.prerequisiteItems _ hmem).text_in
    exact ⟨_, hmem, rfl, hread, hread.covers⟩
  · obtain ⟨form, hform, hstands⟩ := (Label.faultSpan?_eq_some_iff.1 hlabel).stands
    rcases Label.marked_of_mem_forms hform with hmarked | ⟨prerequisite, hfault, hmarked⟩
    · exact .inl (hmarked ▸ hstands.covers)
    · exact .inr ⟨prerequisite, hfault, hmarked ▸ hstands.covers⟩
  · exact forall_congr' fun label ↦ imp_congr_left Label.faultSpan?_eq_some_iff
  · intro honly label hlabel
    obtain ⟨form, hform, hstands⟩ := (Label.faultSpan?_eq_some_iff.1 hlabel).stands
    exact honly form hform label hstands

/-- What is on the offence in a document of one module, given the places that are computed for
it. -/
theorem isAt_iff_of_places (source : String) (fault : ModuleFault) (offences : List Span)
    (h : ((Toml.parse? source).map fun document ↦ document.modules.map fault.places) =
      some [offences]) :
    ∃ document, Toml.parse? source = some document ∧ ∀ declared ∈ document.modules,
      ∀ place, fault.IsAt declared place ↔ ∃ offence ∈ offences, place.Within offence := by
  obtain ⟨document, hdocument, hplaces⟩ := Option.map_eq_some_iff.1 h
  refine ⟨document, hdocument, fun declared hdeclared place ↦ ?_⟩
  have hmem : fault.places declared ∈ [offences] := hplaces ▸ List.mem_map_of_mem hdeclared
  rw [ModuleFault.IsAt, List.mem_singleton.1 hmem]

/-- A manifest in which a module is compiled against one that is missing. -/
def missingCore : String := "[modules.app]\nvariant = \"java\"\nupstream = [\"core\"]\n"

/-- The same with a missing module that has the name of a compiler. -/
def missingJava : String := "[modules.app]\nvariant = \"java\"\nupstream = [\"java\"]\n"

/-- A manifest with a comment about one of its modules. -/
def mentionedOld : String := "# see [modules.old]\n[modules.old]\nvariant = \"scala2\"\n"

/-- Where the name of a missing module is written nowhere else, the label is on the item. -/
theorem label_of_parse_missingCore :
    Manifest.parse missingCore =
        .error (.invalidModule "app" (.unknownPrerequisite "core") (some ⟨44, 4⟩)) ∧
      ∃ document, Toml.parse? missingCore = some document ∧
        ∃ declared ∈ document.modules, declared.1.value = "app" ∧
          (ModuleFault.unknownPrerequisite "core").IsAt declared ⟨44, 4⟩ := by
  have hparse : Manifest.parse missingCore =
      .error (.invalidModule "app" (.unknownPrerequisite "core") (some ⟨44, 4⟩)) := by
    decide +kernel
  obtain ⟨document, hdocument, declared, hdeclared, hname, -⟩ := label_of_parse hparse
  obtain ⟨_, hdocument', hplaces⟩ := isAt_iff_of_places missingCore
    (.unknownPrerequisite "core") [⟨43, 6⟩, ⟨9, 3⟩] (by decide +kernel)
  cases hdocument.symm.trans hdocument'
  exact ⟨hparse, document, hdocument, declared, hdeclared, hname,
    (hplaces declared hdeclared _).2 (by decide)⟩

/-- A label can be off the offence: it is on the value of another key where that is the name of the
missing module, and in a comment where a module is declared after it is mentioned. -/
theorem label_off_offence :
    (Manifest.parse missingJava =
        .error (.invalidModule "app" (.unknownPrerequisite "java") (some ⟨25, 4⟩)) ∧
      ∃ document, Toml.parse? missingJava = some document ∧
        ∀ declared ∈ document.modules,
          ¬(ModuleFault.unknownPrerequisite "java").IsAt declared ⟨25, 4⟩) ∧
    (Manifest.parse mentionedOld =
        .error (.invalidModule "old" .missingScalaVersion (some ⟨15, 3⟩)) ∧
      ∃ document, Toml.parse? mentionedOld = some document ∧
        ∀ declared ∈ document.modules, ¬ModuleFault.missingScalaVersion.IsAt declared ⟨15, 3⟩) := by
  obtain ⟨quoted, hquoted, hitem⟩ := isAt_iff_of_places missingJava
    (.unknownPrerequisite "java") [⟨43, 6⟩, ⟨9, 3⟩] (by decide +kernel)
  obtain ⟨mentioned, hmentioned, hheader⟩ := isAt_iff_of_places mentionedOld
    .missingScalaVersion [⟨29, 3⟩] (by decide +kernel)
  refine ⟨⟨by decide +kernel, quoted, hquoted, fun declared hdeclared ↦ ?_⟩,
    ⟨by decide +kernel, mentioned, hmentioned, fun declared hdeclared ↦ ?_⟩⟩
  · rw [hitem declared hdeclared]
    decide
  · rw [hheader declared hdeclared]
    decide

end Manifest

end WorkspaceIndex
