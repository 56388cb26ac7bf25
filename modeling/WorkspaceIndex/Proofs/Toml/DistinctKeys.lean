import Mathlib.Data.List.Nodup
import WorkspaceIndex.Proofs.Toml.Invariant
/-!
# Tables with distinct keys

A document that is read says nothing twice. The tree that comes out of reading has no table with two
keys of one name, at any depth, and this is what lets a key stand for its value later on.

The invariant is kept by every change of a tree: a key is only added where it was looked for and not
found, and a change in the middle of a path replaces one value by another that has the property
again.
-/

namespace WorkspaceIndex.Toml

/-- Every table inside a value has distinct keys. -/
inductive Value.KeysDistinct : Value → Prop
  | string (text : String) : KeysDistinct (.string text)
  | integer (value : Int) : KeysDistinct (.integer value)
  | float (value : Binary64) : KeysDistinct (.float value)
  | boolean (value : Bool) : KeysDistinct (.boolean value)
  | datetime (text : String) : KeysDistinct (.datetime text)
  | oversized : KeysDistinct .oversized
  | array {ofTables : Bool} {items : List Node}
      (items_distinct : ∀ item ∈ items, KeysDistinct item.value) :
      KeysDistinct (.array ofTables items)
  | table {origin : TableOrigin} {entries : Entries}
      (nodup : (entries.map fun entry ↦ entry.1.value).Nodup)
      (values_distinct : ∀ entry ∈ entries, KeysDistinct entry.2.value) :
      KeysDistinct (.table origin entries)

namespace Entries

/-- A table with distinct keys, whose values are made of such tables. -/
structure KeysDistinct (entries : Entries) : Prop where
  nodup : entries.keys.Nodup
  values : ∀ entry ∈ entries, entry.2.value.KeysDistinct

theorem keysDistinct_nil : KeysDistinct [] := ⟨List.nodup_nil, by simp⟩

theorem KeysDistinct.table {entries : Entries} (h : entries.KeysDistinct) (origin : TableOrigin) :
    (Value.table origin entries).KeysDistinct :=
  .table h.nodup h.values

theorem keysDistinct_of_table {entries : Entries} {origin : TableOrigin}
    (h : (Value.table origin entries).KeysDistinct) : entries.KeysDistinct := by
  cases h with
  | table nodup values => exact ⟨nodup, values⟩

/-! ### The changes of a table -/

section Changes

variable {entries : Entries} {name : String} {key : Key} {node : Node}

theorem KeysDistinct.find? (h : entries.KeysDistinct) (hfound : entries.find? name = some node) :
    node.value.KeysDistinct := by
  obtain ⟨key, hmem⟩ := mem_of_find? hfound
  exact h.values (key, node) hmem

theorem KeysDistinct.append (h : entries.KeysDistinct) (hnew : key.value ∉ entries.keys)
    (hnode : node.value.KeysDistinct) : KeysDistinct (entries ++ [(key, node)]) := by
  refine ⟨?_, fun entry hentry ↦ ?_⟩
  · rw [keys, List.map_append]
    exact List.Nodup.append h.nodup (List.nodup_singleton _)
      (List.disjoint_singleton.2 hnew)
  · rcases List.mem_append.1 hentry with hentry | hentry
    · exact h.values entry hentry
    · rw [List.mem_singleton.1 hentry]
      exact hnode

theorem KeysDistinct.set (h : entries.KeysDistinct) (hnode : node.value.KeysDistinct) :
    (entries.set name node).KeysDistinct := by
  refine ⟨by rw [keys_set]; exact h.nodup, fun entry hentry ↦ ?_⟩
  obtain ⟨before, hbefore, rfl⟩ := List.mem_map.1 hentry
  by_cases hname : before.1.value = name
  · rw [if_pos hname]
    exact hnode
  · rw [if_neg hname]
    exact h.values before hbefore

theorem KeysDistinct.erase (h : entries.KeysDistinct) : (entries.erase name).KeysDistinct :=
  ⟨h.nodup.sublist (List.filter_sublist.map _),
    fun entry hentry ↦ h.values entry (List.mem_of_mem_filter hentry)⟩

end Changes

end Entries

theorem Value.IsPlain.keysDistinct {value : Value} (h : value.IsPlain) : value.KeysDistinct := by
  cases h with
  | integer n => exact .integer n
  | float f => exact .float f
  | boolean b => exact .boolean b
  | datetime text => exact .datetime text
  | oversized => exact .oversized

/-! ### Documents -/

theorem keysDistinct_invariant (source : List Char) :
    TreeInvariant source (fun _ ↦ True) (fun node ↦ node.value.KeysDistinct)
      Entries.KeysDistinct where
  key := fun _ _ ↦ trivial
  string := fun _ _ ↦ .string _
  plain := fun _ ↦ Value.IsPlain.keysDistinct
  array_iff := ⟨fun h ↦ by cases h with | array hitems => exact hitems, .array⟩
  table_iff := ⟨Entries.keysDistinct_of_table, fun h ↦ h.table _⟩
  nil := Entries.keysDistinct_nil
  append := fun hentries hnew _ ↦ hentries.append hnew
  set := fun _ _ ↦ Entries.KeysDistinct.set
  erase := fun _ ↦ Entries.KeysDistinct.erase
  find := Entries.KeysDistinct.find?

/-- **No table of a document has two keys of one name.** -/
theorem parse?_keysDistinct {source : String} {document : Entries}
    (h : parse? source = some document) : document.KeysDistinct :=
  (keysDistinct_invariant source.toList).parse h

end WorkspaceIndex.Toml
