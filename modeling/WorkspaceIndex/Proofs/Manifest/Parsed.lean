import WorkspaceIndex.Manifest.Read
import WorkspaceIndex.Proofs.Manifest.BuildOrder
import WorkspaceIndex.Proofs.Toml.DistinctKeys
/-!
# Manifests that were read

The names of the modules of a manifest are the keys of one table, so they are distinct, and the
list passed validation, so it is in build order. The first comes out of the tree, in which no table
has two keys of one name, and the second rests on it.
-/

namespace WorkspaceIndex

namespace Schema

open WorkspaceIndex.Toml (Value Node Key Entries)

/-! ### Readings -/

section Readings

variable {α β : Type} {reading : Reading α} {b : β}

theorem map_eq_ok {f : α → β} : reading.map f = .ok b ↔ ∃ a, reading = .ok a ∧ f a = b := by
  rcases reading with misfit | a <;> simp [Except.map]

theorem bind_eq_ok {f : α → Reading β} :
    (reading >>= f) = .ok b ↔ ∃ a, reading = .ok a ∧ f a = .ok b := by
  rcases reading with misfit | a <;> simp [bind, Except.bind]

end Readings

/-! ### The keys of a section -/

section Sections

variable {α : Type} {fields : List (Field α)}

/-- What every field leaves true is true of a section that was read. -/
theorem readEntries_invariant {P : α → Prop} {entries : Entries}
    (hstep : ∀ entry ∈ entries, ∀ start next, P start →
      readEntry fields start entry = .ok next → P next) :
    ∀ {start last : α}, P start → readEntries fields start entries = .ok last → P last := by
  induction entries with
  | nil =>
    intro start last hstart h
    cases h
    exact hstart
  | cons entry entries ih =>
    intro start last hstart h
    rw [readEntries, List.foldlM_cons] at h
    obtain ⟨next, hfirst, hrest⟩ := bind_eq_ok.1 h
    have hnext : P next := hstep entry List.mem_cons_self start next hstart hfirst
    exact ih (fun other hother ↦ hstep other (List.mem_cons_of_mem _ hother)) hnext hrest

/-- A key that is read is the name of a field, which makes the change. -/
theorem readEntry_eq_ok {start next : α} {entry : Key × Node}
    (h : readEntry fields start entry = .ok next) :
    ∃ field ∈ fields, ∃ change, field.read entry.2 = .ok change ∧ next = change start := by
  unfold readEntry at h
  split at h
  · cases h
  · rename_i field hfield
    obtain ⟨change, hread, rfl⟩ := map_eq_ok.1 h
    exact ⟨field, List.mem_of_find?_eq_some hfield, change, hread, rfl⟩

theorem field_read_eq_ok {β : Type} {name : String} {read : Node → Reading β} {set : α → β → α}
    {node : Node} {change : α → α} (h : (field name read set).read node = .ok change) :
    ∃ value, read node = .ok value ∧ change = fun section_ ↦ set section_ value := by
  obtain ⟨value, hread, rfl⟩ := map_eq_ok.1 h
  exact ⟨value, hread, rfl⟩

end Sections

/-! ### Module names -/

theorem readNamedModule_fst {entry : Key × Node} {named : String × ModuleConfig}
    (h : readNamedModule entry = .ok named) : named.1 = entry.1.value := by
  obtain ⟨config, -, rfl⟩ := map_eq_ok.1 h
  rfl

/-- The modules of a table have its keys as their names. -/
theorem map_fst_of_mapM {entries : Entries} :
    ∀ {modules : List (String × ModuleConfig)}, entries.mapM readNamedModule = .ok modules →
      modules.map Prod.fst = entries.keys := by
  induction entries with
  | nil =>
    intro modules h
    cases h
    rfl
  | cons entry entries ih =>
    intro modules h
    rw [List.mapM_cons] at h
    obtain ⟨named, hfirst, h⟩ := bind_eq_ok.1 h
    obtain ⟨rest, hrest, h⟩ := bind_eq_ok.1 h
    cases h
    rw [List.map_cons, ih hrest, readNamedModule_fst hfirst]
    rfl

theorem nodup_of_readModules {node : Node} {modules : List (String × ModuleConfig)}
    (h : readModules node = .ok modules) (hnode : node.value.KeysDistinct) :
    (modules.map Prod.fst).Nodup := by
  unfold readModules at h
  split at h
  · rename_i origin entries hvalue
    rw [map_fst_of_mapM h]
    rw [hvalue] at hnode
    exact (Entries.keysDistinct_of_table hnode).nodup
  · cases h
  · cases h

/-- Only one of the sections of a manifest touches its modules. -/
theorem nodup_of_readManifest {document : Entries} {m : Manifest}
    (h : readManifest document = .ok m) (hdocument : document.KeysDistinct) :
    (m.modules.map Prod.fst).Nodup := by
  have hempty : (({} : Manifest).modules.map Prod.fst).Nodup := List.nodup_nil
  refine readEntries_invariant (P := fun m : Manifest ↦ (m.modules.map Prod.fst).Nodup)
    (fun entry hentry start next hstart hread ↦ ?_) hempty h
  obtain ⟨section_, hsection, change, hchange, rfl⟩ := readEntry_eq_ok hread
  simp only [manifestFields, List.mem_cons, List.not_mem_nil, or_false] at hsection
  -- the workspace and the tools leave the modules as they are
  rcases hsection with rfl | rfl | rfl
  · obtain ⟨workspace, -, rfl⟩ := field_read_eq_ok hchange
    exact hstart
  · obtain ⟨tools, -, rfl⟩ := field_read_eq_ok hchange
    exact hstart
  · obtain ⟨modules, hmodules, rfl⟩ := field_read_eq_ok hchange
    exact nodup_of_readModules hmodules (hdocument.values entry hentry)

end Schema

namespace Manifest

/-- **A manifest that was read has distinct modules in build order.** -/
theorem nodup_and_inBuildOrder_of_parse {source : String} {m : Manifest}
    (h : Manifest.parse source = .ok m) :
    (m.modules.map Prod.fst).Nodup ∧ InBuildOrder m.modules := by
  unfold Manifest.parse at h
  split at h
  · cases h
  · rename_i document hdocument
    split at h
    · split at h <;> cases h
    · rename_i manifest hmanifest
      split at h
      · cases h
      · rename_i hvalid
        cases h
        have distinct := Schema.nodup_of_readManifest hmanifest
          (Toml.parse?_keysDistinct hdocument)
        exact ⟨distinct, (firstFault?_eq_none_iff_inBuildOrder distinct).1
          (validate_eq_ok_iff.1 hvalid)⟩

end Manifest

end WorkspaceIndex
