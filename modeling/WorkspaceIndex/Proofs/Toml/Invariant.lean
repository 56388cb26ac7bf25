import WorkspaceIndex.Proofs.Toml.Cursor
/-!
# Invariants of trees

A document is put together key by key, and a property of trees holds of what comes out if it holds
of the keys and values as they are read and if tables keep it as they grow (`TreeInvariant`). That
it is kept on the way is the same for all such properties and is shown here once: the induction is
on the path for a change of a table and on the fuel for a value, and along with it goes that the
reader stays in the text (`Cursor.In`).
-/

namespace WorkspaceIndex.Toml

/-! ### Keys and the changes of a table -/

namespace Entries

/-- The names of the keys of a table. -/
def keys (entries : Entries) : List String := entries.map fun entry ↦ entry.1.value

variable {entries : Entries} {name : String} {node : Node}

theorem find?_eq_none_iff : entries.find? name = none ↔ name ∉ entries.keys := by
  simp [find?, keys]

theorem mem_of_find? (h : entries.find? name = some node) : ∃ key, (key, node) ∈ entries := by
  obtain ⟨⟨key, found⟩, hfound, rfl⟩ := Option.map_eq_some_iff.1 h
  exact ⟨key, List.mem_of_find?_eq_some hfound⟩

theorem keys_set : (entries.set name node).keys = entries.keys := by
  rw [keys, set, keys, List.map_map]
  refine List.map_congr_left fun entry _ ↦ ?_
  show (if entry.1.value = name then (entry.1, node) else entry).1.value = entry.1.value
  split <;> rfl

theorem notMem_keys_erase : name ∉ (entries.erase name).keys := by
  simp [keys, erase]

end Entries

/-! ### Values without parts -/

/-- A value that is no text and has no parts. -/
inductive Value.IsPlain : Value → Prop
  | integer (value : Int) : IsPlain (.integer value)
  | float (value : Binary64) : IsPlain (.float value)
  | boolean (value : Bool) : IsPlain (.boolean value)
  | datetime (text : String) : IsPlain (.datetime text)
  | oversized : IsPlain .oversized

theorem isPlain_of_float? {run : List Char} {value : Value} (h : float? run = some value) :
    value.IsPlain := by
  unfold float? at h
  split at h
  split at h
  · cases h
    exact .float _
  · split at h
    · cases h
      exact .float _
    · dsimp only at h
      split at h
      · cases h
      · obtain ⟨whole, -, h⟩ := Option.bind_eq_some_iff.1 h
        obtain ⟨fraction, -, h⟩ := Option.bind_eq_some_iff.1 h
        obtain ⟨exponent, -, h⟩ := Option.bind_eq_some_iff.1 h
        split at h
        · cases h
          exact .oversized
        · cases h
          exact .float _

theorem isPlain_of_scalar? {run : List Char} {value : Value} (h : scalar? run = some value) :
    value.IsPlain := by
  unfold scalar? at h
  split at h
  · cases h
    exact .boolean true
  · split at h
    · cases h
      exact .boolean false
    · rw [Option.orElse_eq_or, Option.orElse_eq_or] at h
      rcases Option.or_eq_some_iff.1 h with h | ⟨-, h⟩
      · obtain ⟨n, -, rfl⟩ := Option.map_eq_some_iff.1 h
        unfold Value.ofInt
        split
        · exact .integer n
        · exact .oversized
      · rcases Option.or_eq_some_iff.1 h with h | ⟨-, h⟩
        · exact isPlain_of_float? h
        · obtain ⟨text, -, rfl⟩ := Option.map_eq_some_iff.1 h
          exact .datetime _

theorem isPlain_of_scalarAt? {c after : Cursor} {value : Value}
    (h : scalarAt? c = some (value, after)) : value.IsPlain := by
  obtain ⟨found, hfound, h⟩ := Option.bind_eq_some_iff.1 h
  cases h
  exact isPlain_of_scalar? hfound

/-! ### What reading keeps -/

/-- A property of keys, of values and of tables that holds of what is read out of a text, and that
tables keep as keys and values are added to them. -/
structure TreeInvariant (source : List Char) (K : Key → Prop) (N : Node → Prop)
    (E : Entries → Prop) : Prop where
  key {c after : Cursor} {key : Key} : c.In source → simpleKey? c = some (key, after) → K key
  string {c after : Cursor} {text : String} :
    c.In source → string? c = some (.string text, after) → N ⟨c.spanTo after, .string text⟩
  plain {value : Value} (span : Span) : value.IsPlain → N ⟨span, value⟩
  array_iff {span : Span} {ofTables : Bool} {items : List Node} :
    N ⟨span, .array ofTables items⟩ ↔ ∀ item ∈ items, N item
  table_iff {span : Span} {origin : TableOrigin} {entries : Entries} :
    N ⟨span, .table origin entries⟩ ↔ E entries
  nil : E []
  append {entries : Entries} {key : Key} {node : Node} :
    E entries → key.value ∉ entries.keys → K key → N node → E (entries ++ [(key, node)])
  set {entries : Entries} (name : String) {node : Node} :
    E entries → N node → E (entries.set name node)
  erase {entries : Entries} (name : String) : E entries → E (entries.erase name)
  find {entries : Entries} {name : String} {node : Node} :
    E entries → entries.find? name = some node → N node

namespace TreeInvariant

variable {source : List Char} {K : Key → Prop} {N : Node → Prop} {E : Entries → Prop}
  (inv : TreeInvariant source K N E)

/-! ### Adding to a table -/

/-- A change of a table that keeps a property of tables. -/
def Kept (E : Entries → Prop) (change : Entries → Option Entries) : Prop :=
  ∀ entries changed, change entries = some changed → E entries → E changed

include inv

theorem changeLast {change : Entries → Option Entries} (hchange : Kept E change)
    {items changed : List Node} (h : changeLast change items = some changed)
    (hitems : ∀ item ∈ items, N item) : ∀ item ∈ changed, N item := by
  unfold Toml.changeLast at h
  split at h
  · rename_i span origin entries hlast
    obtain ⟨inner, hinner, rfl⟩ := Option.map_eq_some_iff.1 h
    have hentries : E entries := inv.table_iff.1 (hitems _ (List.mem_of_getLast? hlast))
    intro item hitem
    rcases List.mem_append.1 hitem with hitem | hitem
    · exact hitems item (List.dropLast_subset items hitem)
    · rw [List.mem_singleton.1 hitem]
      exact inv.table_iff.2 (hchange entries inner hinner hentries)
  · cases h

theorem kept_changeAt {change : Entries → Option Entries} (hchange : Kept E change) :
    ∀ keys : List Key, (∀ key ∈ keys, K key) → Kept E (changeAt change keys) := by
  intro keys
  induction keys with
  | nil => exact fun _ ↦ hchange
  | cons key keys ih =>
    intro hkeys entries changed h hentries
    have hkey := hkeys key List.mem_cons_self
    replace ih := ih fun other hother ↦ hkeys other (List.mem_cons_of_mem _ hother)
    unfold changeAt at h
    split at h
    · rename_i hnone
      obtain ⟨inner, hinner, rfl⟩ := Option.map_eq_some_iff.1 h
      exact inv.append hentries (Entries.find?_eq_none_iff.1 hnone) hkey
        (inv.table_iff.2 (ih [] inner hinner inv.nil))
    · rename_i span origin inner hfound
      split at h
      · cases h
      · obtain ⟨new, hnew, rfl⟩ := Option.map_eq_some_iff.1 h
        have hinner := inv.table_iff.1 (inv.find hentries hfound)
        exact inv.set _ hentries (inv.table_iff.2 (ih inner new hnew hinner))
    · rename_i span items hfound
      obtain ⟨new, hnew, rfl⟩ := Option.map_eq_some_iff.1 h
      have hitems := inv.array_iff.1 (inv.find hentries hfound)
      exact inv.set _ hentries (inv.array_iff.2 (inv.changeLast ih hnew hitems))
    · cases h

theorem kept_openTable {key : Key} (hkey : K key) (span : Span) : Kept E (openTable key span) := by
  intro entries changed h hentries
  unfold openTable at h
  split at h
  · rename_i hnone
    cases h
    exact inv.append hentries (Entries.find?_eq_none_iff.1 hnone) hkey (inv.table_iff.2 inv.nil)
  · rename_i place inner hfound
    cases h
    have hinner := inv.table_iff.1 (inv.find hentries hfound)
    exact inv.append (inv.erase _ hentries) Entries.notMem_keys_erase hkey (inv.table_iff.2 hinner)
  · cases h

theorem kept_openElement {key : Key} (hkey : K key) (span : Span) :
    Kept E (openElement key span) := by
  intro entries changed h hentries
  have hempty : N ⟨span, .table .header []⟩ := inv.table_iff.2 inv.nil
  unfold openElement at h
  split at h
  · rename_i hnone
    cases h
    exact inv.append hentries (Entries.find?_eq_none_iff.1 hnone) hkey
      (inv.array_iff.2 (by simpa using hempty))
  · rename_i first items hfound
    cases h
    have hitems := inv.array_iff.1 (inv.find hentries hfound)
    refine inv.set _ hentries (inv.array_iff.2 fun item hitem ↦ ?_)
    rcases List.mem_append.1 hitem with hitem | hitem
    · exact hitems item hitem
    · rw [List.mem_singleton.1 hitem]
      exact hempty
  · cases h

theorem kept_assign {value : Node} (hvalue : N value) :
    ∀ keys : List Key, (∀ key ∈ keys, K key) → Kept E (assign value keys) := by
  intro keys
  induction keys with
  | nil =>
    intro _ entries changed h
    cases h
  | cons key keys ih =>
    intro hkeys entries changed h hentries
    have hkey := hkeys key List.mem_cons_self
    replace ih := ih fun other hother ↦ hkeys other (List.mem_cons_of_mem _ hother)
    -- the last part of a key is where the value goes, and there it has to be new
    rcases keys with - | ⟨next, keys⟩
    · rw [assign] at h
      split at h
      · cases h
      · rename_i hnone
        cases h
        rw [Option.not_isSome_iff_eq_none] at hnone
        exact inv.append hentries (Entries.find?_eq_none_iff.1 hnone) hkey hvalue
    · rw [assign] at h
      · split at h
        · rename_i hnone
          obtain ⟨inner, hinner, rfl⟩ := Option.map_eq_some_iff.1 h
          exact inv.append hentries (Entries.find?_eq_none_iff.1 hnone) hkey
            (inv.table_iff.2 (ih [] inner hinner inv.nil))
        · rename_i span origin inner hfound
          split at h
          · obtain ⟨new, hnew, rfl⟩ := Option.map_eq_some_iff.1 h
            have hinner := inv.table_iff.1 (inv.find hentries hfound)
            exact inv.set _ hentries (inv.table_iff.2 (ih inner new hnew hinner))
          · cases h
        · rename_i span items hfound
          split at h
          · obtain ⟨new, hnew, rfl⟩ := Option.map_eq_some_iff.1 h
            have hitems := inv.array_iff.1 (inv.find hentries hfound)
            exact inv.set _ hentries (inv.array_iff.2 (inv.changeLast ih hnew hitems))
          · cases h
        · cases h
      · simp

/-! ### Keys and values -/

theorem dottedKey : ∀ {fuel : Nat} {c after : Cursor} {keys : List Key},
    dottedKey? fuel c = some (keys, after) → c.In source →
      (∀ key ∈ keys, K key) ∧ after.In source := by
  intro fuel
  induction fuel with
  | zero => exact fun h ↦ by cases h
  | succ fuel ih =>
    intro c after keys h hc
    obtain ⟨⟨key, next⟩, hkey, h⟩ := Option.bind_eq_some_iff.1 h
    obtain ⟨written, hpasses, -, -⟩ := simpleKey?_eq_some hkey
    have hfirst : K key := inv.key hc hkey
    have hnext : next.In source := hc.passes hpasses
    dsimp only at h
    split at h
    · rename_i rest hdot
      obtain ⟨⟨others, last⟩, hothers, h⟩ := Option.bind_eq_some_iff.1 h
      cases h
      obtain ⟨hrest, hlast⟩ := ih hothers (hnext.skipSpaces.skip_one hdot (by decide)).skipSpaces
      exact ⟨List.forall_mem_cons.2 ⟨hfirst, hrest⟩, hlast⟩
    · cases h
      exact ⟨List.forall_mem_singleton.2 hfirst, hnext⟩

/-- What is read as a value, with some fuel, has a property, and the reader is in the text after
it. -/
def Reads (source : List Char) (N : Node → Prop) (fuel : Nat) : Prop :=
  ∀ depth c node after, value? fuel depth c = some (node, after) → c.In source →
    N node ∧ after.In source

/-- So it is for the arrays that go on from elements with the property. -/
def ReadsItems (source : List Char) (N : Node → Prop) (fuel : Nat) : Prop :=
  ∀ depth items c value after, arrayItems? fuel depth items c = some (value, after) →
    c.In source → (∀ item ∈ items, N item) → (∀ span, N ⟨span, value⟩) ∧ after.In source

/-- And for the tables that go on from entries with a property of tables. -/
def ReadsEntries (source : List Char) (N : Node → Prop) (E : Entries → Prop) (fuel : Nat) : Prop :=
  ∀ depth entries c value after, inlineEntries? fuel depth entries c = some (value, after) →
    c.In source → E entries → (∀ span, N ⟨span, value⟩) ∧ after.In source

theorem reads_succ {fuel : Nat} (hitems : ReadsItems source N fuel)
    (hentries : ReadsEntries source N E fuel) : Reads source N (fuel + 1) := by
  intro depth c node after h hc
  have hplace : ∀ read : Option (Value × Cursor),
      (read.bind fun r ↦ some (⟨c.spanTo r.2, r.1⟩, r.2)) = some (node, after) →
        read = some (node.value, after) ∧ node = ⟨c.spanTo after, node.value⟩ := by
    intro read hread
    obtain ⟨⟨value, next⟩, rfl, hread⟩ := Option.bind_eq_some_iff.1 hread
    cases hread
    exact ⟨rfl, rfl⟩
  have hstring (hread : string? c = some (node.value, after)) :
      N ⟨c.spanTo after, node.value⟩ ∧ after.In source := by
    obtain ⟨text, written, htext, -, hpasses⟩ := string?_eq_some hread
    rw [htext] at hread ⊢
    exact ⟨inv.string hc hread, hc.passes hpasses⟩
  unfold value? at h
  split at h <;> obtain ⟨hread, hnode⟩ := hplace _ h <;> rw [hnode]
  · exact hstring hread
  · exact hstring hread
  · rename_i hrest
    obtain ⟨hvalue, hafter⟩ :=
      hitems _ _ _ _ _ hread (hc.skip_one hrest (by decide)).skipFiller (by simp)
    exact ⟨hvalue _, hafter⟩
  · rename_i hrest
    obtain ⟨hvalue, hafter⟩ :=
      hentries _ _ _ _ _ hread (hc.skip_one hrest (by decide)).skipFiller inv.nil
    exact ⟨hvalue _, hafter⟩
  · exact ⟨inv.plain _ (isPlain_of_scalarAt? hread), hc.scalarAt? hread⟩

theorem readsItems_succ {fuel : Nat} (hvalue : Reads source N fuel)
    (hitems : ReadsItems source N fuel) : ReadsItems source N (fuel + 1) := by
  intro depth items c value after h hc hbefore
  rw [arrayItems?] at h
  split at h
  · rename_i hrest
    cases h
    exact ⟨fun span ↦ inv.array_iff.2 hbefore, hc.skip_one hrest (by decide)⟩
  · obtain ⟨⟨item, next⟩, hitem, h⟩ := Option.bind_eq_some_iff.1 h
    obtain ⟨hnew, hnext⟩ := hvalue depth c item next hitem hc
    have hall : ∀ i ∈ items ++ [item], N i :=
      List.forall_mem_append.2 ⟨hbefore, List.forall_mem_singleton.2 hnew⟩
    dsimp only at h
    split at h <;> rename_i hrest
    · exact hitems _ _ _ _ _ h (hnext.skipFiller.skip_one hrest (by decide)).skipFiller hall
    · cases h
      exact ⟨fun span ↦ inv.array_iff.2 hall, hnext.skipFiller.skip_one hrest (by decide)⟩
    · cases h

theorem readsEntries_succ {fuel : Nat} (hvalue : Reads source N fuel)
    (hentries : ReadsEntries source N E fuel) : ReadsEntries source N E (fuel + 1) := by
  intro depth entries c value after h hc hbefore
  rw [inlineEntries?] at h
  split at h
  · rename_i hrest
    cases h
    exact ⟨fun span ↦ inv.table_iff.2 hbefore, hc.skip_one hrest (by decide)⟩
  · obtain ⟨⟨keys, next⟩, hkeys, h⟩ := Option.bind_eq_some_iff.1 h
    obtain ⟨hpath, hnext⟩ := inv.dottedKey hkeys hc
    dsimp only at h
    split at h
    · rename_i hequals
      obtain ⟨⟨node, behind⟩, hnode, h⟩ := Option.bind_eq_some_iff.1 h
      obtain ⟨more, hmore, h⟩ := Option.bind_eq_some_iff.1 h
      obtain ⟨hnew, hbehind⟩ := hvalue depth _ node behind hnode
        (hnext.skipSpaces.skip_one hequals (by decide)).skipSpaces
      have hall : E more := inv.kept_assign hnew keys hpath entries more hmore hbefore
      dsimp only at h
      split at h <;> rename_i hrest
      · exact hentries _ _ _ _ _ h (hbehind.skipFiller.skip_one hrest (by decide)).skipFiller hall
      · cases h
        exact ⟨fun span ↦ inv.table_iff.2 hall, hbehind.skipFiller.skip_one hrest (by decide)⟩
      · cases h
    · cases h

/-- **What is read as a value has the property.** The three readers call one another with less fuel,
so one induction carries all of them. -/
theorem reads (fuel : Nat) :
    Reads source N fuel ∧ ReadsItems source N fuel ∧ ReadsEntries source N E fuel := by
  induction fuel with
  | zero =>
    refine ⟨fun depth c node after h ↦ ?_, fun depth items c value after h ↦ ?_,
      fun depth entries c value after h ↦ ?_⟩ <;> cases h
  | succ fuel ih =>
    obtain ⟨hvalue, hitems, hentries⟩ := ih
    exact ⟨inv.reads_succ hitems hentries, inv.readsItems_succ hvalue hitems,
      inv.readsEntries_succ hvalue hentries⟩

/-! ### Documents -/

theorem expression {draft draft' : Draft} {c after : Cursor}
    (h : expression? draft c = some (draft', after)) (hc : c.In source)
    (hcurrent : ∀ key ∈ draft.current, K key) (hdraft : E draft.entries) :
    E draft'.entries ∧ (∀ key ∈ draft'.current, K key) ∧ after.In source := by
  unfold expression? at h
  split at h
  · rename_i rest hrest
    have hinside : (c.skip 2).skipSpaces.In source :=
      (hc.passes (Cursor.passes_skip ['[', '['] hrest (by decide))).skipSpaces
    obtain ⟨⟨keys, last⟩, hkeys, h⟩ := Option.bind_eq_some_iff.1 h
    obtain ⟨hall, hlast⟩ := inv.dottedKey hkeys hinside
    dsimp only at h
    split at h
    · rename_i rest' hclose
      obtain ⟨key, hkey, h⟩ := Option.bind_eq_some_iff.1 h
      obtain ⟨entries, hentries, h⟩ := Option.bind_eq_some_iff.1 h
      cases h
      exact ⟨inv.kept_changeAt (inv.kept_openElement (hall key (List.mem_of_getLast? hkey)) _) _
        (fun key hkey ↦ hall key (List.dropLast_subset _ hkey)) _ _ hentries hdraft, hall,
        hlast.skipSpaces.passes (Cursor.passes_skip [']', ']'] hclose (by decide))⟩
    · cases h
  · rename_i rest _ hrest
    have hinside : (c.skip 1).skipSpaces.In source := (hc.skip_one hrest (by decide)).skipSpaces
    obtain ⟨⟨keys, last⟩, hkeys, h⟩ := Option.bind_eq_some_iff.1 h
    obtain ⟨hall, hlast⟩ := inv.dottedKey hkeys hinside
    dsimp only at h
    split at h
    · rename_i rest' hclose
      obtain ⟨key, hkey, h⟩ := Option.bind_eq_some_iff.1 h
      obtain ⟨entries, hentries, h⟩ := Option.bind_eq_some_iff.1 h
      cases h
      exact ⟨inv.kept_changeAt (inv.kept_openTable (hall key (List.mem_of_getLast? hkey)) _) _
        (fun key hkey ↦ hall key (List.dropLast_subset _ hkey)) _ _ hentries hdraft, hall,
        hlast.skipSpaces.skip_one hclose (by decide)⟩
    · cases h
  · obtain ⟨⟨keys, last⟩, hkeys, h⟩ := Option.bind_eq_some_iff.1 h
    obtain ⟨hall, hlast⟩ := inv.dottedKey hkeys hc
    dsimp only at h
    split at h
    · rename_i rest hequals
      obtain ⟨⟨node, next⟩, hnode, h⟩ := Option.bind_eq_some_iff.1 h
      obtain ⟨entries, hentries, h⟩ := Option.bind_eq_some_iff.1 h
      cases h
      obtain ⟨hvalue, hafter⟩ := (inv.reads _).1 _ _ node _ hnode
        (hlast.skipSpaces.skip_one hequals (by decide)).skipSpaces
      exact ⟨inv.kept_changeAt (inv.kept_assign hvalue keys hall) _ hcurrent _ _ hentries hdraft,
        hcurrent, hafter⟩
    · cases h

theorem expressions : ∀ {fuel : Nat} {draft draft' : Draft} {c : Cursor},
    expressions? fuel draft c = some draft' → c.In source →
      (∀ key ∈ draft.current, K key) → E draft.entries → E draft'.entries := by
  intro fuel
  induction fuel with
  | zero => exact fun h ↦ by cases h
  | succ fuel ih =>
    intro draft draft' c h hc hcurrent hdraft
    replace hc := hc.skipSpaces
    unfold expressions? at h
    dsimp only at h
    split at h
    · cases h
      exact hdraft
    · split at h
      · rename_i next hnext
        exact ih h (hc.nextLine? hnext) hcurrent hdraft
      · obtain ⟨⟨changed, after⟩, hchanged, h⟩ := Option.bind_eq_some_iff.1 h
        obtain ⟨line, hline, h⟩ := Option.bind_eq_some_iff.1 h
        obtain ⟨hentries, hkeys, hafter⟩ := inv.expression hchanged hc hcurrent hdraft
        exact ih h (hafter.nextLine? hline) hkeys hentries

end TreeInvariant

/-- **A document that was read has every property that reading keeps.** -/
theorem TreeInvariant.parse {source : String} {K : Key → Prop} {N : Node → Prop}
    {E : Entries → Prop} (inv : TreeInvariant source.toList K N E) {document : Entries}
    (h : parse? source = some document) : E document := by
  obtain ⟨draft, hdraft, h⟩ := Option.bind_eq_some_iff.1 h
  cases h
  exact inv.expressions hdraft (Cursor.in_start _) (by simp) inv.nil

end WorkspaceIndex.Toml
