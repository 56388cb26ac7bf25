import WorkspaceIndex.Proofs.Toml.Invariant
/-!
# Where keys and texts were written

The ranges in the tree of a document are places of its text: at the range of a key the reader of
keys reads that key, and at the range of a text the reader of strings reads that text. So a key
stands in the document as it is or between quotes, and a text between quotes.

Nothing is said of the ranges of tables and arrays, as some of them are only on the way to another.
-/

namespace WorkspaceIndex.Toml

variable {source : List Char}

/-- A key is what is read at its place. -/
def KeyIn (source : List Char) (key : Key) : Prop :=
  ∃ c later, c.In source ∧ simpleKey? c = some (key, later)

/-- A text is what is read at a range. -/
def TextIn (source : List Char) (place : Span) (text : String) : Prop :=
  ∃ c later, c.In source ∧ string? c = some (.string text, later) ∧ place = c.spanTo later

/-- All keys and texts in a value are what is read at their places. -/
inductive NodeIn (source : List Char) : Node → Prop
  | text {place : Span} {text : String} (read : TextIn source place text) :
    NodeIn source ⟨place, .string text⟩
  | plain {place : Span} {value : Value} (plain : value.IsPlain) : NodeIn source ⟨place, value⟩
  | array {place : Span} {ofTables : Bool} {items : List Node}
    (items_in : ∀ item ∈ items, NodeIn source item) : NodeIn source ⟨place, .array ofTables items⟩
  | table {place : Span} {origin : TableOrigin} {entries : Entries}
    (keys_in : ∀ entry ∈ entries, KeyIn source entry.1)
    (values_in : ∀ entry ∈ entries, NodeIn source entry.2) :
    NodeIn source ⟨place, .table origin entries⟩

/-- All keys and texts in a table are what is read at their places. -/
def Entries.In (source : List Char) (entries : Entries) : Prop :=
  ∀ entry ∈ entries, KeyIn source entry.1 ∧ NodeIn source entry.2

/-! ### What stands at a place -/

theorem KeyIn.covers {key : Key} (h : KeyIn source key) :
    ∃ written, key.span.Covers source written ∧ WritesKey written key.value.toList := by
  obtain ⟨c, later, hc, hread⟩ := h
  obtain ⟨written, hpasses, hspan, hwrites⟩ := simpleKey?_eq_some hread
  exact ⟨written, hspan ▸ hpasses.covers hc, hwrites⟩

theorem TextIn.covers {place : Span} {text : String} (h : TextIn source place text) :
    ∃ written, place.Covers source written ∧ Quoted written := by
  obtain ⟨c, later, hc, hread, rfl⟩ := h
  obtain ⟨_, written, -, hquoted, hpasses⟩ := string?_eq_some hread
  exact ⟨written, hpasses.covers hc, hquoted⟩

theorem NodeIn.text_in {place : Span} {text : String} (h : NodeIn source ⟨place, .string text⟩) :
    TextIn source place text := by
  cases h with
  | text read => exact read
  | plain plain => cases plain

theorem nodeIn_array_iff {place : Span} {ofTables : Bool} {items : List Node} :
    NodeIn source ⟨place, .array ofTables items⟩ ↔ ∀ item ∈ items, NodeIn source item := by
  refine ⟨fun h ↦ ?_, .array⟩
  cases h with
  | array items_in => exact items_in
  | plain plain => cases plain

theorem nodeIn_table_iff {place : Span} {origin : TableOrigin} {entries : Entries} :
    NodeIn source ⟨place, .table origin entries⟩ ↔ entries.In source := by
  refine ⟨fun h ↦ ?_, fun h ↦ .table (fun entry hentry ↦ (h entry hentry).1)
    fun entry hentry ↦ (h entry hentry).2⟩
  cases h with
  | table keys_in values_in =>
    exact fun entry hentry ↦ ⟨keys_in entry hentry, values_in entry hentry⟩
  | plain plain => cases plain

/-! ### Documents -/

theorem Entries.In.find? {entries : Entries} {name : String} {node : Node} (h : entries.In source)
    (hfound : entries.find? name = some node) : NodeIn source node := by
  obtain ⟨key, hmem⟩ := mem_of_find? hfound
  exact (h (key, node) hmem).2

theorem Entries.In.set {entries : Entries} {name : String} {node : Node} (h : entries.In source)
    (hnode : NodeIn source node) : (entries.set name node).In source := by
  intro entry hentry
  obtain ⟨before, hbefore, rfl⟩ := List.mem_map.1 hentry
  obtain ⟨hkey, hvalue⟩ := h before hbefore
  by_cases hname : before.1.value = name
  · rw [if_pos hname]
    exact ⟨hkey, hnode⟩
  · rw [if_neg hname]
    exact ⟨hkey, hvalue⟩

theorem places_invariant (source : List Char) :
    TreeInvariant source (KeyIn source) (NodeIn source) (Entries.In source) where
  key := fun hc hread ↦ ⟨_, _, hc, hread⟩
  string := fun hc hread ↦ .text ⟨_, _, hc, hread, rfl⟩
  plain := fun _ ↦ .plain
  array_iff := nodeIn_array_iff
  table_iff := nodeIn_table_iff
  nil := fun _ hentry ↦ absurd hentry List.not_mem_nil
  append := fun hentries _ hkey hnode ↦
    List.forall_mem_append.2 ⟨hentries, List.forall_mem_singleton.2 ⟨hkey, hnode⟩⟩
  set := fun _ ↦ Entries.In.set
  erase := fun _ hentries entry hentry ↦ hentries entry (List.mem_of_mem_filter hentry)
  find := Entries.In.find?

/-- **Keys and texts are what stands in a document at their ranges.** -/
theorem parse?_in {source : String} {document : Entries} (h : parse? source = some document) :
    document.In source.toList :=
  (places_invariant source.toList).parse h

end WorkspaceIndex.Toml
