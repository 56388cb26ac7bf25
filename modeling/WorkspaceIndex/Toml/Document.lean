import WorkspaceIndex.Toml.Scalar
import WorkspaceIndex.Text.Cut
/-!
# Reading a document

A document is a row of expressions, one a line: a key with its value, the header of a table, or the
header of an element of an array of tables. Each is put into the tree as it is read, and one that
says something a second time is refused:

* a header opens a table that is new, or one that was only on the way to the table of another
  header and now moves behind its neighbours;
* a dotted key passes through tables that were only on the way and through the last elements of
  arrays of tables, and ends in a table that is new or was made by dotted keys;
* nothing is added to a table between braces or to an array between brackets.

Neither keys nor values go deeper than a fixed number of levels.

A document that the grammar refuses has no tree. Where and why it was refused is not recorded.
-/

namespace WorkspaceIndex.Toml

open WorkspaceIndex.Text (byteLength)

/-- What remains to be read, and the number of bytes before it. -/
structure Cursor where
  rest : List Char
  offset : Nat

namespace Cursor

/-- The cursor moved forward to `rest`, which is the end of what remained. -/
def moveTo (c : Cursor) (rest : List Char) : Cursor :=
  ⟨rest, c.offset + byteLength (c.rest.take (c.rest.length - rest.length))⟩

/-- The cursor moved past a number of ASCII characters. -/
def skip (c : Cursor) (count : Nat) : Cursor := ⟨c.rest.drop count, c.offset + count⟩

/-- The range from one cursor to a later one. -/
def spanTo (c later : Cursor) : Span := ⟨c.offset, later.offset - c.offset⟩

/-- The cursor moved past the spaces of a line. -/
def skipSpaces (c : Cursor) : Cursor := c.moveTo (c.rest.dropWhile isSpace)

end Cursor

/-! ### Between the words -/

/-- What remains after spaces, line ends and comments; `comment` says that one is being read. -/
def dropFiller (comment : Bool) : List Char → List Char
  | [] => []
  | '\n' :: rest => dropFiller false rest
  | '\r' :: '\n' :: rest => dropFiller false rest
  | c :: rest =>
    if comment then (if isTextChar c then dropFiller true rest else c :: rest)
    else if isSpace c then dropFiller false rest
    else if c = '#' then dropFiller true rest
    else c :: rest

/-- The cursor moved past spaces, line ends and comments. -/
def Cursor.skipFiller (c : Cursor) : Cursor := c.moveTo (dropFiller false c.rest)

/-- The cursor at the next line, if nothing but spaces and a comment is left on this one. -/
def Cursor.nextLine? (c : Cursor) : Option Cursor :=
  let s := c.rest.dropWhile isSpace
  let s := match s with
    | '#' :: comment => comment.dropWhile isTextChar
    | s => s
  match s with
  | [] => some (c.moveTo [])
  | '\n' :: rest => some (c.moveTo rest)
  | '\r' :: '\n' :: rest => some (c.moveTo rest)
  | _ => none

/-! ### Keys -/

/-- A key without dots. -/
def simpleKey? (c : Cursor) : Option (Key × Cursor) := do
  let (name, rest) ← match c.rest with
    | '"' :: s => basicString s
    | '\'' :: s => literalString s
    | s =>
      let (name, rest) := s.span isBareKeyChar
      if name.isEmpty then none else some (name, rest)
  let after := c.moveTo rest
  some (⟨c.spanTo after, String.ofList name⟩, after)

/-- The number of parts that a key may have, and of brackets and braces that may stand around a
value. -/
def maxDepth : Nat := 80

/-- The parts of a key with dots between them, up to a number of them. -/
def dottedKey? : Nat → Cursor → Option (List Key × Cursor)
  | 0, _ => none
  | fuel + 1, c => do
    let (key, c) ← simpleKey? c
    match c.skipSpaces.rest with
    | '.' :: _ =>
      let (keys, c) ← dottedKey? fuel (c.skipSpaces.skip 1).skipSpaces
      some (key :: keys, c)
    | _ => some ([key], c)

/-! ### Adding to a table -/

/-- Changes the entries of the last element of an array of tables. -/
def changeLast (change : Entries → Option Entries) (items : List Node) : Option (List Node) :=
  match items.getLast? with
  | some ⟨span, .table origin entries⟩ =>
    (change entries).map fun entries ↦ items.dropLast ++ [⟨span, .table origin entries⟩]
  | _ => none

/-- Changes the entries of the table at the end of a path of header keys. Tables missing on the way
are made, and an array of tables stands for its last element. -/
def changeAt (change : Entries → Option Entries) : List Key → Entries → Option Entries
  | [], entries => change entries
  | key :: keys, entries =>
    match entries.find? key.value with
    | none =>
      (changeAt change keys []).map fun inner ↦ entries ++ [(key, ⟨key.span, .table .path inner⟩)]
    | some ⟨span, .table origin inner⟩ =>
      if origin = .inline then none
      else (changeAt change keys inner).map fun inner ↦
        entries.set key.value ⟨span, .table origin inner⟩
    | some ⟨span, .array true items⟩ =>
      (changeLast (changeAt change keys) items).map fun items ↦
        entries.set key.value ⟨span, .array true items⟩
    | some _ => none

/-- Opens the table of a header, given the last key of the header and the range of all of it. A
table that was only on the way is put in anew, with what it holds. -/
def openTable (key : Key) (span : Span) (entries : Entries) : Option Entries :=
  match entries.find? key.value with
  | none => some (entries ++ [(key, ⟨span, .table .header []⟩)])
  | some ⟨_, .table .path inner⟩ =>
    some (entries.erase key.value ++ [(key, ⟨span, .table .header inner⟩)])
  | some _ => none

/-- Opens one more element of an array of tables. -/
def openElement (key : Key) (span : Span) (entries : Entries) : Option Entries :=
  match entries.find? key.value with
  | none => some (entries ++ [(key, ⟨span, .array true [⟨span, .table .header []⟩]⟩)])
  | some ⟨first, .array true items⟩ =>
    some (entries.set key.value ⟨first, .array true (items ++ [⟨span, .table .header []⟩])⟩)
  | some _ => none

/-- Gives a value to a dotted key. -/
def assign (value : Node) : List Key → Entries → Option Entries
  | [], _ => none
  | [key], entries =>
    if (entries.find? key.value).isSome then none else some (entries ++ [(key, value)])
  | key :: keys, entries =>
    match entries.find? key.value with
    | none =>
      (assign value keys []).map fun inner ↦ entries ++ [(key, ⟨key.span, .table .dotted inner⟩)]
    | some ⟨span, .table origin inner⟩ =>
      if origin = .dotted || (origin = .path && 1 < keys.length) then
        (assign value keys inner).map fun inner ↦ entries.set key.value ⟨span, .table origin inner⟩
      else none
    | some ⟨span, .array true items⟩ =>
      if 1 < keys.length then
        (changeLast (assign value keys) items).map fun items ↦
          entries.set key.value ⟨span, .array true items⟩
      else none
    | some _ => none

/-! ### Values -/

/-- A string in one of its four forms, without fuel as it holds no other value. -/
def string? (c : Cursor) : Option (Value × Cursor) := do
  let (text, rest) ← match c.rest with
    | '"' :: '"' :: '"' :: s => basicBlock false (dropLineEnd s)
    | '"' :: s => basicString s
    | '\'' :: '\'' :: '\'' :: s => literalBlock (dropLineEnd s)
    | '\'' :: s => literalString s
    | _ => none
  some (.string (String.ofList text), c.moveTo rest)

/-- A value that is one run of characters. -/
def scalarAt? (c : Cursor) : Option (Value × Cursor) := do
  let (run, rest) := scalarRun c.rest
  let value ← scalar? run
  some (value, c.moveTo rest)

mutual

/-- The value at the cursor, of a depth up to a number of levels. The fuel bounds the nesting and
the number of elements. -/
def value? : Nat → Nat → Cursor → Option (Node × Cursor)
  | 0, _, _ => none
  | fuel + 1, depth, c => do
    let (value, after) ← match c.rest, depth with
      | '"' :: _, _ => string? c
      | '\'' :: _, _ => string? c
      | '[' :: _, depth + 1 => arrayItems? fuel depth [] (c.skip 1).skipFiller
      | '\x7b' :: _, depth + 1 => inlineEntries? fuel depth [] (c.skip 1).skipFiller
      | _, _ => scalarAt? c
    some (⟨c.spanTo after, value⟩, after)

/-- The rest of an array after the elements that were read. -/
def arrayItems? : Nat → Nat → List Node → Cursor → Option (Value × Cursor)
  | 0, _, _, _ => none
  | fuel + 1, depth, items, c =>
    match c.rest with
    | ']' :: _ => some (.array false items, c.skip 1)
    | _ => do
      let (item, c) ← value? fuel depth c
      let c := c.skipFiller
      match c.rest with
      | ',' :: _ => arrayItems? fuel depth (items ++ [item]) (c.skip 1).skipFiller
      | ']' :: _ => some (.array false (items ++ [item]), c.skip 1)
      | _ => none

/-- The rest of a table between braces after the entries that were read. -/
def inlineEntries? : Nat → Nat → Entries → Cursor → Option (Value × Cursor)
  | 0, _, _, _ => none
  | fuel + 1, depth, entries, c =>
    match c.rest with
    | '\x7d' :: _ => some (.table .inline entries, c.skip 1)
    | _ => do
      let (keys, c) ← dottedKey? maxDepth c
      let '=' :: _ := c.skipSpaces.rest | none
      let (value, c) ← value? fuel depth (c.skipSpaces.skip 1).skipSpaces
      let entries ← assign value keys entries
      let c := c.skipFiller
      match c.rest with
      | ',' :: _ => inlineEntries? fuel depth entries (c.skip 1).skipFiller
      | '\x7d' :: _ => some (.table .inline entries, c.skip 1)
      | _ => none

end

/-! ### Expressions -/

/-- The tree read so far and the path of the table that takes the next keys. -/
structure Draft where
  entries : Entries
  current : List Key

/-- One expression that is not empty, put into the tree. -/
def expression? (draft : Draft) (c : Cursor) : Option (Draft × Cursor) :=
  match c.rest with
  | '[' :: '[' :: _ => do
    let (keys, after) ← dottedKey? maxDepth (c.skip 2).skipSpaces
    let ']' :: ']' :: _ := after.skipSpaces.rest | none
    let closed := after.skipSpaces.skip 2
    let last ← keys.getLast?
    let entries ← changeAt (openElement last (c.spanTo closed)) keys.dropLast draft.entries
    some (⟨entries, keys⟩, closed)
  | '[' :: _ => do
    let (keys, after) ← dottedKey? maxDepth (c.skip 1).skipSpaces
    let ']' :: _ := after.skipSpaces.rest | none
    let closed := after.skipSpaces.skip 1
    let last ← keys.getLast?
    let entries ← changeAt (openTable last (c.spanTo closed)) keys.dropLast draft.entries
    some (⟨entries, keys⟩, closed)
  | _ => do
    let (keys, after) ← dottedKey? maxDepth c
    let '=' :: _ := after.skipSpaces.rest | none
    let start := (after.skipSpaces.skip 1).skipSpaces
    let (value, after) ← value? (start.rest.length + 1) maxDepth start
    let entries ← changeAt (assign value keys) draft.current draft.entries
    some ({ draft with entries }, after)

/-- The expressions of the remaining lines, put into the tree. The fuel bounds the number of
lines. -/
def expressions? : Nat → Draft → Cursor → Option Draft
  | 0, _, _ => none
  | fuel + 1, draft, c => do
    let c := c.skipSpaces
    if c.rest.isEmpty then some draft
    else match c.nextLine? with
      | some next => expressions? fuel draft next
      | none => do
        let (draft, c) ← expression? draft c
        let next ← c.nextLine?
        expressions? fuel draft next

/-- The cursor at the start of a document, past a byte-order mark. -/
def Cursor.start (s : List Char) : Cursor :=
  match s with
  | '\ufeff' :: rest => ⟨rest, 3⟩
  | s => ⟨s, 0⟩

/-- The top-level entries of a document, if the grammar allows it. -/
def parse? (source : String) : Option Entries := do
  let chars := source.toList
  let draft ← expressions? (chars.length + 1) ⟨[], []⟩ (Cursor.start chars)
  some draft.entries

end WorkspaceIndex.Toml
