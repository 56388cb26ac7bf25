import WorkspaceIndex.Binary64
/-!
# Documents as trees

A document is an ordered tree of keys and values, and every key and value knows the range of bytes
it was written in. The order of a table is that in which its keys were put in. A table also knows
how it came about, which decides what may still be added to it while the document is read.

A number beyond the range of its kind stands in the tree without a value.
-/

namespace WorkspaceIndex

/-- A range of bytes of a text. -/
structure Span where
  offset : Nat
  length : Nat
  deriving DecidableEq, Repr, Inhabited

namespace Toml

/-- Something together with the range it was written in. -/
structure Located (α : Type) where
  span : Span
  value : α
  deriving Repr, Inhabited

/-- How a table came about. -/
inductive TableOrigin where
  /-- Between braces: nothing can be added to it. -/
  | inline
  /-- By a header of its own. -/
  | header
  /-- On the way to the table of a header. -/
  | path
  /-- On the way of a dotted key. -/
  | dotted
  deriving DecidableEq, Repr, Inhabited

/-- A value of a document. -/
inductive Value where
  | string (text : String)
  | integer (value : Int)
  | float (value : Binary64)
  | boolean (value : Bool)
  /-- A date, a time or both, in normal form. -/
  | datetime (text : String)
  /-- A number beyond the range of its kind. -/
  | oversized
  /-- `ofTables` tells an array of table headers from one between brackets. -/
  | array (ofTables : Bool) (items : List (Located Value))
  | table (origin : TableOrigin) (entries : List (Located String × Located Value))
  deriving Inhabited

/-- The key under which a date shows as a table. -/
def dateKey : String := "$__toml_private_datetime"

/-- A key of a table. -/
abbrev Key := Located String

/-- A value at its place. -/
abbrev Node := Located Value

/-- The keys and values of a table in order. -/
abbrev Entries := List (Key × Node)

namespace Entries

/-- The value of a key. -/
def find? (entries : Entries) (name : String) : Option Node :=
  (List.find? (fun entry : Key × Node ↦ entry.1.value = name) entries).map Prod.snd

/-- The table with the value of a key replaced; the key keeps its place. -/
def set (entries : Entries) (name : String) (node : Node) : Entries :=
  entries.map fun entry ↦ if entry.1.value = name then (entry.1, node) else entry

/-- The table without a key. -/
def erase (entries : Entries) (name : String) : Entries :=
  entries.filter fun entry ↦ entry.1.value ≠ name

end Entries

end Toml

end WorkspaceIndex
