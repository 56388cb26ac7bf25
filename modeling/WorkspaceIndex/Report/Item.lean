/-!
# Report items

A report is a list of items, each of which says what is shown and not how. `Item.lines` gives every
item its lines; warnings have lines of their own, on the error stream.
-/

namespace WorkspaceIndex.Report

/-- One thing that a report shows. -/
inductive Item where
  | title (text : String)
  | heading (text : String)
  | keyValue (key value : String)
  | indentedKeyValue (key value : String)
  | numbered (number : Nat) (text : String)
  | bullet (text : String)
  | warning (text : String)
  | text (text : String)
  | blank
  deriving DecidableEq, Repr

namespace Item

/-- The lines of an item in the output. -/
def lines : Item → List String
  | .title s => [s, String.ofList (List.replicate s.utf8ByteSize '=')]
  | .heading s => [s ++ ":"]
  | .keyValue key value => [s!"{key}: {value}"]
  | .indentedKeyValue key value => [s!"  {key}: {value}"]
  | .numbered number s => [s!"  {number}. {s}"]
  | .bullet s => [s!"  - {s}"]
  | .warning _ => []
  | .text s => [s]
  | .blank => [""]

/-- The text of an item for the error stream, if it is a warning. -/
def warning? : Item → Option String
  | .warning s => some s
  | _ => none

end Item

/-- Lines with a line feed after each. -/
def joinLines (lines : List String) : String := String.join (lines.map fun line ↦ line ++ "\n")

/-- What items write to the output. -/
def outputText (items : List Item) : String := joinLines (items.flatMap Item.lines)

/-- The warnings among items, in order. -/
def warnings (items : List Item) : List String := items.filterMap Item.warning?

/-- What items write to the error stream. -/
def warningText (items : List Item) : String :=
  joinLines ((warnings items).map fun text ↦ s!"warning: {text}")

/-- Items numbered from one. -/
def enumerate {α : Type} (items : List α) : List (Nat × α) :=
  items.zipIdx.map fun (item, index) ↦ (index + 1, item)

end WorkspaceIndex.Report
