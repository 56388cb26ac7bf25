import WorkspaceIndex.Toml.Scalar
/-!
# Sound documents

A document can follow the grammar and still hold a value that nothing can be made of: a number
beyond the range of its kind, or a table that passes for a date, as its first key is the key of
dates, and is none. Such a value does no harm where nobody looks at it, and a document without one
is sound.
-/

namespace WorkspaceIndex.Toml

/-- Whether a value is a text that writes a date, a time or both. -/
def writesDate : Value → Bool
  | .string text => (datetime? text.toList).isSome
  | _ => false

mutual

/-- Whether something can be made of a value and of every value inside it. -/
def Value.isSound : Value → Bool
  | .oversized => false
  | .array _ items => allSound items
  | .table _ ((key, first) :: rest) =>
    if key.value = dateKey then writesDate first.value
    else first.value.isSound && Entries.isSound rest
  | _ => true

/-- Whether all items of an array are sound. -/
def allSound : List Node → Bool
  | [] => true
  | item :: items => item.value.isSound && allSound items

/-- Whether all values of a document are sound. -/
def Entries.isSound : Entries → Bool
  | [] => true
  | (_, node) :: entries => node.value.isSound && Entries.isSound entries

end

end WorkspaceIndex.Toml
