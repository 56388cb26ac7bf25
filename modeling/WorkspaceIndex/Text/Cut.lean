/-!
# Cutting a text at a separator

`cut?` finds the first occurrence of a text inside another and returns what stands before and
after it; `cutLast?` does so for the last occurrence of one character. Positions are counted in
bytes of the encoded text, as in error labels.
-/

namespace WorkspaceIndex.Text

/-- The number of bytes of a text in UTF-8. -/
def byteLength : List Char → Nat
  | [] => 0
  | c :: rest => c.utf8Size + byteLength rest

/-- The texts before and after the first occurrence of `sep`. -/
def cut? (sep : List Char) : List Char → Option (List Char × List Char)
  | [] => if sep.isEmpty then some ([], []) else none
  | c :: rest =>
    match sep.isPrefixOf? (c :: rest) with
    | some after => some ([], after)
    | none => (cut? sep rest).map fun (before, after) ↦ (c :: before, after)

/-- The texts before and after the first character of a class. -/
def cutWhere? (p : Char → Bool) : List Char → Option (List Char × List Char)
  | [] => none
  | c :: rest =>
    if p c then some ([], rest)
    else (cutWhere? p rest).map fun (before, after) ↦ (c :: before, after)

/-- The texts before and after the last occurrence of the character `sep`. -/
def cutLast? (sep : Char) : List Char → Option (List Char × List Char)
  | [] => none
  | c :: rest =>
    match cutLast? sep rest with
    | some (before, after) => some (c :: before, after)
    | none => if c = sep then some ([], rest) else none

/-- The number of bytes before the first occurrence of `needle`. -/
def find? (needle s : List Char) : Option Nat := (cut? needle s).map fun found ↦ byteLength found.1

end WorkspaceIndex.Text
