/-!
# Writing JSON

Values are written over several lines, indented by two spaces, with the members of an object in the
order in which they are given. Inside strings, quotes, backslashes and control characters are
escaped and all else stands for itself. Empty lists and objects stay on their line.
-/

namespace WorkspaceIndex.Text

/-- A value to be written as JSON. -/
inductive Json where
  | null
  | number (value : Nat)
  | string (text : String)
  | array (items : List Json)
  | object (members : List (String × Json))

namespace Json

/-- A hexadecimal digit. -/
def hexDigit (n : Nat) : Char := (Nat.toDigits 16 n).headD '0'

/-- The written form of a character inside a string. -/
def escape (c : Char) : List Char :=
  if c = '"' then ['\\', '"']
  else if c = '\\' then ['\\', '\\']
  else if c = '\x08' then ['\\', 'b']
  else if c = '\t' then ['\\', 't']
  else if c = '\n' then ['\\', 'n']
  else if c = '\x0c' then ['\\', 'f']
  else if c = '\r' then ['\\', 'r']
  else if c.toNat < 0x20 then
    ['\\', 'u', '0', '0', hexDigit (c.toNat / 16), hexDigit (c.toNat % 16)]
  else [c]

/-- A string between quotes. -/
def quoted (text : String) : String := String.ofList ('"' :: text.toList.flatMap escape ++ ['"'])

/-- The start of a line at a depth. -/
def newLine (depth : Nat) : String := String.ofList ('\n' :: List.replicate (2 * depth) ' ')

/-- Parts on lines of their own between two brackets. -/
def block (depth : Nat) (opening closing : String) (parts : List String) : String :=
  if parts.isEmpty then opening ++ closing
  else opening ++ ",".intercalate (parts.map fun part ↦ newLine (depth + 1) ++ part) ++
    newLine depth ++ closing

mutual

/-- The written form of a value at a depth. -/
def render (depth : Nat) : Json → String
  | null => "null"
  | number value => toString value
  | string text => quoted text
  | array items => block depth "[" "]" (renderItems (depth + 1) items)
  | object members => block depth "\x7b" "\x7d" (renderMembers (depth + 1) members)

/-- The written forms of the items of a list. -/
def renderItems (depth : Nat) : List Json → List String
  | [] => []
  | item :: rest => render depth item :: renderItems depth rest

/-- The written forms of the members of an object. -/
def renderMembers (depth : Nat) : List (String × Json) → List String
  | [] => []
  | (name, value) :: rest =>
    (quoted name ++ ": " ++ render depth value) :: renderMembers depth rest

end

/-- The written form of a whole value, without a line end after it. -/
def text (value : Json) : String := render 0 value

/-- The written form of texts as a list. -/
def strings (texts : List String) : Json := array (texts.map string)

end Json

end WorkspaceIndex.Text
