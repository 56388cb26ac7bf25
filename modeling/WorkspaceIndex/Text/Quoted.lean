import WorkspaceIndex.Text.Unprintable
/-!
# Quoted text

Quoted text stands between double quotes. Tab, line feed, carriage return and NUL have short
escapes, the backslash and the double quote are escaped by a backslash, and a character without a
printed form is written by its number in lower-case hexadecimal.
-/

namespace WorkspaceIndex.Text

/-- The written form of one character inside quotes. -/
def escape (c : Char) : List Char :=
  if c = '\x00' then ['\\', '0']
  else if c = '\t' then ['\\', 't']
  else if c = '\r' then ['\\', 'r']
  else if c = '\n' then ['\\', 'n']
  else if c = '\\' || c = '"' then ['\\', c]
  else if isUnprintable c then "\\u\x7b".toList ++ Nat.toDigits 16 c.toNat ++ ['}']
  else [c]

/-- A text between double quotes. -/
def quote (s : String) : String :=
  String.ofList ('"' :: s.toList.flatMap escape ++ ['"'])

end WorkspaceIndex.Text
