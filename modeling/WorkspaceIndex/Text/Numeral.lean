/-!
# Decimal numerals of 32 bits

A numeral is one or more ASCII digits, after an optional plus sign. Leading zeros are allowed, a
minus sign is not, and a value of `2 ^ 32` or more is no numeral: nothing wraps.
-/

namespace WorkspaceIndex.Text

/-- The value of a digit among the ASCII digits. -/
def digitValue (c : Char) : Nat := c.toNat - '0'.toNat

/-- The value of a row of digits, the most significant first. -/
def digitsValue (digits : List Char) : Nat :=
  digits.foldl (fun value c ↦ 10 * value + digitValue c) 0

/-- The 32-bit number with this value, if there is one. -/
def word? (value : Nat) : Option UInt32 :=
  if h : value < UInt32.size then some (UInt32.ofNatLT value h) else none

/-- The number written by a non-empty row of ASCII digits. -/
def digits? (s : List Char) : Option UInt32 :=
  if !s.isEmpty && s.all Char.isDigit then word? (digitsValue s) else none

/-- The number written by a numeral. -/
def numeral? : List Char → Option UInt32
  | '+' :: digits => digits? digits
  | digits => digits? digits

end WorkspaceIndex.Text
