/-!
# Blank characters and trimming

A character is *blank* when it has the property `White_Space`: the ASCII controls from tab to
carriage return, the space, and the separators beyond ASCII. Trimming takes the blanks off an end
of a text and nothing from its middle.
-/

namespace WorkspaceIndex.Text

/-- Whether a character has the property `White_Space`. -/
def isBlank (c : Char) : Bool :=
  let n := c.toNat
  (9 ≤ n && n ≤ 13) || n == 0x20 || n == 0x85 || n == 0xa0 || n == 0x1680 ||
    (0x2000 ≤ n && n ≤ 0x200a) || n == 0x2028 || n == 0x2029 || n == 0x202f || n == 0x205f ||
    n == 0x3000

/-- A text without the leading characters of a class. -/
def dropFront (p : Char → Bool) (s : List Char) : List Char := s.dropWhile p

/-- A text without the trailing characters of a class. -/
def dropBack (p : Char → Bool) (s : List Char) : List Char := (s.reverse.dropWhile p).reverse

/-- A text without the blanks before its first other character. -/
def trimFront (s : List Char) : List Char := dropFront isBlank s

/-- A text without the blanks after its last other character. -/
def trimBack (s : List Char) : List Char := dropBack isBlank s

/-- A text without blanks at either end. -/
def trim (s : List Char) : List Char := trimBack (trimFront s)

/-- Whether a text has nothing but blanks. -/
def isAllBlank (s : List Char) : Bool := s.all isBlank

end WorkspaceIndex.Text
