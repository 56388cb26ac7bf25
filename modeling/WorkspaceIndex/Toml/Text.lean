/-!
# Strings and bare words of a document

Scanners over the characters that follow an opening quote. Each returns what it read and what
remains, and refuses text that the grammar does not allow: control characters, a carriage return
without its line feed, an unknown escape or a code point that is no character.
-/

namespace WorkspaceIndex.Toml

/-- Whether a character may stand in a comment or in a string: no control character but the tab. -/
def isTextChar (c : Char) : Bool := c = '\t' || (0x20 ≤ c.toNat && c.toNat ≠ 0x7f)

/-- Whether a character separates words within a line. -/
def isSpace (c : Char) : Bool := c = ' ' || c = '\t'

/-- Whether a character may stand in a key without quotes. -/
def isBareKeyChar (c : Char) : Bool := c.isAlphanum || c = '_' || c = '-'

/-- The value of a hexadecimal digit. -/
def hexValue? (c : Char) : Option Nat :=
  if c.isDigit then some (c.toNat - '0'.toNat)
  else if 'a' ≤ c && c ≤ 'f' then some (c.toNat - 'a'.toNat + 10)
  else if 'A' ≤ c && c ≤ 'F' then some (c.toNat - 'A'.toNat + 10)
  else none

/-- The character with the code point written by hexadecimal digits. -/
def codePoint? (digits : List Char) : Option Char := do
  let values ← digits.mapM hexValue?
  let code := values.foldl (fun value digit ↦ 16 * value + digit) 0
  if code.isValidChar then some (Char.ofNat code) else none

/-- The character of a short escape. -/
def shortEscape? : Char → Option Char
  | 'b' => some '\x08'
  | 't' => some '\t'
  | 'n' => some '\n'
  | 'f' => some '\x0c'
  | 'r' => some '\r'
  | 'e' => some '\x1b'
  | '"' => some '"'
  | '\\' => some '\\'
  | _ => none

/-- A scanned text and what remains after it. -/
abbrev Scanned := Option (List Char × List Char)

/-- A character in front of a scanned text. -/
def Scanned.push (c : Char) (scanned : Scanned) : Scanned :=
  scanned.map fun (text, rest) ↦ (c :: text, rest)

/-- A decoded escape in front of a scanned text. -/
def Scanned.pushCode (digits : List Char) (scanned : Scanned) : Scanned :=
  (codePoint? digits).bind fun c ↦ scanned.push c

/-- The rest of a string after its opening double quote. -/
def basicString : List Char → Scanned
  | [] => none
  | '"' :: rest => some ([], rest)
  | '\\' :: 'x' :: a :: b :: rest => (basicString rest).pushCode [a, b]
  | '\\' :: 'u' :: a :: b :: c :: d :: rest => (basicString rest).pushCode [a, b, c, d]
  | '\\' :: 'U' :: a :: b :: c :: d :: e :: f :: g :: h :: rest =>
    (basicString rest).pushCode [a, b, c, d, e, f, g, h]
  | '\\' :: c :: rest => (shortEscape? c).bind fun c ↦ (basicString rest).push c
  | c :: rest => if c ≠ '\\' && isTextChar c then (basicString rest).push c else none

/-- The rest of a string after its opening single quote. Nothing is escaped in it. -/
def literalString : List Char → Scanned
  | [] => none
  | '\'' :: rest => some ([], rest)
  | c :: rest => if isTextChar c then (literalString rest).push c else none

/-- Whether nothing but spaces stands before the end of the line. -/
def endsLine (s : List Char) : Bool :=
  match s.dropWhile isSpace with
  | '\n' :: _ => true
  | '\r' :: '\n' :: _ => true
  | _ => false

/-- The rest of a string after three double quotes and the line ending right after them, if any.
Up to two quotes may stand right before the closing three. A backslash at the end of a line joins
it to the next other character; `joining` says that this search is on. -/
def basicBlock (joining : Bool) : List Char → Scanned
  | [] => none
  | '"' :: '"' :: '"' :: '"' :: '"' :: rest => some (['"', '"'], rest)
  | '"' :: '"' :: '"' :: '"' :: rest => some (['"'], rest)
  | '"' :: '"' :: '"' :: rest => some ([], rest)
  | '\r' :: '\n' :: rest =>
    if joining then basicBlock true rest
    else ((basicBlock false rest).push '\n').push '\r'
  | '\n' :: rest => if joining then basicBlock true rest else (basicBlock false rest).push '\n'
  | '\\' :: 'x' :: a :: b :: rest => (basicBlock false rest).pushCode [a, b]
  | '\\' :: 'u' :: a :: b :: c :: d :: rest => (basicBlock false rest).pushCode [a, b, c, d]
  | '\\' :: 'U' :: a :: b :: c :: d :: e :: f :: g :: h :: rest =>
    (basicBlock false rest).pushCode [a, b, c, d, e, f, g, h]
  | '\\' :: c :: rest =>
    if endsLine (c :: rest) then basicBlock true (c :: rest)
    else (shortEscape? c).bind fun c ↦ (basicBlock false rest).push c
  | c :: rest =>
    if joining && isSpace c then basicBlock true rest
    else if c ≠ '\\' && isTextChar c then (basicBlock false rest).push c
    else none

/-- The rest of a string after three single quotes and the line ending right after them, if any.
Up to two quotes may stand right before the closing three. -/
def literalBlock : List Char → Scanned
  | [] => none
  | '\'' :: '\'' :: '\'' :: '\'' :: '\'' :: rest => some (['\'', '\''], rest)
  | '\'' :: '\'' :: '\'' :: '\'' :: rest => some (['\''], rest)
  | '\'' :: '\'' :: '\'' :: rest => some ([], rest)
  | '\r' :: '\n' :: rest => ((literalBlock rest).push '\n').push '\r'
  | '\n' :: rest => (literalBlock rest).push '\n'
  | c :: rest => if isTextChar c then (literalBlock rest).push c else none

/-- A text without a line ending at its front. -/
def dropLineEnd : List Char → List Char
  | '\n' :: rest => rest
  | '\r' :: '\n' :: rest => rest
  | s => s

end WorkspaceIndex.Toml
