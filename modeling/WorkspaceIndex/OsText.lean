/-!
# Texts of the operating system

To the operating system a path or an argument of a program is a row of bytes. As a rule they are a
text, but nothing sees to that. An `OsText` is such a row by its letters: each is a character, or it
is bytes that belong to none. So what is taken off or put together at a character is never looked at
as bytes, and where a text is needed, the letters that are none show.

There are two ways to get one. `text?` refuses letters that are no characters, and `text` shows each
of them as the same replacement character, so it may show different letters alike.
-/

namespace WorkspaceIndex

/-- A letter of a text of the operating system. -/
inductive Letter where
  | char (c : Char)
  /-- Bytes that belong to no character. -/
  | stray (bytes : List UInt8)
  deriving DecidableEq, Repr, Inhabited

namespace Letter

/-- The character that is shown for bytes that belong to none. -/
def replacement : Char := '\ufffd'

/-- The character that a letter is. -/
def char? : Letter → Option Char
  | char c => some c
  | stray _ => none

/-- The character as which a letter is shown. -/
def shown : Letter → Char
  | char c => c
  | stray _ => replacement

/-- The bytes of a letter. -/
def bytes : Letter → List UInt8
  | char c => String.utf8EncodeChar c
  | stray bytes => bytes

end Letter

/-- A text of the operating system. -/
abbrev OsText := List Letter

namespace OsText

/-- A text as the operating system has it. -/
def ofText (text : String) : OsText := text.toList.map .char

instance : Coe String OsText := ⟨ofText⟩

/-- The text that it is, if all letters are characters. -/
def text? (t : OsText) : Option String := (t.mapM Letter.char?).map String.ofList

/-- The text as which it is shown. -/
def text (t : OsText) : String := String.ofList (t.map Letter.shown)

/-- A row of them, such as the arguments of a program, is shown one by one. -/
instance : Coe (List OsText) (List String) := ⟨List.map text⟩

/-- The number of its bytes. -/
def byteLength (t : OsText) : Nat := (t.flatMap Letter.bytes).length

end OsText

end WorkspaceIndex
