import WorkspaceIndex.Text.Cut
import WorkspaceIndex.Toml.Value
/-!
# Finding declarations in the text

Errors about a module point at its name in the text of the manifest. The name is looked for as a
text, without regard to the structure of the document: in a header, in a header with quotes, or at
the start of a line in front of an opening brace. The first form that occurs anywhere wins, and of
its occurrences the first.
-/

namespace WorkspaceIndex.Label

/-- A text to look for, and the number of its bytes in front of the name. -/
structure Pattern where
  text : List Char
  lead : Nat
  deriving DecidableEq, Repr

/-- A name between two texts. -/
def Pattern.around (before name after : List Char) : Pattern :=
  ⟨before ++ name ++ after, Text.byteLength before⟩

/-- The forms in which a module is declared, the preferred one first. -/
def modulePatterns (name : List Char) : List Pattern :=
  [.around "[modules.".toList name "]".toList,
    .around "[modules.\"".toList name "\"]".toList,
    .around "\n".toList name " = \x7b".toList]

/-- The range of a name of the given length where a pattern first occurs. -/
def Pattern.find? (source : List Char) (length : Nat) (pattern : Pattern) : Option Span :=
  (Text.find? pattern.text source).map fun offset ↦ ⟨offset + pattern.lead, length⟩

/-- The range of a module's name where it is declared. -/
def moduleSpan? (source name : String) : Option Span :=
  (modulePatterns name.toList).findSome? fun pattern ↦
    pattern.find? source.toList (Text.byteLength name.toList)

/-- The range of a text where it first stands between double quotes. -/
def quotedSpan? (source text : String) : Option Span :=
  (Pattern.around ['"'] text.toList ['"']).find? source.toList (Text.byteLength text.toList)

end WorkspaceIndex.Label
