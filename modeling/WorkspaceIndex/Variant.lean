/-!
# Language variants

How a module is compiled for its semantic information: Scala 3 emits it by itself, Scala 2 and Java
need a compiler plugin each. An index as a whole is attributed to one language.
-/

namespace WorkspaceIndex

/-- How semantic information is extracted from a module. -/
inductive Variant where
  /-- Scala 3, which has the extraction built in. -/
  | scala3
  /-- Scala 2, whose plugin is published for each compiler version. -/
  | scala2
  /-- Java, with one plugin for all compilers. -/
  | java
  deriving DecidableEq, Repr, Inhabited

namespace Variant

/-- Every variant, in the order in which messages list them. -/
def all : List Variant := [.scala3, .scala2, .java]

/-- The name of a variant. -/
def name : Variant → String
  | .scala3 => "scala3"
  | .scala2 => "scala2"
  | .java => "java"

instance : ToString Variant := ⟨name⟩

/-- Whether the variant is compiled by a Scala compiler. -/
def isScala : Variant → Bool
  | .scala3 | .scala2 => true
  | .java => false

/-- The variant with exactly this name. -/
def ofName? (text : String) : Option Variant := all.find? fun variant ↦ variant.name = text

/-- The variant with this name in any case. Lowering the ASCII letters is enough: no other
character is lowered to a letter of a variant's name. -/
def parse? (text : String) : Option Variant :=
  ofName? (String.ofList (text.toList.map Char.toLower))

/-- The sentence that reports a text which names no variant. -/
def unknownMessage (text : String) : String :=
  s!"unknown variant '{text}', expected 'scala3', 'scala2' or 'java'"

end Variant

/-- Language that an index is attributed to. -/
inductive SourceLanguage where
  | scala
  | java
  deriving DecidableEq, Repr, Inhabited

namespace SourceLanguage

/-- Scala as soon as one of the variants is, otherwise Java. -/
def ofVariants (variants : List Variant) : SourceLanguage :=
  if variants.any Variant.isScala then .scala else .java

/-- The name of a language. -/
def name : SourceLanguage → String
  | .scala => "scala"
  | .java => "java"

instance : ToString SourceLanguage := ⟨name⟩

end SourceLanguage

end WorkspaceIndex
