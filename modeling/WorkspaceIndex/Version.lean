import WorkspaceIndex.Text.Numeral
/-!
# Versions

A version is three 32-bit numbers, written with dots between them and ordered by the first number
in which two of them differ. Reading asks for exactly three components, each a numeral.
-/

namespace WorkspaceIndex

/-- A version of a compiler or of a host build tool. -/
structure Version where
  major : UInt32
  minor : UInt32
  patch : UInt32
  deriving DecidableEq, Repr, Inhabited

/-- Why a text is no version. -/
inductive VersionError where
  /-- It has not exactly three components. -/
  | shape (text : String)
  /-- The first component that is no numeral is the first. -/
  | major (text : String)
  /-- The first component that is no numeral is the second. -/
  | minor (text : String)
  /-- The first component that is no numeral is the third. -/
  | patch (text : String)
  deriving DecidableEq, Repr

/-- The sentence that reports an unreadable version. -/
def VersionError.message : VersionError → String
  | .shape text => s!"invalid version '{text}', expected 'X.Y.Z'"
  | .major text => s!"invalid major in '{text}'"
  | .minor text => s!"invalid minor in '{text}'"
  | .patch text => s!"invalid patch in '{text}'"

namespace Version

/-- The version that stands where none was given. -/
def zero : Version := ⟨0, 0, 0⟩

/-- Reads a version. Of several bad components the first is reported. -/
def parse (text : String) : Except VersionError Version :=
  match text.toList.splitOn '.' with
  | [major, minor, patch] =>
    match Text.numeral? major, Text.numeral? minor, Text.numeral? patch with
    | none, _, _ => .error (.major text)
    | _, none, _ => .error (.minor text)
    | _, _, none => .error (.patch text)
    | some major, some minor, some patch => .ok ⟨major, minor, patch⟩
  | _ => .error (.shape text)

/-- The version a text is read as, if it is one. -/
def parse? (text : String) : Option Version := (parse text).toOption

/-- The written form: the three numbers in decimal with dots between them. -/
def text (v : Version) : String :=
  s!"{v.major.toNat}.{v.minor.toNat}.{v.patch.toNat}"

instance : ToString Version := ⟨text⟩

/-- The first number in which two versions differ decides between them. -/
instance : Ord Version where
  compare v w :=
    (compare v.major w.major).then ((compare v.minor w.minor).then (compare v.patch w.patch))

/-- Versions in ascending order. -/
def sort (versions : List Version) : List Version :=
  versions.mergeSort fun v w ↦ (compare v w).isLE

instance : LT Version := ltOfOrd
instance : LE Version := leOfOrd

end Version

end WorkspaceIndex
