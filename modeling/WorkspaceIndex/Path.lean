import WorkspaceIndex.OsText
/-!
# Paths

A path is a text of the operating system, read through the separator `/`. It keeps its spelling:
joining writes texts together and never tidies them. Its *components* are the view under which two
spellings name the same path: repeated separators, a trailing separator and every `.` but a leading
one are invisible there, while `..` is kept. `Path.Same` is equality of components, and
`Path.dedup` keeps the first spelling of each path.

A path need not be a text, and then what is shown for it is not its spelling.
-/

namespace WorkspaceIndex

/-- A path as it was written. -/
structure Path where
  ofLetters ::
  /-- The spelling. -/
  letters : OsText
  deriving DecidableEq, Repr, Inhabited

/-- One step of a path. -/
inductive Component where
  /-- The root directory, in front of an absolute path. -/
  | root
  /-- A leading `.` of a relative path. -/
  | current
  /-- A step to the directory above. -/
  | above
  /-- A step to a named entry. -/
  | name (spelling : OsText)
  deriving DecidableEq, Repr, Inhabited

/-- The spelling that joins a component to a path. -/
def Component.letters : Component → OsText
  | .root => [.char '/']
  | .current => [.char '.']
  | .above => [.char '.', .char '.']
  | .name spelling => spelling

namespace Path

/-- The path that is spelled by a text. -/
def mk (text : String) : Path := ⟨text⟩

/-- The text as which a path is shown. -/
def text (p : Path) : String := p.letters.text

/-- The text that a path is, if it is one. -/
def text? (p : Path) : Option String := p.letters.text?

instance : ToString Path := ⟨Path.text⟩

/-- Whether a path starts at the root. -/
def isAbsolute (p : Path) : Bool := p.letters.head? == some (.char '/')

/-- The path `p` seen from `base`: an absolute path replaces the base, any other is written after
it with one separator in between. An empty path leaves a trailing separator. -/
def join (base p : Path) : Path :=
  if p.isAbsolute || base.letters.isEmpty then p
  else if base.letters.getLast? == some (.char '/') then ⟨base.letters ++ p.letters⟩
  else ⟨base.letters ++ .char '/' :: p.letters⟩

/-! ### Components -/

/-- What stands between the separators of a path. -/
def pieces (p : Path) : List OsText := p.letters.splitOn (.char '/')

/-- The component that a piece after the first stands for. -/
def component? (piece : OsText) : Option Component :=
  if piece.isEmpty || piece = [.char '.'] then none
  else if piece = [.char '.', .char '.'] then some .above
  else some (.name piece)

/-- The steps of a path, without those that lead nowhere. -/
def components (p : Path) : List Component :=
  match p.pieces with
  | [] => []
  | first :: rest =>
    let start :=
      if first.isEmpty then (if p.isAbsolute then [.root] else [])
      else if first = [.char '.'] then [.current]
      else (component? first).toList
    start ++ rest.filterMap component?

/-- Two paths are the same when they have the same components. -/
def Same (p q : Path) : Prop := p.components = q.components

instance (p q : Path) : Decidable (Same p q) := inferInstanceAs (Decidable (_ = _))

/-- The first spelling of every path of a list, in order. -/
def dedup (paths : List Path) : List Path := paths.eraseDupsBy fun p q ↦ decide (Same p q)

/-- The last component, if it is a name. -/
def fileName? (p : Path) : Option OsText :=
  match p.components.getLast? with
  | some (.name spelling) => some spelling
  | _ => none

/-! ### The directory above -/

/-- Drop the last pieces of a path that are no component. The pieces come in reverse, so the last
one of the list is the first of the path: there a `.` of a relative path counts. -/
def dropInvisible : List OsText → List OsText
  | [] => []
  | [first] => if first.isEmpty then [] else [first]
  | piece :: earlier =>
    if piece.isEmpty || piece = [.char '.'] then dropInvisible earlier else piece :: earlier

/-- The path without its last component, if it has one besides the root. -/
def parent? (p : Path) : Option Path :=
  match dropInvisible p.pieces.reverse with
  | [] => none
  | _ :: above =>
    match dropInvisible above with
    | [] => some ⟨if p.isAbsolute then [.char '/'] else []⟩
    | kept => some ⟨[.char '/'].intercalate kept.reverse⟩

/-! ### Absolute paths -/

/-- Whether a path starts with exactly two separators, which are kept as they are. -/
def hasDoubleRoot (p : Path) : Bool :=
  match p.letters with
  | .char '/' :: .char '/' :: .char '/' :: _ => false
  | .char '/' :: .char '/' :: _ => true
  | _ => false

/-- The absolute form of a non-empty path: a relative path goes under the working directory, every
`.` and repeated separator disappears, and a trailing separator stays. -/
def absolute? (p workingDirectory : Path) : Option Path :=
  if p.letters.isEmpty then none
  else
    let steps := match p.components with
      | .current :: rest => rest
      | steps => steps
    let base : Path := if p.isAbsolute then ⟨if p.hasDoubleRoot then "//" else "/"⟩
      else workingDirectory
    let full := (steps.filter (· ≠ .root)).foldl (fun q step ↦ q.join ⟨step.letters⟩) base
    some (if p.letters.getLast? == some (.char '/') then full.join ⟨""⟩ else full)

end Path

end WorkspaceIndex
