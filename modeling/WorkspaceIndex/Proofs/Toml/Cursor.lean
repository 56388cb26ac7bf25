import Mathlib.Data.List.TakeDrop
import WorkspaceIndex.Proofs.Text.Pieces
import WorkspaceIndex.Toml.Document
/-!
# Where a reader stands

A cursor that is moved while a document is read stays in the document: what it has passed and what
remains are the text, and the offset counts the bytes that it has passed (`Cursor.In`). Every
scanner returns an end of what it was given, and this is all that has to be known of it for that.

So the range between two cursors is the range of what was read between them (`Span.Covers`).
-/

namespace WorkspaceIndex

open Text (byteLength)

/-- What stands in a text at a range. -/
def Span.Covers (source : List Char) (span : Span) (written : List Char) : Prop :=
  ∃ before after, source = before ++ (written ++ after) ∧
    span = ⟨byteLength before, byteLength written⟩

namespace Toml

variable {source s text read rest : List Char} {c later : Cursor}

/-! ### Moving -/

namespace Cursor

/-- The later cursor is the first one, moved past what was read. -/
def Passes (c : Cursor) (read : List Char) (later : Cursor) : Prop :=
  c.rest = read ++ later.rest ∧ later.offset = c.offset + byteLength read

/-- A cursor at a place of a text. -/
def In (source : List Char) (c : Cursor) : Prop :=
  ∃ front, source = front ++ c.rest ∧ c.offset = byteLength front

theorem passes_moveTo (h : c.rest = read ++ rest) : c.Passes read (c.moveTo rest) := by
  have htake : c.rest.take (c.rest.length - rest.length) = read := by
    rw [h, List.length_append, Nat.add_sub_cancel, List.take_left]
  exact ⟨h, by rw [moveTo, htake]⟩

/-- To skip characters that take one byte each is to move past them. -/
theorem passes_skip (read : List Char) (h : c.rest = read ++ rest)
    (hread : byteLength read = read.length) : c.Passes read (c.skip read.length) := by
  constructor
  · rw [skip, h, List.drop_left]
  · rw [skip, hread]

theorem In.passes (h : c.In source) (hpasses : c.Passes read later) : later.In source := by
  obtain ⟨front, hfront, hoffset⟩ := h
  obtain ⟨hrest, hoffset'⟩ := hpasses
  refine ⟨front ++ read, ?_, ?_⟩
  · rw [hfront, hrest, List.append_assoc]
  · rw [hoffset', hoffset, Text.byteLength_append]

/-- The range between two cursors covers what was read between them. -/
theorem Passes.covers (h : c.Passes read later) (hc : c.In source) :
    (c.spanTo later).Covers source read := by
  obtain ⟨front, hfront, hoffset⟩ := hc
  obtain ⟨hrest, hoffset'⟩ := h
  refine ⟨front, later.rest, ?_, ?_⟩
  · rw [hfront, hrest]
  · rw [spanTo, hoffset', Nat.add_sub_cancel_left, hoffset]

theorem In.moveTo (h : c.In source) (hrest : rest <:+ c.rest) : (c.moveTo rest).In source := by
  obtain ⟨read, hread⟩ := hrest
  exact h.passes (passes_moveTo hread.symm)

theorem In.skip_one {first : Char} (h : c.In source) (hrest : c.rest = first :: rest)
    (hfirst : first.utf8Size = 1) : (c.skip 1).In source := by
  have hlength : byteLength [first] = 1 := by rw [byteLength, byteLength, hfirst]
  exact h.passes (passes_skip [first] hrest hlength)

theorem In.skipSpaces (h : c.In source) : c.skipSpaces.In source :=
  h.moveTo (List.dropWhile_suffix _)

end Cursor

/-! ### Scanners -/

namespace Scanned

/-- What remains after a scan stands behind a quote in a text. -/
def EndsIn (quote : Char) (scanned : Scanned) (s : List Char) : Prop :=
  ∀ text rest, scanned = some (text, rest) → quote :: rest <:+ s

variable {quote : Char} {scanned : Scanned}

theorem push_eq_some_iff {d : Char} :
    scanned.push d = some (text, rest) ↔
      ∃ more, scanned = some (more, rest) ∧ text = d :: more := by
  rcases scanned with - | ⟨more, rest'⟩
  · simp [push]
  · simp only [push, Option.map_some, Option.some.injEq, Prod.mk.injEq]
    constructor
    · rintro ⟨rfl, rfl⟩
      exact ⟨more, ⟨rfl, rfl⟩, rfl⟩
    · rintro ⟨_, ⟨rfl, rfl⟩, rfl⟩
      exact ⟨rfl, rfl⟩

theorem bind_push_eq_some_iff {decoded : Option Char} :
    (decoded.bind fun d ↦ scanned.push d) = some (text, rest) ↔
      ∃ d more, decoded = some d ∧ scanned = some (more, rest) ∧ text = d :: more := by
  cases decoded <;> simp [push_eq_some_iff]

theorem endsIn_none (quote : Char) (s : List Char) : EndsIn quote none s := fun _ _ h ↦ by cases h

theorem endsIn_some (text : List Char) (h : quote :: rest <:+ s) :
    EndsIn quote (some (text, rest)) s :=
  fun _ _ heq ↦ by
    cases heq
    exact h

theorem EndsIn.mono {tail : List Char} (h : EndsIn quote scanned tail) (htail : tail <:+ s) :
    EndsIn quote scanned s :=
  fun text rest hscanned ↦ (h text rest hscanned).trans htail

theorem EndsIn.push (h : EndsIn quote scanned s) (d : Char) :
    EndsIn quote (scanned.push d) s := by
  intro text rest hpush
  obtain ⟨more, hscanned, -⟩ := push_eq_some_iff.1 hpush
  exact h more rest hscanned

theorem EndsIn.bind_push (h : EndsIn quote scanned s) (decoded : Option Char) :
    EndsIn quote (decoded.bind fun d ↦ scanned.push d) s := by
  cases decoded with
  | none => exact endsIn_none quote s
  | some d => exact h.push d

theorem EndsIn.pushCode (h : EndsIn quote scanned s) (digits : List Char) :
    EndsIn quote (scanned.pushCode digits) s :=
  h.bind_push _

end Scanned

open Scanned

/-- A string is read from the characters up to its closing quote, whatever follows. -/
theorem basicString_closed (h : basicString s = some (text, rest)) :
    ∃ inside, s = inside ++ '"' :: rest ∧ basicString (inside ++ ['"']) = some (text, []) := by
  fun_induction basicString s generalizing text with
  | case1 => cases h
  | case2 =>
    cases h
    exact ⟨[], rfl, rfl⟩
  | case3 a b s ih =>
    obtain ⟨d, more, hd, hmore, rfl⟩ := bind_push_eq_some_iff.1 h
    obtain ⟨inside, rfl, hread⟩ := ih hmore
    exact ⟨'\\' :: 'x' :: a :: b :: inside, rfl, bind_push_eq_some_iff.2 ⟨d, more, hd, hread, rfl⟩⟩
  | case4 a b c d s ih =>
    obtain ⟨e, more, he, hmore, rfl⟩ := bind_push_eq_some_iff.1 h
    obtain ⟨inside, rfl, hread⟩ := ih hmore
    exact ⟨'\\' :: 'u' :: a :: b :: c :: d :: inside, rfl,
      bind_push_eq_some_iff.2 ⟨e, more, he, hread, rfl⟩⟩
  | case5 a b c d e f g i s ih =>
    obtain ⟨j, more, hj, hmore, rfl⟩ := bind_push_eq_some_iff.1 h
    obtain ⟨inside, rfl, hread⟩ := ih hmore
    exact ⟨'\\' :: 'U' :: a :: b :: c :: d :: e :: f :: g :: i :: inside, rfl,
      bind_push_eq_some_iff.2 ⟨j, more, hj, hread, rfl⟩⟩
  -- what is read and what follows it are kept apart: no longer escape begins the one, since none
  -- begins the two together
  | case6 c s _ _ _ ih =>
    obtain ⟨d, more, hd, hmore, rfl⟩ := bind_push_eq_some_iff.1 h
    obtain ⟨inside, hs, hread⟩ := ih hmore
    refine ⟨'\\' :: c :: inside, by rw [hs]; rfl, ?_⟩
    rw [List.append_cons] at hs
    rw [List.cons_append, List.cons_append, basicString, hd, hread]
    · rfl
    all_goals grind
  | case7 c s _ _ _ _ _ htext ih =>
    obtain ⟨more, hmore, rfl⟩ := push_eq_some_iff.1 h
    obtain ⟨inside, hs, hread⟩ := ih hmore
    refine ⟨c :: inside, by rw [hs]; rfl, ?_⟩
    rw [List.append_cons] at hs
    rw [List.cons_append, basicString, if_pos htext, hread]
    · rfl
    all_goals grind
  | case8 => cases h

theorem literalString_closed (h : literalString s = some (text, rest)) :
    ∃ inside, s = inside ++ '\'' :: rest ∧ literalString (inside ++ ['\'']) = some (text, []) := by
  fun_induction literalString s generalizing text with
  | case1 => cases h
  | case2 =>
    cases h
    exact ⟨[], rfl, rfl⟩
  | case3 c s hquote htext ih =>
    obtain ⟨more, hmore, rfl⟩ := push_eq_some_iff.1 h
    obtain ⟨inside, rfl, hread⟩ := ih hmore
    refine ⟨c :: inside, rfl, ?_⟩
    rw [List.cons_append, literalString, if_pos htext, hread]
    · rfl
    · exact hquote
  | case4 => cases h

theorem endsIn_basicString : EndsIn '"' (basicString s) s := fun _ _ h ↦ by
  obtain ⟨inside, hs, -⟩ := basicString_closed h
  exact ⟨inside, hs.symm⟩

theorem endsIn_literalString : EndsIn '\'' (literalString s) s := fun _ _ h ↦ by
  obtain ⟨inside, hs, -⟩ := literalString_closed h
  exact ⟨inside, hs.symm⟩

theorem endsIn_basicBlock (joining : Bool) (s : List Char) :
    EndsIn '"' (basicBlock joining s) s := by
  fun_induction basicBlock joining s with
  | case1 => exact endsIn_none _ _
  | case2 => exact endsIn_some _ ⟨['"', '"', '"', '"'], rfl⟩
  | case3 => exact endsIn_some _ ⟨['"', '"', '"'], rfl⟩
  | case4 => exact endsIn_some _ ⟨['"', '"'], rfl⟩
  | case5 rest ih => exact ih.mono ⟨['\r', '\n'], rfl⟩
  | case6 _ rest _ ih => exact ((ih.push _).push _).mono ⟨['\r', '\n'], rfl⟩
  | case7 rest ih => exact ih.mono (List.suffix_cons _ _)
  | case8 _ rest _ ih => exact (ih.push _).mono (List.suffix_cons _ _)
  | case9 _ a b rest ih => exact (ih.pushCode _).mono ⟨['\\', 'x', a, b], rfl⟩
  | case10 _ a b c d rest ih => exact (ih.pushCode _).mono ⟨['\\', 'u', a, b, c, d], rfl⟩
  | case11 _ a b c d e f g h rest ih =>
    exact (ih.pushCode _).mono ⟨['\\', 'U', a, b, c, d, e, f, g, h], rfl⟩
  -- a backslash at the end of a line, and then the short escapes
  | case12 _ c rest _ _ _ _ ih => exact ih.mono (List.suffix_cons _ _)
  | case13 _ c rest _ _ _ _ ih => exact (ih.bind_push _).mono ⟨['\\', c], rfl⟩
  | case14 => rename_i ih; exact ih.mono (List.suffix_cons _ _)
  | case15 => rename_i ih; exact (ih.push _).mono (List.suffix_cons _ _)
  | case16 => exact endsIn_none _ _

theorem endsIn_literalBlock (s : List Char) : EndsIn '\'' (literalBlock s) s := by
  fun_induction literalBlock s with
  | case1 => exact endsIn_none _ _
  | case2 => exact endsIn_some _ ⟨['\'', '\'', '\'', '\''], rfl⟩
  | case3 => exact endsIn_some _ ⟨['\'', '\'', '\''], rfl⟩
  | case4 => exact endsIn_some _ ⟨['\'', '\''], rfl⟩
  | case5 rest ih => exact ((ih.push _).push _).mono ⟨['\r', '\n'], rfl⟩
  | case6 rest ih => exact (ih.push _).mono (List.suffix_cons _ _)
  | case7 => rename_i ih; exact (ih.push _).mono (List.suffix_cons _ _)
  | case8 => exact endsIn_none _ _

theorem suffix_dropLineEnd (s : List Char) : dropLineEnd s <:+ s := by
  unfold dropLineEnd
  split
  · exact List.suffix_cons _ _
  · exact ⟨['\r', '\n'], rfl⟩
  · exact List.suffix_rfl

theorem suffix_dropFiller (comment : Bool) (s : List Char) : dropFiller comment s <:+ s := by
  fun_induction dropFiller comment s with
  | case1 => exact List.suffix_rfl
  | case2 _ rest ih => exact ih.trans (List.suffix_cons _ _)
  | case3 _ rest ih => exact ih.trans ⟨['\r', '\n'], rfl⟩
  | case4 => rename_i ih; exact ih.trans (List.suffix_cons _ _)
  | case5 => exact List.suffix_rfl
  | case6 => rename_i ih; exact ih.trans (List.suffix_cons _ _)
  | case7 => rename_i ih; exact ih.trans (List.suffix_cons _ _)
  | case8 => exact List.suffix_rfl

theorem suffix_span (p : Char → Bool) (s : List Char) : (s.span p).2 <:+ s := by
  rw [List.span_eq_takeWhile_dropWhile]
  exact List.dropWhile_suffix p

theorem suffix_scalarRun (s : List Char) : (scalarRun s).2 <:+ s := by
  have hrun := suffix_span isScalarChar s
  unfold scalarRun
  dsimp only
  split
  · rename_i c after hrest
    rw [hrest] at hrun
    split
    · exact (suffix_span isScalarChar (c :: after)).trans ((List.suffix_cons _ _).trans hrun)
    · exact hrest ▸ hrun
  · exact hrun

/-! ### Keys and words -/

namespace Cursor

theorem In.skipFiller (h : c.In source) : c.skipFiller.In source :=
  h.moveTo (suffix_dropFiller _ _)

theorem In.nextLine? (hc : c.In source) (h : c.nextLine? = some later) : later.In source := by
  have hspaces : c.rest.dropWhile isSpace <:+ c.rest := List.dropWhile_suffix _
  unfold Cursor.nextLine? at h
  dsimp only at h
  generalize c.rest.dropWhile isSpace = s at h hspaces
  -- the end of the line is behind its comment, if it has one
  split at h
  · cases h
    exact hc.moveTo List.nil_suffix
  · rename_i rest hline
    cases h
    have hend : '\n' :: rest <:+ s := by
      split at hline
      · exact hline ▸ (List.dropWhile_suffix _).trans (List.suffix_cons _ _)
      · exact hline ▸ List.suffix_rfl
    exact hc.moveTo ((List.suffix_cons _ _).trans (hend.trans hspaces))
  · rename_i rest hline
    cases h
    have hend : '\r' :: '\n' :: rest <:+ s := by
      split at hline
      · exact hline ▸ (List.dropWhile_suffix _).trans (List.suffix_cons _ _)
      · exact hline ▸ List.suffix_rfl
    have hrest : rest <:+ '\r' :: '\n' :: rest := ⟨['\r', '\n'], rfl⟩
    exact hc.moveTo (hrest.trans (hend.trans hspaces))
  · cases h

theorem in_start (source : List Char) : (Cursor.start source).In source := by
  unfold start
  split
  · exact ⟨['\ufeff'], rfl, rfl⟩
  · exact ⟨[], rfl, rfl⟩

end Cursor

/-- How a name is written as a key: as it is, or between quotes. -/
inductive WritesKey : List Char → List Char → Prop
  | bare {name : List Char} (name_ne : name ≠ []) (all : ∀ d ∈ name, isBareKeyChar d = true) :
    WritesKey name name
  | basic {inside name : List Char} (read : basicString (inside ++ ['"']) = some (name, [])) :
    WritesKey ('"' :: (inside ++ ['"'])) name
  | literal {inside name : List Char} (read : literalString (inside ++ ['\'']) = some (name, [])) :
    WritesKey ('\'' :: (inside ++ ['\''])) name

/-- The cursor moved past a text with its quotes. -/
theorem passes_quoted {quote : Char} {inside : List Char}
    (h : c.rest = quote :: (inside ++ quote :: rest)) :
    c.Passes (quote :: (inside ++ [quote])) (c.moveTo rest) := by
  refine Cursor.passes_moveTo ?_
  rw [h, List.cons_append, List.append_assoc, List.singleton_append]

theorem simpleKey?_eq_some {key : Key} (h : simpleKey? c = some (key, later)) :
    ∃ written, c.Passes written later ∧ key.span = c.spanTo later ∧
      WritesKey written key.value.toList := by
  unfold simpleKey? at h
  split at h
  · rename_i s hrest
    obtain ⟨⟨name, rest⟩, hname, h⟩ := Option.bind_eq_some_iff.1 h
    cases h
    obtain ⟨inside, rfl, hread⟩ := basicString_closed hname
    exact ⟨_, passes_quoted hrest, rfl, .basic (by rwa [String.toList_ofList])⟩
  · rename_i s hrest
    obtain ⟨⟨name, rest⟩, hname, h⟩ := Option.bind_eq_some_iff.1 h
    cases h
    obtain ⟨inside, rfl, hread⟩ := literalString_closed hname
    exact ⟨_, passes_quoted hrest, rfl, .literal (by rwa [String.toList_ofList])⟩
  · rw [List.span_eq_takeWhile_dropWhile] at h
    dsimp only at h
    split at h
    · cases h
    · rename_i hname
      cases h
      refine ⟨_, Cursor.passes_moveTo List.takeWhile_append_dropWhile.symm, rfl, ?_⟩
      rw [String.toList_ofList]
      exact .bare (fun hnil ↦ hname (by rw [hnil]; rfl)) fun d hd ↦ List.mem_takeWhile_imp hd

/-- A text between two quotes of one kind. -/
def Quoted (written : List Char) : Prop :=
  ∃ quote inside, (quote = '"' ∨ quote = '\'') ∧ written = quote :: (inside ++ [quote])

/-- A string is a text, and is written from one quote to another. -/
theorem string?_eq_some {value : Value} (h : string? c = some (value, later)) :
    ∃ text written, value = .string text ∧ Quoted written ∧ c.Passes written later := by
  have hread {quote : Char} {s : List Char} {scanned : Scanned}
      (hquote : quote = '"' ∨ quote = '\'') (hrest : c.rest = quote :: s)
      (hends : EndsIn quote scanned s)
      (h : (scanned.bind fun found ↦
          some (Value.string (String.ofList found.1), c.moveTo found.2)) =
        some (value, later)) :
      ∃ text written, value = .string text ∧ Quoted written ∧ c.Passes written later := by
    obtain ⟨⟨text, rest⟩, hscanned, h⟩ := Option.bind_eq_some_iff.1 h
    cases h
    obtain ⟨inside, rfl⟩ := hends text rest hscanned
    exact ⟨_, _, rfl, ⟨quote, inside, hquote, rfl⟩, passes_quoted hrest⟩
  unfold string? at h
  split at h
  · rename_i s hrest
    have hdrop : dropLineEnd s <:+ '"' :: '"' :: s :=
      (suffix_dropLineEnd s).trans ⟨['"', '"'], rfl⟩
    exact hread (.inl rfl) hrest ((endsIn_basicBlock _ _).mono hdrop) h
  · rename_i hrest
    exact hread (.inl rfl) hrest endsIn_basicString h
  · rename_i s hrest
    have hdrop : dropLineEnd s <:+ '\'' :: '\'' :: s :=
      (suffix_dropLineEnd s).trans ⟨['\'', '\''], rfl⟩
    exact hread (.inr rfl) hrest ((endsIn_literalBlock _).mono hdrop) h
  · rename_i hrest
    exact hread (.inr rfl) hrest endsIn_literalString h
  · cases h

theorem Cursor.In.scalarAt? {value : Value} (hc : c.In source)
    (h : scalarAt? c = some (value, later)) : later.In source := by
  obtain ⟨found, -, h⟩ := Option.bind_eq_some_iff.1 h
  cases h
  exact hc.moveTo (suffix_scalarRun _)

end Toml

end WorkspaceIndex
