import Mathlib.Data.List.Infix
import Mathlib.Data.List.TakeWhile
import WorkspaceIndex.OutputFormat
import WorkspaceIndex.Proofs.Path.Joined
/-!
# The extension of a file name

A name is a directory part and a last component: the directory part is empty or ends in a slash or a
backslash, and in the last component there is none of either. There is one way to take a name apart
(`lastComponent_eq_iff`), and it has an extension if this is a proper end of its last component
(`EndsIn`).

Two extensions of one name would be two ends of one text, so one of them would be an end of the
other. No supported extension is an end of another one (`extensions_apart`), so a name has one at
most, and then it does not matter in which order they are tried (`ofTable_eq_iff`).
-/

namespace WorkspaceIndex.OutputFormat

variable {name directory last extension : List Char} {text : String} {c : Char}
  {entry entry' : String × OutputFormat} {table : List (String × OutputFormat)}

/-! ### Taking a name apart -/

/-- Whether a character stands between the components of a name. -/
def isSeparator (c : Char) : Bool := c = '/' || c = '\\'

/-- What may stand in front of the last component: nothing, or a text that ends in a separator. -/
def IsDirectoryPart (directory : List Char) : Prop := ∀ c ∈ directory.getLast?, isSeparator c = true

/-- A text without separators. -/
def IsComponent (last : List Char) : Prop := ∀ c ∈ last, isSeparator c = false

instance : Decidable (IsDirectoryPart directory) :=
  decidable_of_iff (directory.getLast?.all isSeparator = true) (Option.all_eq_true _ _)

instance : Decidable (IsComponent last) :=
  decidable_of_iff (last.all (fun c ↦ !isSeparator c) = true) (by simp [IsComponent])

theorem not_separator_eq (c : Char) : (decide (c ≠ '/') && decide (c ≠ '\\')) = !isSeparator c := by
  rw [isSeparator, Bool.not_or, decide_not, decide_not]

/-- **A name is its directory part and its last component.** -/
theorem lastComponent_eq_iff :
    lastComponent name = last ↔
      ∃ directory, name = directory ++ last ∧ IsDirectoryPart directory ∧ IsComponent last := by
  simp only [lastComponent, not_separator_eq]
  constructor
  · rintro rfl
    refine ⟨(name.reverse.dropWhile fun c ↦ !isSeparator c).reverse, ?_, fun c hc ↦ ?_,
      fun c hc ↦ ?_⟩
    · rw [← List.reverse_append, List.takeWhile_append_dropWhile, List.reverse_reverse]
    · rw [List.getLast?_reverse] at hc
      have hhead := List.head?_dropWhile_not (fun c ↦ !isSeparator c) name.reverse
      rw [hc] at hhead
      simpa using hhead
    · simpa using List.mem_takeWhile_imp (List.mem_reverse.1 hc)
  · rintro ⟨directory, rfl, hdirectory, hlast⟩
    have hall : ∀ c ∈ last.reverse, (!isSeparator c) = true := fun c hc ↦ by
      rw [hlast c (List.mem_reverse.1 hc), Bool.not_false]
    have hnone : directory.reverse.takeWhile (fun c ↦ !isSeparator c) = [] := by
      rcases hback : directory.reverse with - | ⟨c, back⟩
      · rfl
      · have hlast : directory.getLast? = some c := by
          rw [List.getLast?_eq_head?_reverse, hback, List.head?_cons]
        rw [List.takeWhile_cons_of_neg (by simp [hdirectory c hlast])]
    rw [List.reverse_append, List.takeWhile_append_of_pos hall, hnone, List.append_nil,
      List.reverse_reverse]

/-- Nothing in front of a separator counts. -/
theorem lastComponent_append_cons (hc : isSeparator c = true) (front rest : List Char) :
    lastComponent (front ++ c :: rest) = lastComponent rest := by
  obtain ⟨directory, hrest, hdirectory, hlast⟩ :=
    lastComponent_eq_iff.1 (rfl : lastComponent rest = lastComponent rest)
  refine lastComponent_eq_iff.2 ⟨front ++ c :: directory, ?_, fun d hd ↦ ?_, hlast⟩
  · rw [List.append_assoc, List.cons_append, ← hrest]
  · rw [List.getLast?_append_cons] at hd
    rcases directory with - | ⟨first, directory⟩
    · obtain rfl : c = d := by simpa using hd
      exact hc
    · rw [List.getLast?_cons_cons] at hd
      exact hdirectory d hd

/-! ### Extensions -/

/-- The last component of a name is a stem that is not empty, and an extension: the extension is a
proper end of it. -/
def EndsIn (name extension : List Char) : Prop :=
  ∃ directory last, name = directory ++ last ∧ IsDirectoryPart directory ∧ IsComponent last ∧
    extension <:+ last ∧ extension ≠ last

theorem hasExtension_iff :
    hasExtension last extension = true ↔ extension <:+ last ∧ extension ≠ last := by
  rw [hasExtension, Bool.and_eq_true, decide_eq_true_iff, List.isSuffixOf_iff_suffix, and_comm]
  refine and_congr_right fun hsuffix ↦ ⟨?_, fun hne ↦ ?_⟩
  · rintro hlt rfl
    exact lt_irrefl _ hlt
  · exact lt_of_le_of_ne hsuffix.length_le (mt hsuffix.eq_of_length hne)

theorem endsIn_iff :
    EndsIn name extension ↔ hasExtension (lastComponent name) extension = true := by
  rw [hasExtension_iff]
  constructor
  · rintro ⟨directory, last, hname, hdirectory, hlast, hsuffix⟩
    rwa [lastComponent_eq_iff.2 ⟨directory, hname, hdirectory, hlast⟩]
  · intro hsuffix
    obtain ⟨directory, hname, hdirectory, hlast⟩ :=
      lastComponent_eq_iff.1 (@rfl _ (lastComponent name))
    exact ⟨directory, _, hname, hdirectory, hlast, hsuffix⟩

/-- Extensions none of which is an end of another one. -/
def Apart (table : List (String × OutputFormat)) : Prop :=
  ∀ entry ∈ table, ∀ entry' ∈ table, entry.1.toList <:+ entry'.1.toList → entry = entry'

instance : Decidable (Apart table) := inferInstanceAs (Decidable (∀ entry ∈ table, _))

theorem extensions_apart : Apart extensions := by decide +kernel

/-- **A name has one extension at most.** -/
theorem Apart.unique (h : Apart table) (hentry : entry ∈ table) (hentry' : entry' ∈ table)
    (hends : EndsIn name entry.1.toList) (hends' : EndsIn name entry'.1.toList) :
    entry = entry' := by
  rw [endsIn_iff, hasExtension_iff] at hends hends'
  rcases List.suffix_or_suffix_of_suffix hends.1 hends'.1 with hsuffix | hsuffix
  · exact h entry hentry entry' hentry' hsuffix
  · exact (h entry' hentry' entry hentry hsuffix).symm

/-! ### Tables of extensions -/

/-- The format of a name by a table of extensions: that of the first one which the name has. With
the table `extensions` this is `ofFileName`. -/
def ofTable (table : List (String × OutputFormat)) (name : String) : OutputFormat :=
  match table.find? fun entry ↦ hasExtension (lastComponent name.toList) entry.1.toList with
  | some (_, format) => format
  | none => .unknown

theorem Apart.ofTable_of_endsIn (h : Apart table) (hentry : entry ∈ table)
    (hends : EndsIn text.toList entry.1.toList) : ofTable table text = entry.2 := by
  rw [ofTable]
  split
  · rename_i extension format hfind
    have hfound := List.find?_some hfind
    exact congrArg Prod.snd
      (h.unique (List.mem_of_find?_eq_some hfind) hentry (endsIn_iff.2 hfound) hends)
  · rename_i hfind
    exact absurd (endsIn_iff.1 hends) (List.find?_eq_none.1 hfind entry hentry)

theorem ofTable_of_not_endsIn (h : ∀ entry ∈ table, ¬ EndsIn text.toList entry.1.toList) :
    ofTable table text = .unknown := by
  rw [ofTable, List.find?_eq_none.2 fun entry hentry ↦ mt endsIn_iff.2 (h entry hentry)]

/-- **The order in which extensions are tried makes no difference.** -/
theorem Apart.ofTable_perm {table' : List (String × OutputFormat)} (h : Apart table)
    (hperm : table'.Perm table) (text : String) : ofTable table' text = ofTable table text := by
  have h' : Apart table' := fun entry hentry entry' hentry' ↦
    h entry (hperm.mem_iff.1 hentry) entry' (hperm.mem_iff.1 hentry')
  by_cases hsome : ∃ entry ∈ table, EndsIn text.toList entry.1.toList
  · obtain ⟨entry, hentry, hends⟩ := hsome
    rw [h.ofTable_of_endsIn hentry hends, h'.ofTable_of_endsIn (hperm.mem_iff.2 hentry) hends]
  · push Not at hsome
    rw [ofTable_of_not_endsIn hsome,
      ofTable_of_not_endsIn fun entry hentry ↦ hsome entry (hperm.mem_iff.1 hentry)]

/-! ### The supported extensions -/

/-- The supported extensions are those of the known formats. -/
theorem mem_supported_iff {extension : String} :
    extension ∈ supported ↔ ∃ entry ∈ extensions, entry.1 = extension := by
  have hperm : (extensions.map Prod.fst).Perm supported := by decide
  rw [← hperm.mem_iff, List.mem_map]

/-- **A name has one supported extension at most.** -/
theorem supported_unique {extension extension' : String} (h : extension ∈ supported)
    (h' : extension' ∈ supported) (hends : EndsIn name extension.toList)
    (hends' : EndsIn name extension'.toList) : extension = extension' := by
  obtain ⟨entry, hentry, rfl⟩ := mem_supported_iff.1 h
  obtain ⟨entry', hentry', rfl⟩ := mem_supported_iff.1 h'
  rw [extensions_apart.unique hentry hentry' hends hends']

theorem ofFileName_of_endsIn (hentry : entry ∈ extensions)
    (hends : EndsIn text.toList entry.1.toList) : ofFileName text = entry.2 :=
  extensions_apart.ofTable_of_endsIn hentry hends

/-- **A format is known if and only if the name has a supported extension.** -/
theorem isKnown_ofFileName_iff :
    (ofFileName text).isKnown = true ↔
      ∃ extension ∈ supported, EndsIn text.toList extension.toList := by
  constructor
  · intro hknown
    by_contra hnone
    push Not at hnone
    have hunknown : ofFileName text = .unknown := ofTable_of_not_endsIn fun entry hentry ↦
      hnone entry.1 (mem_supported_iff.2 ⟨entry, hentry, rfl⟩)
    rw [hunknown] at hknown
    cases hknown
  · rintro ⟨extension, hsupported, hends⟩
    obtain ⟨entry, hentry, rfl⟩ := mem_supported_iff.1 hsupported
    have hall : ∀ entry ∈ extensions, entry.2.isKnown = true := by decide
    rw [ofFileName_of_endsIn hentry hends]
    exact hall entry hentry

/-- No extension has a separator in it. -/
theorem isComponent_of_mem_extensions (hentry : entry ∈ extensions) :
    IsComponent entry.1.toList := by
  have hall : ∀ entry ∈ extensions, IsComponent entry.1.toList := by decide
  exact hall entry hentry

/-- A stem with a supported extension behind it has this extension, in every directory. -/
theorem endsIn_of_stem {stem : List Char} (hentry : entry ∈ extensions)
    (hdirectory : IsDirectoryPart directory) (hne : stem ≠ []) (hstem : IsComponent stem) :
    EndsIn (directory ++ stem ++ entry.1.toList) entry.1.toList := by
  refine ⟨directory, stem ++ entry.1.toList, List.append_assoc _ _ _, hdirectory, ?_,
    List.suffix_append _ _, fun h ↦ hne (List.self_eq_append_left.1 h)⟩
  exact List.forall_mem_append.2 ⟨hstem, isComponent_of_mem_extensions hentry⟩

/-! ### Joined names -/

/-- **A joined path has the last component of the path that was joined.** -/
theorem lastComponent_join (base p : Path) :
    lastComponent (base.join p).text.toList = lastComponent p.text.toList := by
  have hshown : ∀ front : OsText, OsText.text (front ++ .char '/' :: p.letters) =
      front.text ++ String.ofList ('/' :: p.text.toList) := fun front ↦ by
    rw [OsText.text_append, OsText.text, OsText.text, List.map_cons, Path.text, OsText.toList_text]
    rfl
  rcases habsolute : p.isAbsolute with - | -
  · rcases @Path.letters_join p base habsolute with ⟨-, hjoin⟩ | ⟨front, -, hjoin⟩ | ⟨-, -, hjoin⟩
    · rw [hjoin]
    · rw [Path.text, hjoin, hshown, String.toList_append, String.toList_ofList,
        lastComponent_append_cons (by decide)]
    · rw [Path.text, hjoin, hshown, String.toList_append, String.toList_ofList,
        lastComponent_append_cons (by decide)]
  · rw [Path.join, habsolute, Bool.true_or, if_pos rfl]

theorem ofFileName_join (base p : Path) : ofFileName (base.join p).text = ofFileName p.text := by
  rw [ofFileName, ofFileName, lastComponent_join]

end WorkspaceIndex.OutputFormat
