import WorkspaceIndex.Proofs.Manifest.Labels
/-!
# Labels in bytes

The range of a label is made of numbers of bytes, and a report cuts the bytes of the manifest there.
A range *marks* a text if the cut gives the bytes of that text and goes through no character
(`Span.Marks`). What is marked in bytes is what is covered in characters (`Span.marks_iff_covers`),
so every range that a search returns can be cut out, whatever the text and the name are made of
(`Label.marks_of_search`).
-/

namespace WorkspaceIndex

open Text (byteLength)

/-! ### Ranges of bytes -/

theorem Text.utf8ByteSize_ofList (s : List Char) :
    (String.ofList s).utf8ByteSize = byteLength s := by
  induction s with
  | nil => rfl
  | cons c s ih =>
    rw [String.ofList_cons, String.utf8ByteSize_append, String.utf8ByteSize_singleton, ih,
      byteLength]

theorem Text.byteLength_toList (s : String) : byteLength s.toList = s.utf8ByteSize := by
  rw [← utf8ByteSize_ofList, String.ofList_toList]

namespace Span

variable {source text : String} {span : Span}

/-- A range marks a text: it is a range of the source, starts and ends between characters, and holds
the bytes of the text. -/
structure Marks (source : String) (span : Span) (text : String) : Prop where
  inside : span.offset + span.length ≤ source.utf8ByteSize
  starts : String.Pos.Raw.IsValid source ⟨span.offset⟩
  ends : String.Pos.Raw.IsValid source ⟨span.offset + span.length⟩
  bytes : source.toByteArray.extract span.offset (span.offset + span.length) = text.toByteArray

theorem covers_iff_append : span.Covers source.toList text.toList ↔
    ∃ before after, source = before ++ (text ++ after) ∧
      span = ⟨before.utf8ByteSize, text.utf8ByteSize⟩ := by
  constructor
  · rintro ⟨before, after, hsource, rfl⟩
    refine ⟨String.ofList before, String.ofList after, ?_, ?_⟩
    · rw [← String.toList_inj, hsource]
      simp
    · rw [Text.utf8ByteSize_ofList, Text.byteLength_toList]
  · rintro ⟨before, after, rfl, rfl⟩
    refine ⟨before.toList, after.toList, by simp, ?_⟩
    rw [Text.byteLength_toList, Text.byteLength_toList]

/-- The bytes behind a text and in front of another. -/
theorem extract_toByteArray_append (before text after : String) :
    (before ++ (text ++ after)).toByteArray.extract before.utf8ByteSize
      (before.utf8ByteSize + text.utf8ByteSize) = text.toByteArray := by
  have hcut := ByteArray.extract_append_size_add (a := before.toByteArray)
    (b := (text ++ after).toByteArray) (i := 0) (j := text.toByteArray.size)
  rw [String.toByteArray_append, ← String.size_toByteArray, ← String.size_toByteArray]
  refine hcut.trans ?_
  rw [String.toByteArray_append, ByteArray.extract_append_eq_left rfl]

/-- A range that starts behind a text and ends between characters ends so in what is left. -/
theorem isValid_length {before rest : String} (hoffset : span.offset = before.utf8ByteSize)
    (hends : String.Pos.Raw.IsValid (before ++ rest) ⟨span.offset + span.length⟩) :
    String.Pos.Raw.IsValid rest ⟨span.length⟩ := by
  rcases String.Pos.Raw.isValid_append.1 hends with hempty | ⟨-, hrest⟩
  · -- the range ends where it starts
    have hle : span.offset + span.length ≤ before.utf8ByteSize := hempty.le_rawEndPos
    have hzero : span.length = 0 := by omega
    rw [hzero]
    exact String.Pos.Raw.isValid_zero
  · have hcut : (⟨span.offset + span.length⟩ : String.Pos.Raw) - before = ⟨span.length⟩ := by
      simp [String.Pos.Raw.ext_iff, hoffset]
    rwa [hcut] at hrest

/-- **A range marks a text exactly if it covers the characters of the text.** -/
theorem marks_iff_covers : span.Marks source text ↔ span.Covers source.toList text.toList := by
  rw [covers_iff_append]
  constructor
  · intro h
    obtain ⟨before, rest, rfl, hbefore⟩ := String.Pos.Raw.isValid_iff_exists_append.1 h.starts
    have hoffset : span.offset = before.utf8ByteSize := congrArg String.Pos.Raw.byteIdx hbefore
    obtain ⟨marked, after, rfl, hmarked⟩ :=
      String.Pos.Raw.isValid_iff_exists_append.1 (isValid_length hoffset h.ends)
    have hlength : span.length = marked.utf8ByteSize := congrArg String.Pos.Raw.byteIdx hmarked
    have hbytes := h.bytes
    rw [hoffset, hlength, extract_toByteArray_append, String.toByteArray_inj] at hbytes
    subst hbytes
    exact ⟨before, after, rfl, by rw [← hoffset, ← hlength]⟩
  · rintro ⟨before, after, rfl, rfl⟩
    refine ⟨?_, ?_, ?_, extract_toByteArray_append before text after⟩
    · simp only [String.utf8ByteSize_append]
      omega
    · exact String.Pos.Raw.isValid_iff_exists_append.2 ⟨before, text ++ after, rfl, rfl⟩
    · exact String.Pos.Raw.isValid_iff_exists_append.2 ⟨before ++ text, after,
        String.append_assoc.symm, by simp [String.Pos.Raw.ext_iff]⟩

end Span

/-! ### What the searches return -/

namespace Label

variable {source name : String} {form : Form} {forms : List Form} {span : Span}

/-- The text of a form. -/
def Form.text (form : Form) : List Char := form.before ++ form.marked ++ form.after

/-- The form in which a text is looked for between quotes. -/
def quoted (text : String) : Form := ⟨['"'], text.toList, ['"']⟩

/-- A form stands somewhere exactly if its text occurs. -/
theorem exists_standsAt_iff {source : List Char} :
    (∃ place, form.StandsAt source place) ↔ form.text <:+: source := by
  constructor
  · rintro ⟨_, front, back, rfl, -⟩
    exact ⟨front, back, List.append_assoc _ _ _⟩
  · rintro ⟨front, back, rfl⟩
    exact ⟨_, front, back, List.append_assoc _ _ _, rfl⟩

theorem moduleSpan?_eq_some_iff :
    moduleSpan? source name = some span ↔ Leads source.toList (declarations name) span := by
  rw [moduleSpan?_eq_findSome?]
  exact findSome?_find?_eq_some_iff before_ne_nil_of_mem_declarations

theorem moduleSpan?_eq_none_iff :
    moduleSpan? source name = none ↔
      ∀ form ∈ declarations name, ¬form.text <:+: source.toList := by
  rw [moduleSpan?_eq_findSome?, findSome?_find?_eq_none_iff before_ne_nil_of_mem_declarations]
  refine forall₂_congr fun form _ ↦ ?_
  rw [← exists_standsAt_iff, not_exists]

theorem quotedSpan?_eq_some_iff :
    quotedSpan? source name = some span ↔ Leads source.toList [quoted name] span := by
  have hsearch : quotedSpan? source name =
      [quoted name].findSome? fun form ↦ form.find? source.toList := by
    rw [List.findSome?_singleton]
    rfl
  rw [hsearch]
  exact findSome?_find?_eq_some_iff (by simp [quoted])

/-- The place that leads among forms of one name marks the name. -/
theorem Leads.marks (h : Leads source.toList forms span)
    (hmarked : ∀ form ∈ forms, form.marked = name.toList) : span.Marks source name := by
  obtain ⟨form, hform, hstands⟩ := h.stands
  exact Span.marks_iff_covers.2 (hmarked form hform ▸ hstands.covers)

/-- **What the searches for a name return.** Every range that is found marks the name, be it looked
for where a module is declared or between quotes. A declaration is not found if and only if none of
its forms occurs, and what is found is the place of the name where the first form that occurs does
so first. -/
theorem marks_of_search (source name : String) :
    (∀ span, moduleSpan? source name = some span → span.Marks source name) ∧
      (∀ span, quotedSpan? source name = some span → span.Marks source name) ∧
      (moduleSpan? source name = none ↔
        ∀ form ∈ declarations name, ¬form.text <:+: source.toList) ∧
      (∀ span, moduleSpan? source name = some span ↔
        Leads source.toList (declarations name) span) ∧
      ∀ span, quotedSpan? source name = some span ↔ Leads source.toList [quoted name] span := by
  refine ⟨fun span hspan ↦ ?_, fun span hspan ↦ ?_, moduleSpan?_eq_none_iff,
    fun span ↦ moduleSpan?_eq_some_iff, fun span ↦ quotedSpan?_eq_some_iff⟩
  · exact (moduleSpan?_eq_some_iff.1 hspan).marks marked_of_mem_declarations
  · exact (quotedSpan?_eq_some_iff.1 hspan).marks (by simp [quoted])

/-- A text in which a name of more bytes than characters stands behind others. -/
def accented : String := "é = \"naïve\"\n[modules.\"naïve\"]\n"

theorem marks_of_search_accented :
    moduleSpan? accented "naïve" = some ⟨24, 6⟩ ∧ Span.Marks accented ⟨24, 6⟩ "naïve" ∧
      quotedSpan? accented "naïve" = some ⟨6, 6⟩ ∧ Span.Marks accented ⟨6, 6⟩ "naïve" := by
  have hdeclared : moduleSpan? accented "naïve" = some ⟨24, 6⟩ := by decide +kernel
  have hquoted : quotedSpan? accented "naïve" = some ⟨6, 6⟩ := by decide +kernel
  obtain ⟨hmodule, hquotes, -⟩ := marks_of_search accented "naïve"
  exact ⟨hdeclared, hmodule _ hdeclared, hquoted, hquotes _ hquoted⟩

end Label

end WorkspaceIndex
