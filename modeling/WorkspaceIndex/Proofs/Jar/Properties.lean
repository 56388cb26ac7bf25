import WorkspaceIndex.Jar
import WorkspaceIndex.Proofs.Text.Pieces
/-!
# What a file of properties says

A line of a file of properties is blank, a comment, without a divider, or it sets a key to a value,
and there are blanks around both as anybody likes. `Says` is this description, by how a line is
written. Reading a line agrees with it (`says_iff`), so every line says one thing, and only one.

To trim a line before it is cut makes no difference but for finding comments, since no blank
divides: `property?_eq` reads the line as it stands. And of all lines that set a key it is the last
that counts (`IsSetTo`), which is what looking a key up from behind comes to, by induction from the
end of the file.
-/

namespace WorkspaceIndex.Jar

open Text

variable {line front key value : List Char} {entry : Option (List Char × List Char)} {c : Char}

/-! ### Lines by how they are written -/

/-- Whether a character stands between a key and its value. -/
def isDivider (c : Char) : Bool := c = '=' || c = ':'

/-- Whether a character starts a comment. -/
def isMark (c : Char) : Bool := c = '#' || c = '!'

/-- What a line says, by how it is written: nothing, or a key with its value. -/
inductive Says : List Char → Option (List Char × List Char) → Prop where
  | blank {line : List Char} (blank : isAllBlank line = true) : Says line none
  | comment {front text : List Char} {mark : Char} (front_blank : isAllBlank front = true)
      (mark_isMark : isMark mark = true) : Says (front ++ mark :: text) none
  | bare {line : List Char} (undivided : ∀ c ∈ line, isDivider c = false) : Says line none
  | sets {front key gap gap' value back : List Char} {divider : Char}
      (front_blank : isAllBlank front = true) (gap_blank : isAllBlank gap = true)
      (gap'_blank : isAllBlank gap' = true) (back_blank : isAllBlank back = true)
      (divider_isDivider : isDivider divider = true) (key_trimmed : IsTrimmed key)
      (key_undivided : ∀ c ∈ key, isDivider c = false)
      (key_unmarked : ∀ c ∈ key.head?, isMark c = false) (value_trimmed : IsTrimmed value) :
      Says (front ++ (key ++ gap) ++ divider :: (gap' ++ (value ++ back))) (some (key, value))

/-! ### Three kinds of characters -/

theorem of_isDivider (h : isDivider c = true) : isBlank c = false ∧ isMark c = false := by
  rw [isDivider, Bool.or_eq_true, decide_eq_true_iff, decide_eq_true_iff] at h
  rcases h with rfl | rfl <;> decide

theorem not_isBlank_of_isMark (h : isMark c = true) : isBlank c = false := by
  rw [isMark, Bool.or_eq_true, decide_eq_true_iff, decide_eq_true_iff] at h
  rcases h with rfl | rfl <;> decide

theorem not_isMark_of_isBlank (h : isBlank c = true) : isMark c = false := by
  by_contra hmark
  rw [not_isBlank_of_isMark (by simpa using hmark)] at h
  cases h

/-- No blank divides. -/
theorem undivided_of_isAllBlank (h : isAllBlank line = true) :
    ∀ c ∈ line, isDivider c = false := by
  intro c hc
  by_contra hdivider
  have hblank := List.all_eq_true.1 h c hc
  rw [(of_isDivider (by simpa using hdivider)).1] at hblank
  cases hblank

/-! ### Reading a line -/

/-- Whether the first character of a line that is not blank starts a comment. -/
def isComment (line : List Char) : Bool := (trimFront line).head?.any isMark

theorem any_isMark_head?_trim (line : List Char) :
    (trim line).head?.any isMark = isComment line := by
  obtain ⟨back, hkept, hback, -⟩ := dropBack_eq_iff.1 (rfl : trim line = trim line)
  rw [isComment, hkept]
  rcases trim line with - | ⟨c, rest⟩
  · rcases back with - | ⟨c, back⟩
    · rfl
    · exact (not_isMark_of_isBlank (hback c List.mem_cons_self)).symm
  · rfl

/-- A line is cut where it would be cut without the blanks at its ends. -/
theorem cutWhere?_isDivider_trim (line : List Char) :
    (cutWhere? isDivider line).map (fun found ↦ (trim found.1, trim found.2)) =
      (cutWhere? isDivider (trim line)).map fun found ↦ (trim found.1, trim found.2) := by
  obtain ⟨front, back, hline, hfront, hback, -⟩ := trim_eq_iff.1 (rfl : trim line = trim line)
  rcases hcut : cutWhere? isDivider (trim line) with - | ⟨before, after⟩
  · have hnone := cutWhere?_eq_none_iff.1 hcut
    have hall : ∀ c ∈ line, isDivider c = false := by
      rw [hline, List.forall_mem_append, List.forall_mem_append]
      exact ⟨undivided_of_isAllBlank hfront, hnone, undivided_of_isAllBlank hback⟩
    rw [cutWhere?_eq_none_iff.2 hall]
  · obtain ⟨c, hc, htrim, hbefore⟩ := cutWhere?_eq_some_iff.1 hcut
    have hfound : cutWhere? isDivider line = some (front ++ before, after ++ back) := by
      refine cutWhere?_eq_some_iff.2 ⟨c, hc, ?_, ?_⟩
      · rw [hline, htrim]
        simp
      · rw [List.forall_mem_append]
        exact ⟨undivided_of_isAllBlank hfront, hbefore⟩
    rw [hfound, Option.map_some, trim_append_left hfront, trim_append_right hback]
    rfl

/-- A line that is no comment is cut at its first divider as it stands. -/
theorem property?_eq (line : List Char) :
    property? line =
      if isComment line then none
      else (cutWhere? isDivider line).map fun found ↦ (trim found.1, trim found.2) := by
  rw [cutWhere?_isDivider_trim, ← any_isMark_head?_trim, property?]
  split
  · rename_i htrim
    rw [htrim]
    rfl
  · rename_i htrim
    rw [htrim]
    rfl
  · rename_i htrim
    rw [htrim]
    rfl
  · rename_i hhash hbang
    rw [if_neg]
    · rfl
    · rcases htrim : trim line with - | ⟨c, rest⟩
      · exact Bool.false_ne_true
      · intro hmark
        have hc : isMark c = true := hmark
        rw [isMark, Bool.or_eq_true, decide_eq_true_iff, decide_eq_true_iff] at hc
        rcases hc with rfl | rfl
        · exact hhash rest htrim
        · exact hbang rest htrim

theorem isComment_append (hfront : isAllBlank front = true) (text : List Char) :
    isComment (front ++ text) = isComment text := by
  rw [isComment, trimFront, dropFront, List.dropWhile_append_of_pos (List.all_eq_true.1 hfront)]
  rfl

theorem isComment_cons (hc : isBlank c = false) (text : List Char) :
    isComment (c :: text) = isMark c := by
  rw [isComment, trimFront, dropFront_of_head? (by simpa using hc)]
  rfl

/-- A line is a comment if and only if there is a mark behind the blanks at its front. -/
theorem isComment_iff :
    isComment line = true ↔
      ∃ front mark text, isAllBlank front = true ∧ isMark mark = true ∧
        line = front ++ mark :: text := by
  constructor
  · intro h
    obtain ⟨front, hline, hfront, -⟩ := dropFront_eq_iff.1 (rfl : trimFront line = trimFront line)
    rw [isComment] at h
    rcases htrim : trimFront line with - | ⟨mark, text⟩
    · rw [htrim] at h
      cases h
    · rw [htrim] at h hline
      exact ⟨front, mark, text, List.all_eq_true.2 hfront, h, hline⟩
  · rintro ⟨front, mark, text, hfront, hmark, rfl⟩
    rw [isComment_append hfront, isComment_cons (not_isBlank_of_isMark hmark), hmark]

/-- A line on which a key is set is a comment if and only if the key looks like one. -/
theorem isComment_sets {gap tail : List Char} (hfront : isAllBlank front = true)
    (hgap : isAllBlank gap = true) (hc : isDivider c = true) (hkey : IsTrimmed key) :
    isComment (front ++ (key ++ gap) ++ c :: tail) = key.head?.any isMark := by
  rw [List.append_assoc, isComment_append hfront, List.append_assoc]
  rcases key with - | ⟨d, rest⟩
  · rw [List.nil_append, isComment_append hgap, isComment_cons (of_isDivider hc).1]
    exact (of_isDivider hc).2
  · exact isComment_cons (hkey.1 d rfl) _

theorem property?_of_written (h : Says line entry) : property? line = entry := by
  rw [property?_eq]
  cases h with
  | blank blank =>
    rw [cutWhere?_eq_none_iff.2 (undivided_of_isAllBlank blank), Option.map_none, ite_self]
  | comment front_blank mark_isMark =>
    rw [if_pos (isComment_iff.2 ⟨_, _, _, front_blank, mark_isMark, rfl⟩)]
  | bare undivided =>
    rw [cutWhere?_eq_none_iff.2 undivided, Option.map_none, ite_self]
  | @sets front key gap gap' value back divider front_blank gap_blank gap'_blank back_blank
      divider_isDivider key_trimmed key_undivided key_unmarked value_trimmed =>
    have hbefore : ∀ c ∈ front ++ (key ++ gap), isDivider c = false := by
      rw [List.forall_mem_append, List.forall_mem_append]
      exact ⟨undivided_of_isAllBlank front_blank, key_undivided, undivided_of_isAllBlank gap_blank⟩
    have hkey : trim (front ++ (key ++ gap)) = key :=
      trim_eq_iff.2 ⟨front, gap, rfl, front_blank, gap_blank, key_trimmed⟩
    have hvalue : trim (gap' ++ (value ++ back)) = value :=
      trim_eq_iff.2 ⟨gap', back, rfl, gap'_blank, back_blank, value_trimmed⟩
    have hcomment :
        ¬ isComment (front ++ (key ++ gap) ++ divider :: (gap' ++ (value ++ back))) := by
      rw [isComment_sets front_blank gap_blank divider_isDivider key_trimmed]
      rcases hhead : key.head? with - | c
      · exact Bool.false_ne_true
      · simpa using key_unmarked c hhead
    rw [if_neg hcomment, cutWhere?_eq_some_iff.2 ⟨divider, divider_isDivider, rfl, hbefore⟩,
      Option.map_some, hkey, hvalue]

/-- **Reading a line agrees with how it is written.** -/
theorem says_iff : Says line entry ↔ property? line = entry := by
  refine ⟨property?_of_written, ?_⟩
  rintro rfl
  rw [property?_eq]
  split
  · rename_i hcomment
    obtain ⟨front, mark, text, hfront, hmark, rfl⟩ := isComment_iff.1 hcomment
    exact .comment hfront hmark
  · rename_i hcomment
    rcases hcut : cutWhere? isDivider line with - | ⟨before, after⟩
    · exact .bare (cutWhere?_eq_none_iff.1 hcut)
    · obtain ⟨divider, hdivider, rfl, hbefore⟩ := cutWhere?_eq_some_iff.1 hcut
      obtain ⟨front, gap, hkey, hfront, hgap, hkey_trimmed⟩ :=
        trim_eq_iff.1 (rfl : trim before = trim before)
      obtain ⟨gap', back, hvalue, hgap', hback, hvalue_trimmed⟩ :=
        trim_eq_iff.1 (rfl : trim after = trim after)
      have hsays : Says
          (front ++ (trim before ++ gap) ++ divider :: (gap' ++ (trim after ++ back)))
          (some (trim before, trim after)) := by
        refine .sets hfront hgap hgap' hback hdivider hkey_trimmed (fun c hc ↦ ?_) (fun c hc ↦ ?_)
          hvalue_trimmed
        · refine hbefore c ?_
          rw [hkey]
          exact List.mem_append_right _ (List.mem_append_left _ hc)
        · rw [hkey, isComment_sets hfront hgap hdivider hkey_trimmed] at hcomment
          simpa [Option.mem_def.1 hc] using hcomment
      rwa [← hkey, ← hvalue] at hsays

/-- A line says one thing, and only one. -/
theorem existsUnique_entry (line : List Char) : ∃! entry, Says line entry :=
  ⟨property? line, says_iff.2 rfl, fun _ h ↦ (says_iff.1 h).symm⟩

/-! ### The last line that sets a key -/

/-- No line of a file sets the key. -/
def IsUnset (content key : String) : Prop :=
  ∀ line ∈ lines content.toList, ∀ value, ¬ Says line (some (key.toList, value))

/-- The last line of a file that sets the key sets it to the value. -/
def IsSetTo (content key value : String) : Prop :=
  ∃ before line after, lines content.toList = before ++ line :: after ∧
    Says line (some (key.toList, value.toList)) ∧
    ∀ other ∈ after, ∀ value, ¬ Says other (some (key.toList, value))

theorem lastValue?_eq_none_iff {content key : String} :
    lastValue? key (properties content.toList) = none ↔ IsUnset content key := by
  rw [lastValue?, List.lookup_eq_none_iff, IsUnset, properties]
  simp only [List.mem_reverse, List.mem_filterMap, says_iff]
  constructor
  · intro h line hline value hsays
    simpa using h _ ⟨line, hline, hsays⟩
  · rintro h ⟨key', value⟩ ⟨line, hline, hsays⟩
    rw [bne_iff_ne]
    rintro rfl
    exact h line hline value hsays

/-- **The value of a key is the one that the last line for it sets.** -/
theorem lastValue?_eq_some_iff {content key : String} {value : List Char} :
    lastValue? key (properties content.toList) = some value ↔
      IsSetTo content key (String.ofList value) := by
  rw [lastValue?, List.lookup_eq_some_iff, IsSetTo, properties, String.toList_ofList]
  simp only [says_iff]
  constructor
  · rintro ⟨behind, before, hsplit, hbehind⟩
    rw [List.reverse_eq_iff, List.reverse_append, List.reverse_cons, List.append_assoc,
      List.singleton_append, List.filterMap_eq_append_iff] at hsplit
    obtain ⟨front, tail, hlines, -, hsplit⟩ := hsplit
    obtain ⟨silent, line, after, rfl, -, hline, hafter⟩ := List.filterMap_eq_cons_iff.1 hsplit
    refine ⟨front ++ silent, line, after, by rw [hlines, List.append_assoc], hline,
      fun other hother value' hsets ↦ ?_⟩
    -- a line behind it that sets the key would have been found first
    have hmem : (key.toList, value') ∈ behind := by
      rw [← List.mem_reverse, ← hafter]
      exact List.mem_filterMap.2 ⟨other, hother, hsets⟩
    simpa using hbehind _ hmem
  · rintro ⟨before, line, after, hlines, hline, hafter⟩
    refine ⟨(after.filterMap property?).reverse, (before.filterMap property?).reverse, ?_, ?_⟩
    · rw [hlines, List.filterMap_append, List.filterMap_cons_some hline]
      simp
    · rintro ⟨key', value'⟩ hmem
      obtain ⟨other, hother, hsets⟩ := List.mem_filterMap.1 (List.mem_reverse.1 hmem)
      rw [bne_iff_ne]
      rintro rfl
      exact hafter other hother value' hsets

/-- What a key is set to is trimmed. -/
theorem IsSetTo.isTrimmed {content key value : String} (h : IsSetTo content key value) :
    IsTrimmed value.toList := by
  obtain ⟨_, line, _, -, hsays, -⟩ := h
  cases hsays
  assumption

/-! ### Coordinates -/

/-- The keys of the three coordinates. -/
def coordinateKeys : List String := ["groupId", "artifactId", "version"]

/-- A key with a value that is more than blanks. -/
def IsGiven (content key value : String) : Prop := IsSetTo content key value ∧ value ≠ ""

/-- A key without a value, or with one of blanks only. -/
def IsMissing (content key : String) : Prop := IsUnset content key ∨ IsSetTo content key ""

theorem isGiven_iff {content key value : String} :
    IsGiven content key value ↔
      lastValue? key (properties content.toList) = some value.toList ∧ value.toList ≠ [] := by
  rw [IsGiven, lastValue?_eq_some_iff, String.ofList_toList, ne_eq, ne_eq, String.toList_eq_nil_iff]

theorem isMissing_iff {content key : String} :
    IsMissing content key ↔
      lastValue? key (properties content.toList) = none ∨
        lastValue? key (properties content.toList) = some [] := by
  rw [IsMissing, lastValue?_eq_none_iff, lastValue?_eq_some_iff, String.ofList_nil]

theorem identityOf?_eq_some_iff {content : String} {identity : PackageIdentity} :
    identityOf? content = some identity ↔
      IsGiven content "groupId" identity.group ∧ IsGiven content "artifactId" identity.artifact ∧
        IsGiven content "version" identity.version := by
  simp only [identityOf?, isGiven_iff]
  obtain ⟨group, artifact, version⟩ := identity
  rcases lastValue? "groupId" (properties content.toList) with - | group'
  · simp
  rcases lastValue? "artifactId" (properties content.toList) with - | artifact'
  · simp
  rcases lastValue? "version" (properties content.toList) with - | version'
  · simp
  simp only [Option.some.injEq]
  constructor
  · intro h
    split at h
    · cases h
    · rename_i hparts
      cases h
      simpa [not_or, and_assoc] using hparts
  · rintro ⟨⟨rfl, hgroup⟩, ⟨rfl, hartifact⟩, rfl, hversion⟩
    rw [if_neg, String.ofList_toList, String.ofList_toList, String.ofList_toList]
    simp only [Bool.or_eq_true, List.isEmpty_iff, not_or]
    exact ⟨⟨hgroup, hartifact⟩, hversion⟩

theorem identityOf?_eq_none_iff {content : String} :
    identityOf? content = none ↔ ∃ key ∈ coordinateKeys, IsMissing content key := by
  simp only [identityOf?, isMissing_iff, coordinateKeys, List.exists_mem_cons_iff]
  rcases lastValue? "groupId" (properties content.toList) with - | group
  · simp
  rcases lastValue? "artifactId" (properties content.toList) with - | artifact
  · simp
  rcases lastValue? "version" (properties content.toList) with - | version
  · simp
  simp [or_assoc, imp_iff_not_or]

/-- **The coordinates of a package are what the last lines for their keys set.** A file gives an
identity exactly if each of the three keys is set and the last line for it sets it to more than
blanks; these values are the coordinates. It gives none exactly if one of the keys is never set, or
was last set to nothing but blanks. So coordinates are never empty and have no blanks at their ends.
What a line sets is settled by how it is written: every line says one thing, and only one. -/
theorem identityOf?_of_lines (content : String) :
    (∀ group artifact version, identityOf? content = some ⟨group, artifact, version⟩ ↔
        IsGiven content "groupId" group ∧ IsGiven content "artifactId" artifact ∧
          IsGiven content "version" version) ∧
      (identityOf? content = none ↔ ∃ key ∈ coordinateKeys, IsMissing content key) ∧
      (∀ identity, identityOf? content = some identity →
        ∀ part ∈ [identity.group, identity.artifact, identity.version],
          part ≠ "" ∧ IsTrimmed part.toList) ∧
      ∀ line ∈ lines content.toList, ∃! entry, Says line entry := by
  refine ⟨fun group artifact version ↦ identityOf?_eq_some_iff, identityOf?_eq_none_iff,
    fun identity h ↦ ?_, fun line _ ↦ existsUnique_entry line⟩
  obtain ⟨⟨hgroup, hgroup'⟩, ⟨hartifact, hartifact'⟩, hversion, hversion'⟩ :=
    identityOf?_eq_some_iff.1 h
  simp only [List.forall_mem_cons]
  exact ⟨⟨hgroup', hgroup.isTrimmed⟩, ⟨hartifact', hartifact.isTrimmed⟩,
    ⟨hversion', hversion.isTrimmed⟩, fun _ h ↦ absurd h List.not_mem_nil⟩

/-- A file in which the group is set twice, with a comment, a line without divider and a line for
another key. -/
def overridden : String :=
  "# groupId=org.x\r\ngroupId=org.a\nversion : 1.0=final\nname\n" ++
    "url=b\n artifactId:b!\n\tgroupId\t= org.b "

/-- The last line for the group counts, and only the first divider of a line divides. -/
theorem identityOf?_of_overridden :
    identityOf? overridden = some ⟨"org.b", "b!", "1.0=final"⟩ ∧
      IsSetTo overridden "groupId" "org.b" ∧ ¬ IsMissing overridden "version" := by
  have hidentity : identityOf? overridden = some ⟨"org.b", "b!", "1.0=final"⟩ := by decide +kernel
  obtain ⟨hgiven, hmissing, -, -⟩ := identityOf?_of_lines overridden
  refine ⟨hidentity, ((hgiven _ _ _).1 hidentity).1.1, fun h ↦ ?_⟩
  rw [hmissing.2 ⟨"version", by decide, h⟩] at hidentity
  cases hidentity

end WorkspaceIndex.Jar
