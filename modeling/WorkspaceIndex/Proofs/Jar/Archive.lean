import Mathlib.Logic.Relation
import WorkspaceIndex.Jar
import WorkspaceIndex.Proofs.Text.Utf8
/-!
# The coordinates inside an archive

An entry of an archive is passed over if it is no candidate, and if it is a text that is incomplete.
The first entry that is not passed over decides, and what comes behind it is never looked at: it
gives its coordinates, or it is no text and then there are none. So there are two ways not to find
any, besides there being no archive: nothing decides, or what decides is no text
(`identityOfEntries?_eq_none_iff`).

An entry that is no candidate is not looked at. An archive is edited by putting in such entries,
taking them out and moving them about (`Edit`), and this leads to exactly the archives with the same
candidates in the same order (`edits_iff`).
-/

namespace WorkspaceIndex

/-- The bytes of a content. -/
def Blob.toByteArray : Blob → ByteArray
  | .text s => s.toByteArray
  | .bytes b => b.toByteArray

theorem Blob.text?_eq_some_iff {content : Blob} {text : String} :
    content.text? = some text ↔ content.toByteArray = text.toByteArray := by
  rcases content with s | b
  · rw [Blob.text?, Option.some_inj, Blob.toByteArray, String.toByteArray_inj]
  · exact Text.Utf8.decode?_eq_some_iff

theorem Blob.text?_eq_none_iff {content : Blob} :
    content.text? = none ↔ ¬ content.toByteArray.IsValidUTF8 := by
  rcases content with s | b
  · exact iff_of_false (Option.some_ne_none s) (not_not_intro s.isValidUTF8)
  · exact Text.Utf8.decode?_eq_none_iff

namespace Jar

variable {entry : ArchiveEntry} {entries entries' before : List ArchiveEntry}
  {identity : PackageIdentity} {files : FileStore} {path : Path}

/-! ### Entries by what comes of them -/

/-- An entry is a text that gives these coordinates. -/
def Gives (entry : ArchiveEntry) (identity : PackageIdentity) : Prop :=
  ∃ text : String, entry.content.toByteArray = text.toByteArray ∧ identityOf? text = some identity

/-- An entry is a text in which coordinates are missing. -/
def IsIncomplete (entry : ArchiveEntry) : Prop :=
  ∃ text : String, entry.content.toByteArray = text.toByteArray ∧ identityOf? text = none

/-- An entry from which the search goes on: it is incomplete if it is a candidate. -/
def IsPassedOver (entry : ArchiveEntry) : Prop := isCandidate entry.name = true → IsIncomplete entry

/-- An entry is no text, or it is incomplete, or it gives coordinates. -/
theorem entry_cases (entry : ArchiveEntry) :
    ¬ entry.content.toByteArray.IsValidUTF8 ∨ IsIncomplete entry ∨
      ∃ identity, Gives entry identity := by
  rcases htext : entry.content.text? with - | text
  · exact .inl (Blob.text?_eq_none_iff.1 htext)
  · have hbytes := Blob.text?_eq_some_iff.1 htext
    rcases hidentity : identityOf? text with - | identity
    · exact .inr (.inl ⟨text, hbytes, hidentity⟩)
    · exact .inr (.inr ⟨identity, text, hbytes, hidentity⟩)

/-! ### One entry of the search -/

theorem identityOfEntries?_of_isPassedOver (h : IsPassedOver entry) (rest : List ArchiveEntry) :
    identityOfEntries? (entry :: rest) = identityOfEntries? rest := by
  rw [identityOfEntries?, List.filter_cons]
  split
  · rename_i hcandidate
    obtain ⟨text, hbytes, hidentity⟩ := h hcandidate
    rw [firstIdentity?, Blob.text?_eq_some_iff.2 hbytes]
    simp only [hidentity]
    rfl
  · rfl

theorem identityOfEntries?_of_gives (hcandidate : isCandidate entry.name = true)
    (h : Gives entry identity) (rest : List ArchiveEntry) :
    identityOfEntries? (entry :: rest) = some identity := by
  obtain ⟨text, hbytes, hidentity⟩ := h
  rw [identityOfEntries?, List.filter_cons, if_pos hcandidate, firstIdentity?,
    Blob.text?_eq_some_iff.2 hbytes]
  simp only [hidentity]

theorem identityOfEntries?_of_not_text (hcandidate : isCandidate entry.name = true)
    (h : ¬ entry.content.toByteArray.IsValidUTF8) (rest : List ArchiveEntry) :
    identityOfEntries? (entry :: rest) = none := by
  rw [identityOfEntries?, List.filter_cons, if_pos hcandidate, firstIdentity?,
    Blob.text?_eq_none_iff.2 h]

/-! ### The entry that decides -/

/-- Entries that are passed over make no difference in front of the others. -/
theorem identityOfEntries?_append (h : ∀ entry ∈ before, IsPassedOver entry)
    (rest : List ArchiveEntry) : identityOfEntries? (before ++ rest) = identityOfEntries? rest := by
  induction before with
  | nil => rfl
  | cons entry before ih =>
    rw [List.forall_mem_cons] at h
    rw [List.cons_append, identityOfEntries?_of_isPassedOver h.1, ih h.2]

theorem identityOfEntries?_of_passedOver (h : ∀ entry ∈ entries, IsPassedOver entry) :
    identityOfEntries? entries = none := by
  rw [← List.append_nil entries, identityOfEntries?_append h]
  rfl

/-- A candidate at which the search arrives: all entries in front of it are passed over. -/
def IsReached (entries : List ArchiveEntry) (entry : ArchiveEntry) : Prop :=
  ∃ before after, entries = before ++ entry :: after ∧
    (∀ earlier ∈ before, IsPassedOver earlier) ∧ isCandidate entry.name = true

theorem IsReached.identityOfEntries?_of_gives (h : IsReached entries entry)
    (hgives : Gives entry identity) : identityOfEntries? entries = some identity := by
  obtain ⟨before, after, rfl, hbefore, hcandidate⟩ := h
  rw [identityOfEntries?_append hbefore, Jar.identityOfEntries?_of_gives hcandidate hgives]

theorem IsReached.identityOfEntries?_of_not_text (h : IsReached entries entry)
    (hbroken : ¬ entry.content.toByteArray.IsValidUTF8) : identityOfEntries? entries = none := by
  obtain ⟨before, after, rfl, hbefore, hcandidate⟩ := h
  rw [identityOfEntries?_append hbefore, Jar.identityOfEntries?_of_not_text hcandidate hbroken]

/-- Either all entries are passed over, or the search arrives at a candidate that is no text or
gives coordinates. -/
theorem search_cases (entries : List ArchiveEntry) :
    (∀ entry ∈ entries, IsPassedOver entry) ∨
      ∃ entry, IsReached entries entry ∧
        (¬ entry.content.toByteArray.IsValidUTF8 ∨ ∃ identity, Gives entry identity) := by
  induction entries with
  | nil => exact .inl fun _ h ↦ absurd h List.not_mem_nil
  | cons entry rest ih =>
    by_cases hpassed : IsPassedOver entry
    · rcases ih with hall | ⟨first, ⟨before, after, rfl, hbefore, hcandidate⟩, hdecides⟩
      · exact .inl (List.forall_mem_cons.2 ⟨hpassed, hall⟩)
      · exact .inr ⟨first, ⟨entry :: before, after, rfl,
          List.forall_mem_cons.2 ⟨hpassed, hbefore⟩, hcandidate⟩, hdecides⟩
    · obtain ⟨hcandidate, hcomplete⟩ := Classical.not_imp.1 hpassed
      refine .inr ⟨entry, ⟨[], rest, rfl, fun _ h ↦ absurd h List.not_mem_nil, hcandidate⟩, ?_⟩
      exact (entry_cases entry).imp_right fun h ↦ h.resolve_left hcomplete

/-- **Coordinates are found if and only if the search arrives at a candidate that gives them.** -/
theorem identityOfEntries?_eq_some_iff :
    identityOfEntries? entries = some identity ↔
      ∃ entry, IsReached entries entry ∧ Gives entry identity := by
  refine ⟨fun h ↦ ?_, fun ⟨entry, hreached, hgives⟩ ↦ hreached.identityOfEntries?_of_gives hgives⟩
  rcases search_cases entries with hall | ⟨entry, hreached, hbroken | ⟨found, hgives⟩⟩
  · rw [identityOfEntries?_of_passedOver hall] at h
    cases h
  · rw [hreached.identityOfEntries?_of_not_text hbroken] at h
    cases h
  · rw [hreached.identityOfEntries?_of_gives hgives, Option.some_inj] at h
    exact ⟨entry, hreached, h ▸ hgives⟩

/-- **None are found if and only if all entries are passed over or the search arrives at a candidate
that is no text.** -/
theorem identityOfEntries?_eq_none_iff :
    identityOfEntries? entries = none ↔
      (∀ entry ∈ entries, IsPassedOver entry) ∨
        ∃ entry, IsReached entries entry ∧ ¬ entry.content.toByteArray.IsValidUTF8 := by
  constructor
  · intro h
    rcases search_cases entries with hall | ⟨entry, hreached, hbroken | ⟨found, hgives⟩⟩
    · exact .inl hall
    · exact .inr ⟨entry, hreached, hbroken⟩
    · rw [hreached.identityOfEntries?_of_gives hgives] at h
      cases h
  · rintro (hall | ⟨entry, hreached, hbroken⟩)
    · exact identityOfEntries?_of_passedOver hall
    · exact hreached.identityOfEntries?_of_not_text hbroken

/-! ### Editing what is no candidate -/

/-- The candidates of an archive in their order. -/
def candidates (entries : List ArchiveEntry) : List ArchiveEntry :=
  entries.filter fun entry ↦ isCandidate entry.name

/-- A change to an archive that leaves the candidates in their order: an entry that is no candidate
is put in, taken out, or changes places with a neighbour. -/
inductive Edit : List ArchiveEntry → List ArchiveEntry → Prop where
  | insert (before after : List ArchiveEntry) {entry : ArchiveEntry}
      (other : isCandidate entry.name = false) : Edit (before ++ after) (before ++ entry :: after)
  | delete (before after : List ArchiveEntry) {entry : ArchiveEntry}
      (other : isCandidate entry.name = false) : Edit (before ++ entry :: after) (before ++ after)
  | swap (before after : List ArchiveEntry) {a b : ArchiveEntry}
      (other : isCandidate a.name = false ∨ isCandidate b.name = false) :
      Edit (before ++ a :: b :: after) (before ++ b :: a :: after)

instance : Std.Symm Edit where
  symm entries entries' h := by
    cases h with
    | insert before after other => exact .delete before after other
    | delete before after other => exact .insert before after other
    | swap before after other => exact .swap before after other.symm

theorem Edit.cons (h : Edit entries entries') (entry : ArchiveEntry) :
    Edit (entry :: entries) (entry :: entries') := by
  cases h with
  | insert before after other => exact .insert (entry :: before) after other
  | delete before after other => exact .delete (entry :: before) after other
  | swap before after other => exact .swap (entry :: before) after other

theorem Edit.candidates_eq (h : Edit entries entries') :
    candidates entries = candidates entries' := by
  cases h with
  | insert before after other => simp [candidates, other]
  | delete before after other => simp [candidates, other]
  | swap before after other =>
    rcases other with other | other
    · simp [candidates, List.filter_cons, other]
    · simp [candidates, List.filter_cons, other]

/-- What is no candidate can be taken out entry by entry. -/
theorem edits_candidates (entries : List ArchiveEntry) :
    Relation.ReflTransGen Edit entries (candidates entries) := by
  induction entries with
  | nil => exact .refl
  | cons entry rest ih =>
    have hrest := Relation.ReflTransGen.lift (entry :: ·) (fun _ _ h ↦ Edit.cons h entry) _ _ ih
    rw [candidates, List.filter_cons]
    split
    · exact hrest
    · rename_i other
      exact (Relation.ReflTransGen.single (.delete [] rest (by simpa using other))).trans ih

/-- **Edits lead from an archive to those with the same candidates in the same order.** -/
theorem edits_iff :
    Relation.ReflTransGen Edit entries entries' ↔ candidates entries = candidates entries' := by
  constructor
  · intro h
    induction h with
    | refl => rfl
    | tail _ hedit ih => exact ih.trans hedit.candidates_eq
  · intro h
    have hback := Std.Symm.symm _ _ (edits_candidates entries')
    exact (edits_candidates entries).trans (h ▸ hback)

/-! ### The coordinates of a jar -/

theorem identity?_eq_of_resolve (h : files.resolve path = .ok (.archive entries)) :
    identity? files path = identityOfEntries? entries := by
  rw [identity?, FileStore.archive?, h, Option.bind_some]

theorem identity?_of_no_archive (h : ∀ entries, files.resolve path ≠ .ok (.archive entries)) :
    identity? files path = none := by
  rw [identity?, FileStore.archive?]
  split
  · rename_i entries hentries
    exact absurd hentries (h entries)
  · rfl

/-- **Which candidate of a jar decides.** Where no archive stands there are no coordinates. Those of
an archive are what a candidate gives in front of which every candidate is a text that is
incomplete. There are none exactly if all candidates are incomplete, or if one is no text and those
in front of it are incomplete. And edits among the entries that are no candidates, whatever these
hold, never change what is found. -/
theorem identity?_of_candidates (files : FileStore) (path : Path) :
    ((∀ entries, files.resolve path ≠ .ok (.archive entries)) → identity? files path = none) ∧
      ∀ entries, files.resolve path = .ok (.archive entries) →
        (∀ identity, identity? files path = some identity ↔
          ∃ entry, IsReached entries entry ∧ Gives entry identity) ∧
        (identity? files path = none ↔
          (∀ entry ∈ entries, IsPassedOver entry) ∨
            ∃ entry, IsReached entries entry ∧ ¬ entry.content.toByteArray.IsValidUTF8) ∧
        ∀ (files' : FileStore) (path' : Path) (entries' : List ArchiveEntry),
          files'.resolve path' = .ok (.archive entries') →
          Relation.ReflTransGen Edit entries entries' →
          identity? files' path' = identity? files path := by
  refine ⟨identity?_of_no_archive, fun entries hentries ↦ ?_⟩
  rw [identity?_eq_of_resolve hentries]
  refine ⟨fun identity ↦ identityOfEntries?_eq_some_iff, identityOfEntries?_eq_none_iff,
    fun files' path' entries' hentries' hedits ↦ ?_⟩
  have hcandidates : candidates entries = candidates entries' := edits_iff.1 hedits
  rw [identity?_eq_of_resolve hentries', identityOfEntries?, identityOfEntries?]
  exact congrArg firstIdentity? hcandidates.symm

/-- A jar with a class, an incomplete file of properties, a complete one and one that is no text. -/
def mixedEntries : List ArchiveEntry :=
  [⟨"a/B.class", .bytes [0xca, 0xfe]⟩,
    ⟨"META-INF/maven/org.a/b/pom.properties", .text "groupId=org.a\n"⟩,
    ⟨"META-INF/maven/org.a/c/pom.properties", .text "groupId=org.a\nartifactId=c\nversion=1\n"⟩,
    ⟨"META-INF/maven/org.a/d/pom.properties", .bytes [0xff]⟩]

/-- The same jar with the class behind the first file of properties. -/
def mixedEntries' : List ArchiveEntry :=
  [⟨"META-INF/maven/org.a/b/pom.properties", .text "groupId=org.a\n"⟩,
    ⟨"a/B.class", .bytes [0xca, 0xfe]⟩,
    ⟨"META-INF/maven/org.a/c/pom.properties", .text "groupId=org.a\nartifactId=c\nversion=1\n"⟩,
    ⟨"META-INF/maven/org.a/d/pom.properties", .bytes [0xff]⟩]

/-- A store with the jar, the edited jar, one that begins with what is no text, and a text. -/
def mixedStore : FileStore where
  nodes := [(["mixed.jar"], .archive mixedEntries), (["edited.jar"], .archive mixedEntries'),
    (["broken.jar"], .archive mixedEntries.reverse), (["notes.jar"], .file (.text "no archive"))]
  workingDirectory := []

/-- The complete file of properties gives the coordinates, before and after the edit, but not behind
what is no text; a text gives none. -/
theorem identity?_of_mixedStore :
    (∃ entry, IsReached mixedEntries entry ∧ Gives entry ⟨"org.a", "c", "1"⟩) ∧
      identity? mixedStore ⟨"edited.jar"⟩ = some ⟨"org.a", "c", "1"⟩ ∧
      identity? mixedStore ⟨"broken.jar"⟩ = none ∧ identity? mixedStore ⟨"notes.jar"⟩ = none := by
  have hmixed : mixedStore.resolve ⟨"mixed.jar"⟩ = .ok (.archive mixedEntries) := by decide +kernel
  have hedited : mixedStore.resolve ⟨"edited.jar"⟩ = .ok (.archive mixedEntries') := by
    decide +kernel
  have hbroken : mixedStore.resolve ⟨"broken.jar"⟩ = .ok (.archive mixedEntries.reverse) := by
    decide +kernel
  have hnotes : mixedStore.resolve ⟨"notes.jar"⟩ = .ok (.file (.text "no archive")) := by
    decide +kernel
  have hfound : identity? mixedStore ⟨"mixed.jar"⟩ = some ⟨"org.a", "c", "1"⟩ := by decide +kernel
  obtain ⟨hsome, -, hedit⟩ := (identity?_of_candidates mixedStore ⟨"mixed.jar"⟩).2 _ hmixed
  refine ⟨(hsome _).1 hfound, ?_, ?_, ?_⟩
  · rw [hedit _ _ _ hedited (.single (.swap [] _ (.inl (by decide)))), hfound]
  · have hfirst : IsReached mixedEntries.reverse
        ⟨"META-INF/maven/org.a/d/pom.properties", .bytes [0xff]⟩ :=
      ⟨[], _, rfl, fun _ h ↦ absurd h List.not_mem_nil, by decide⟩
    exact ((identity?_of_candidates _ _).2 _ hbroken).2.1.2
      (.inr ⟨_, hfirst, Blob.text?_eq_none_iff.1 (by decide +kernel)⟩)
  · refine (identity?_of_candidates _ _).1 fun entries hentries ↦ ?_
    rw [hnotes] at hentries
    cases hentries

end Jar

end WorkspaceIndex
