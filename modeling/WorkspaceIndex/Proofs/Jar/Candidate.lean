import WorkspaceIndex.Jar
import WorkspaceIndex.Proofs.Text.Pieces
import WorkspaceIndex.Proofs.Text.Words
/-!
# Which entries are files of properties

The metadata of a package has a fixed place in an archive: a directory, a group, an artifact and the
name of the file, with one separator between each and the next (`IsLaidOut`). Every entry in such a
place is a candidate, but there are others.

A name is looked at from both ends. The name of the file is taken off without the separator in front
of it, and then as many separators as there are. So it does not matter how many there were, and that
is all that does not matter (`isCandidate_iff`): there may be none, and then the artifact runs into
the name of the file (`candidate_not_laid_out`).
-/

namespace WorkspaceIndex.Jar

open Text

variable {s a b rest ending : List Char} {name : String}

/-! ### Names by their parts -/

/-- A part of a name: a text that is not empty and has no separator in it. -/
def IsPart (part : List Char) : Prop := part ≠ [] ∧ '/' ∉ part

/-- The name of an entry by its group, its artifact and the number of separators that stand between
the artifact and the name of the file. -/
def entryName (group artifact : List Char) (separators : Nat) : List Char :=
  metadataDirectory.toList ++ (group ++ '/' :: artifact ++ List.replicate separators '/' ++
    propertiesName.toList)

/-- The name of an entry in the place of the metadata of a package. -/
def IsLaidOut (name : String) : Prop :=
  ∃ group artifact, IsPart group ∧ IsPart artifact ∧
    name.toList = "META-INF/maven/".toList ++ group ++ '/' :: artifact ++ "/pom.properties".toList

theorem isLaidOut_iff :
    IsLaidOut name ↔
      ∃ group artifact,
        IsPart group ∧ IsPart artifact ∧ name.toList = entryName group artifact 1 := by
  have hname : ∀ group artifact,
      "META-INF/maven/".toList ++ group ++ '/' :: artifact ++ "/pom.properties".toList =
        entryName group artifact 1 := fun group artifact ↦ by
    simp [entryName, metadataDirectory, propertiesName]
  simp only [IsLaidOut, hname]

/-- The last character of a part is no separator. -/
theorem IsPart.getLast?_ne (h : IsPart a) : a.getLast? ≠ some '/' :=
  fun hlast ↦ h.2 (List.mem_of_getLast? hlast)

/-! ### Taking a name apart -/

theorem withoutEnd?_eq_some_iff : withoutEnd? ending s = some rest ↔ s = rest ++ ending := by
  rw [withoutEnd?, Option.map_eq_some_iff]
  constructor
  · rintro ⟨tail, htail, rfl⟩
    rw [List.isPrefixOf?_eq_some_iff_append_eq] at htail
    rw [← List.reverse_reverse s, ← htail, List.reverse_append, List.reverse_reverse]
  · rintro rfl
    exact ⟨rest.reverse, List.isPrefixOf?_eq_some_iff_append_eq.2 List.reverse_append.symm,
      List.reverse_reverse rest⟩

/-- Two parts are what a text has around its only separator. -/
theorem splitOn_eq_pair_iff :
    s.splitOn '/' = [a, b] ↔ s = a ++ '/' :: b ∧ '/' ∉ a ∧ '/' ∉ b := by
  rw [splitOn_eq_iff]
  simp [and_comm]

/-- What is left between the ends of a name is a group and an artifact, where they are followed by
separators only. -/
theorem splitOn_dropBack_iff (ha : a ≠ []) (hb : b ≠ []) :
    (dropBack (· = '/') s).splitOn '/' = [a, b] ↔
      IsPart a ∧ IsPart b ∧ ∃ separators, s = a ++ '/' :: b ++ List.replicate separators '/' := by
  rw [splitOn_eq_pair_iff, dropBack_eq_iff]
  constructor
  · rintro ⟨⟨back, rfl, hback, -⟩, hgroup, hartifact⟩
    refine ⟨⟨ha, hgroup⟩, ⟨hb, hartifact⟩, back.length, ?_⟩
    rw [← List.eq_replicate_of_mem fun c hc ↦ by simpa using hback c hc]
  · rintro ⟨hgroup, hartifact, separators, rfl⟩
    refine ⟨⟨_, rfl, fun c hc ↦ by simpa using (List.mem_replicate.1 hc).2, fun c hc ↦ ?_⟩,
      hgroup.2, hartifact.2⟩
    rw [List.getLast?_append_cons, List.getLast?_cons_of_ne_nil hb] at hc
    rw [decide_eq_false_iff_not]
    rintro rfl
    exact hartifact.getLast?_ne hc

/-- **A candidate has any number of separators in front of the name of the file.** -/
theorem isCandidate_eq_true_iff :
    isCandidate name = true ↔
      ∃ group artifact separators, IsPart group ∧ IsPart artifact ∧
        name.toList = entryName group artifact separators := by
  rw [isCandidate]
  constructor
  · intro h
    split at h
    · cases h
    · rename_i inside hinside
      split at h
      · cases h
      · rename_i middle hmiddle
        split at h
        · rename_i group artifact hsplit
          rw [Bool.and_eq_true, Bool.not_eq_true', Bool.not_eq_true', List.isEmpty_eq_false_iff,
            List.isEmpty_eq_false_iff] at h
          obtain ⟨hgroup, hartifact, separators, rfl⟩ := (splitOn_dropBack_iff h.1 h.2).1 hsplit
          refine ⟨group, artifact, separators, hgroup, hartifact, ?_⟩
          rw [← List.isPrefixOf?_eq_some_iff_append_eq.1 hinside, withoutEnd?_eq_some_iff.1 hmiddle,
            entryName]
        · cases h
  · rintro ⟨group, artifact, separators, hgroup, hartifact, hname⟩
    have hsplit := (splitOn_dropBack_iff hgroup.1 hartifact.1).2
      ⟨hgroup, hartifact, separators, rfl⟩
    rw [hname, entryName, List.isPrefixOf?_eq_some_iff_append_eq.2 rfl]
    simp only [withoutEnd?_eq_some_iff.2 rfl, hsplit]
    simp [hgroup.1, hartifact.1]

/-! ### Separators in front of the name of the file -/

/-- Separators in front of the name of the file are those that were written there: the artifact does
not end in one. -/
theorem suffix_entryName_iff {group artifact : List Char} {n separators : Nat}
    (h : IsPart artifact) :
    List.replicate n '/' ++ propertiesName.toList <:+ entryName group artifact separators ↔
      n ≤ separators := by
  have hname : entryName group artifact separators =
      metadataDirectory.toList ++ (group ++ '/' :: artifact) ++ List.replicate separators '/' ++
        propertiesName.toList := by
    simp [entryName]
  rw [hname, List.suffix_append_self_iff]
  constructor
  · intro hsuffix
    by_contra hlt
    obtain ⟨more, rfl⟩ := Nat.exists_eq_add_of_lt (Nat.not_le.1 hlt)
    have hmore : separators + more + 1 = (more + 1) + separators := by omega
    rw [hmore, List.replicate_add, List.suffix_append_self_iff] at hsuffix
    obtain ⟨front, hfront⟩ := hsuffix
    have hlast := congrArg List.getLast? hfront
    rw [List.replicate_succ', ← List.append_assoc, List.getLast?_concat, ← List.append_assoc,
      List.getLast?_append_cons, List.getLast?_cons_of_ne_nil h.1] at hlast
    exact h.getLast?_ne hlast.symm
  · intro hle
    obtain ⟨more, rfl⟩ := Nat.exists_eq_add_of_le' hle
    rw [List.replicate_add, ← List.append_assoc]
    exact List.suffix_append _ _

/-- In the place of the metadata there is one separator in front of the name of the file. -/
theorem IsLaidOut.ends (h : IsLaidOut name) :
    "/pom.properties".toList <:+ name.toList ∧ ¬ "//pom.properties".toList <:+ name.toList := by
  obtain ⟨group, artifact, -, hartifact, hname⟩ := isLaidOut_iff.1 h
  rw [hname]
  exact ⟨(suffix_entryName_iff (n := 1) hartifact).2 le_rfl,
    mt (suffix_entryName_iff (n := 2) hartifact).1 (by decide)⟩

/-- **Which entries are candidates.** They are those whose name is the metadata directory, a group,
a separator, an artifact, any number of separators and the name of the file. The entries in the
place of the metadata of a package are those candidates that have one separator there: it is neither
missing nor written twice. -/
theorem isCandidate_iff (name : String) :
    (isCandidate name = true ↔
        ∃ group artifact separators, IsPart group ∧ IsPart artifact ∧
          name.toList = entryName group artifact separators) ∧
      (IsLaidOut name ↔
        isCandidate name = true ∧ "/pom.properties".toList <:+ name.toList ∧
          ¬ "//pom.properties".toList <:+ name.toList) := by
  refine ⟨isCandidate_eq_true_iff, fun h ↦ ⟨?_, h.ends⟩, fun ⟨h, hsome, hmore⟩ ↦ ?_⟩
  · obtain ⟨group, artifact, hgroup, hartifact, hname⟩ := isLaidOut_iff.1 h
    exact isCandidate_eq_true_iff.2 ⟨group, artifact, 1, hgroup, hartifact, hname⟩
  · obtain ⟨group, artifact, separators, hgroup, hartifact, hname⟩ := isCandidate_eq_true_iff.1 h
    rw [hname] at hsome hmore
    have hone : 1 ≤ separators := (suffix_entryName_iff (n := 1) hartifact).1 hsome
    have htwo : ¬ 2 ≤ separators := mt (suffix_entryName_iff (n := 2) hartifact).2 hmore
    obtain rfl : separators = 1 := by omega
    exact isLaidOut_iff.2 ⟨group, artifact, hgroup, hartifact, hname⟩

/-- Two candidates that are not in the place of the metadata of a package: one is a file with a
longer name right below the group, and in the name of the other a separator is written twice. -/
theorem candidate_not_laid_out :
    (isCandidate "META-INF/maven/org.a/bpom.properties" = true ∧
        ¬ IsLaidOut "META-INF/maven/org.a/bpom.properties") ∧
      (isCandidate "META-INF/maven/org.a/b//pom.properties" = true ∧
        ¬ IsLaidOut "META-INF/maven/org.a/b//pom.properties") :=
  ⟨⟨by decide, fun h ↦ absurd h.ends.1 (by decide)⟩,
    ⟨by decide, fun h ↦ h.ends.2 (by decide)⟩⟩

end WorkspaceIndex.Jar
