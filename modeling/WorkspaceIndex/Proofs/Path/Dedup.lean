import Mathlib.Data.List.Induction
import WorkspaceIndex.Path
/-!
# First spellings

`Path.dedup` goes through a list and strikes out what it has seen. Which paths are left can be said
without a pass: those in front of which no path is the same. `Path.firstOccurrences` says it, and
that the two agree is shown by adding paths at the end, where both of them look at what is there
already. `FirstSpellings` says the same by properties: what is kept is in order and without
repetition, it covers the list, and each path of it is the first with its components.
-/

namespace WorkspaceIndex

namespace Path

/-- The paths of a list that have none in front of them that is the same, in order. -/
def firstOccurrences (paths : List Path) : List Path :=
  (paths.zipIdx.filter fun (p, i) ↦ ∀ q ∈ paths.take i, ¬ Same q p).map Prod.fst

theorem Same.symm {p q : Path} (h : Same p q) : Same q p := Eq.symm h

theorem Same.trans {p q r : Path} (h : Same p q) (h' : Same q r) : Same p r := Eq.trans h h'

theorem dedup_cons (p : Path) (paths : List Path) :
    dedup (p :: paths) = p :: dedup (paths.filter fun q ↦ ¬ Same q p) := by
  rw [dedup, List.eraseDupsBy_cons, dedup]
  congr 3
  funext q
  simp

/-- A path at the end stays if there was none before it that is the same. -/
theorem dedup_concat (paths : List Path) (p : Path) :
    dedup (paths ++ [p]) = if ∃ q ∈ paths, Same q p then dedup paths else dedup paths ++ [p] := by
  -- the head strikes out paths of the rest, so the induction is on the length
  induction hn : paths.length using Nat.strongRecOn generalizing paths with
  | ind n ih =>
    rcases paths with - | ⟨first, rest⟩
    · rw [List.nil_append, dedup_cons]
      rfl
    · rw [List.cons_append, dedup_cons, dedup_cons, List.filter_append]
      set kept := rest.filter fun q ↦ ¬ Same q first
      by_cases hfirst : Same p first
      · rw [if_pos ⟨first, List.mem_cons_self, hfirst.symm⟩, List.filter_cons_of_neg (by simpa),
          List.filter_nil, List.append_nil]
      · have hlength : kept.length < n := by
          rw [← hn, List.length_cons]
          exact Nat.lt_succ_of_le (List.length_filter_le _ _)
        have hiff : (∃ q ∈ kept, Same q p) ↔ ∃ q ∈ first :: rest, Same q p := by
          constructor
          · rintro ⟨q, hq, hsame⟩
            exact ⟨q, List.mem_cons_of_mem _ (List.mem_filter.1 hq).1, hsame⟩
          · rintro ⟨q, hq, hsame⟩
            rcases List.mem_cons.1 hq with rfl | hq
            · exact absurd hsame.symm hfirst
            · have hother : ¬ Same q first := fun h ↦ hfirst (hsame.symm.trans h)
              exact ⟨q, List.mem_filter.2 ⟨hq, by simpa using hother⟩, hsame⟩
        rw [List.filter_cons_of_pos (by simpa), List.filter_nil, ih _ hlength kept rfl]
        simp only [hiff]
        split <;> rfl

theorem firstOccurrences_concat (paths : List Path) (p : Path) :
    firstOccurrences (paths ++ [p]) =
      if ∃ q ∈ paths, Same q p then firstOccurrences paths else firstOccurrences paths ++ [p] := by
  have hbefore : (paths.zipIdx.filter fun (r, i) ↦ ∀ q ∈ (paths ++ [p]).take i, ¬ Same q r) =
      paths.zipIdx.filter fun (r, i) ↦ ∀ q ∈ paths.take i, ¬ Same q r := by
    -- a path at the end stands in front of no other
    refine List.filter_congr fun (r, i) hr ↦ ?_
    have hi : i < paths.length := by simpa using List.snd_lt_of_mem_zipIdx hr
    show decide _ = decide _
    rw [List.take_append_of_le_length (Nat.le_of_lt hi)]
  unfold firstOccurrences
  rw [List.zipIdx_append, List.filter_append, hbefore, List.map_append, List.zipIdx_singleton]
  by_cases hsame : ∃ q ∈ paths, Same q p
  · rw [if_pos hsame, List.filter_cons_of_neg (by simpa using hsame), List.filter_nil,
      List.map_nil, List.append_nil]
  · rw [if_neg hsame, List.filter_cons_of_pos (by simpa using hsame), List.filter_nil]
    rfl

/-- **De-duplication keeps the first occurrences.** -/
theorem dedup_eq_firstOccurrences (paths : List Path) : dedup paths = firstOccurrences paths := by
  induction paths using List.reverseRecOn with
  | nil => rfl
  | append_singleton paths p ih => rw [dedup_concat, firstOccurrences_concat, ih]

/-- De-duplication adds nothing. -/
theorem mem_of_mem_dedup {paths : List Path} {p : Path} (h : p ∈ dedup paths) : p ∈ paths := by
  rw [dedup_eq_firstOccurrences] at h
  obtain ⟨entry, hentry, rfl⟩ := List.mem_map.1 h
  exact List.fst_mem_of_mem_zipIdx (List.mem_filter.1 hentry).1

/-! ### First spellings by their properties -/

/-- The list `kept` has the first spelling of every path of a list: its paths are from the list and
in order, no two of them are the same, every path of the list is the same as one of them, and each
stands in the list with none in front of it that is the same. -/
structure FirstSpellings (paths kept : List Path) : Prop where
  sublist : kept.Sublist paths
  distinct : kept.Pairwise fun p q ↦ ¬ Same p q
  covers : ∀ p ∈ paths, ∃ q ∈ kept, Same q p
  first : ∀ q ∈ kept, ∃ before after, paths = before ++ q :: after ∧ ∀ p ∈ before, ¬ Same p q

/-- **De-duplication keeps the first spelling of every path.** -/
theorem firstSpellings_dedup (paths : List Path) : FirstSpellings paths (dedup paths) := by
  induction paths using List.reverseRecOn with
  | nil => exact ⟨.slnil, .nil, by simp, by simp [dedup]⟩
  | append_singleton paths p ih =>
    have hfirst : ∀ q ∈ dedup paths, ∃ before after, paths ++ [p] = before ++ q :: after ∧
        ∀ p ∈ before, ¬ Same p q := by
      intro q hq
      obtain ⟨before, after, rfl, hbefore⟩ := ih.first q hq
      exact ⟨before, after ++ [p], by simp, hbefore⟩
    rw [dedup_concat]
    by_cases hsame : ∃ q ∈ paths, Same q p
    · rw [if_pos hsame]
      refine ⟨List.sublist_append_of_sublist_left ih.sublist, ih.distinct, ?_, hfirst⟩
      obtain ⟨q, hq, hqp⟩ := hsame
      obtain ⟨r, hr, hrq⟩ := ih.covers q hq
      rw [List.forall_mem_append, List.forall_mem_singleton]
      exact ⟨ih.covers, r, hr, hrq.trans hqp⟩
    · rw [if_neg hsame]
      have hnew : ∀ q ∈ paths, ¬ Same q p := fun q hq h ↦ hsame ⟨q, hq, h⟩
      refine ⟨ih.sublist.append (List.Sublist.refl _), ?_, ?_, ?_⟩
      · rw [List.pairwise_append]
        refine ⟨ih.distinct, List.pairwise_singleton _ _, fun q hq r hr ↦ ?_⟩
        rw [List.mem_singleton.1 hr]
        exact hnew q (mem_of_mem_dedup hq)
      · rw [List.forall_mem_append, List.forall_mem_singleton]
        refine ⟨fun q hq ↦ ?_, p, List.mem_append_right _ List.mem_cons_self, rfl⟩
        obtain ⟨r, hr, hrq⟩ := ih.covers q hq
        exact ⟨r, List.mem_append_left _ hr, hrq⟩
      · rw [List.forall_mem_append, List.forall_mem_singleton]
        exact ⟨hfirst, paths, [], rfl, hnew⟩

/-- Where no two paths are the same, all of them are kept. -/
theorem dedup_of_distinct {paths : List Path} (h : paths.Pairwise fun p q ↦ ¬ Same p q) :
    dedup paths = paths := by
  induction paths with
  | nil => rfl
  | cons p rest ih =>
    obtain ⟨hp, hrest⟩ := List.pairwise_cons.1 h
    have hkept : (rest.filter fun q ↦ ¬ Same q p) = rest :=
      List.filter_eq_self.2 fun q hq ↦ by simpa using mt Same.symm (hp q hq)
    rw [dedup_cons, hkept, ih hrest]

/-- De-duplicating again changes nothing. -/
theorem dedup_dedup (paths : List Path) : dedup (dedup paths) = dedup paths :=
  dedup_of_distinct (firstSpellings_dedup paths).distinct

end Path

end WorkspaceIndex
