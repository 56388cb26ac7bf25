import Mathlib.Data.List.Basic
import WorkspaceIndex.FileStore.Basic
/-!
# What changes in a file store

Two operations change a store, and both change it in a way that can be said without them:

* `GainsDirectories` is all that the making of directories does, whether it succeeds or gives up
  half way (`makeDirectories_gains`): every location keeps what stood there, and what is new is a
  directory. So no file is touched.
* `readText_of_writeText`: a text that was written can be read back at the path it was written to.

The second rests on `steps_put`. A walk goes through directories only, and writing never replaces a
directory, so every path still leads to where it led before.
-/

namespace WorkspaceIndex.FileStore

/-! ### A node is put at one location -/

/-- Looking up the first entry or the others. -/
theorem lookup_cons_eq (here : Location) (kept : FileNode) (nodes : List (Location × FileNode))
    (other : Location) :
    ((here, kept) :: nodes).lookup other =
      if other = here then some kept else nodes.lookup other := by
  by_cases h : other = here
  · subst h
    simp
  · rw [if_neg h, List.lookup_cons, beq_false_of_ne h]

/-- Replacing the entries of a location changes a lookup at that location only. -/
theorem lookup_replace (nodes : List (Location × FileNode)) (location other : Location)
    (node : FileNode) :
    (nodes.map fun entry ↦ if entry.1 = location then (location, node) else entry).lookup other =
      if other = location then (nodes.lookup location).map fun _ ↦ node
      else nodes.lookup other := by
  induction nodes with
  | nil => simp
  | cons entry nodes ih =>
    obtain ⟨here, kept⟩ := entry
    rw [List.map_cons, lookup_cons_eq, lookup_cons_eq]
    -- only a first entry of the location itself is replaced, and no other hides it from a lookup
    by_cases hhere : here = location
    · subst hhere
      rw [if_pos rfl, lookup_cons_eq, ih]
      by_cases hother : other = here <;> simp [hother]
    · rw [if_neg hhere, lookup_cons_eq, ih, if_neg (Ne.symm hhere)]
      by_cases hother : other = here
      · subst hother
        simp [hhere]
      · simp [hother]

theorem node?_put (store : FileStore) {location : Location} (hne : location ≠ [])
    (node : FileNode) (other : Location) :
    (store.put location node).node? other =
      if other = location then some node else store.node? other := by
  rcases hl : store.nodes.lookup location with - | old
  · have happend : (store.put location node).nodes.lookup other =
        (store.nodes.lookup other).or (if other = location then some node else none) := by
      simp only [put, hl, Option.isSome_none, Bool.false_eq_true, if_false, List.lookup_append,
        lookup_cons_eq, List.lookup_nil]
    by_cases hother : other = location
    · subst hother
      simp [node?, happend, hl, hne]
    · simp [node?, happend, hother]
  · by_cases hother : other = location
    · subst hother
      simp [put, node?, hl, hne, lookup_replace]
    · simp [put, node?, hl, hother, lookup_replace]

@[simp] theorem workingDirectory_put (store : FileStore) (location : Location) (node : FileNode) :
    (store.put location node).workingDirectory = store.workingDirectory := by
  unfold put
  split <;> rfl

/-- Nothing but a directory stands at the root. -/
theorem ne_nil_of_not_directory {store : FileStore} {location : Location}
    (h : store.node? location ≠ some .directory) : location ≠ [] := by
  rintro rfl
  exact h (by simp [node?])

/-! ### Making directories -/

/-- From one store to a later one, every location keeps what stood there, and what is new is a
directory. -/
def GainsDirectories (before after : FileStore) : Prop :=
  ∀ location, after.node? location = before.node? location ∨
    (before.node? location = none ∧ after.node? location = some .directory)

theorem GainsDirectories.refl (store : FileStore) : store.GainsDirectories store :=
  fun _ ↦ Or.inl rfl

theorem GainsDirectories.trans {a b c : FileStore} (hab : a.GainsDirectories b)
    (hbc : b.GainsDirectories c) : a.GainsDirectories c := by
  intro location
  rcases hab location with hab | ⟨hnone, hab⟩ <;> rcases hbc location with hbc | ⟨hb, hbc⟩
  · exact Or.inl (hbc.trans hab)
  · exact Or.inr ⟨hab ▸ hb, hbc⟩
  · exact Or.inr ⟨hnone, hbc.trans hab⟩
  · exact Or.inr ⟨hnone, hbc⟩

theorem gains_of_makeDirectory {store made : FileStore} {p : Path}
    (h : store.makeDirectory p = .ok made) : store.GainsDirectories made := by
  unfold makeDirectory at h
  split at h
  · cases h
  · split at h
    · cases h
    · rename_i location _ _ hnone
      have hne : location ≠ [] := @ne_nil_of_not_directory store _ (by simp [hnone])
      obtain rfl : store.put location .directory = made := by simpa using h
      intro other
      rw [node?_put store hne]
      by_cases hother : other = location
      · subst hother
        exact Or.inr ⟨hnone, by simp⟩
      · exact Or.inl (by simp [hother])

/-- **What every single directory does, making directories does** at every depth: those that were
made above stay when the attempt is given up. -/
theorem makeDirectoriesWithin_related {R : FileStore → FileStore → Prop}
    (refl : ∀ store, R store store)
    (trans : ∀ {a b c}, R a b → R b c → R a c)
    (hmake : ∀ {store made p}, store.makeDirectory p = .ok made → R store made) (fuel : Nat) :
    ∀ (store : FileStore) (p : Path), R store (store.makeDirectoriesWithin fuel p).2 := by
  induction fuel with
  | zero => exact fun store _ ↦ refl store
  | succ fuel ih =>
    intro store p
    unfold makeDirectoriesWithin
    split
    · exact refl store
    · split
      · rename_i made hmade
        exact hmake hmade
      · split
        · exact refl store
        · rename_i above _
          -- the directories above are made first and stay, whether the last one is made or not
          have habove := ih store above
          split
          · rename_i hstopped
            rwa [hstopped] at habove
          · rename_i hstopped
            rw [hstopped] at habove
            split
            · rename_i made hmade
              exact trans habove (hmake hmade)
            · exact habove
      · exact refl store

theorem makeDirectories_gains (store : FileStore) (p : Path) :
    store.GainsDirectories (store.makeDirectories p).2 :=
  makeDirectoriesWithin_related .refl .trans gains_of_makeDirectory _ store p

/-! ### Writing a file -/

/-- A step is taken inside a directory. -/
theorem node?_of_step {store : FileStore} {location next : Location} {piece : OsText}
    (h : store.step location piece = .ok next) : store.node? location = some .directory := by
  unfold step at h
  split at h
  · cases h
  · assumption
  · cases h

/-- Where no directory stood, a node that is put there changes no step. -/
theorem step_put {store : FileStore} {target location next : Location} {piece : OsText}
    (htarget : store.node? target ≠ some .directory) (node : FileNode)
    (h : store.step location piece = .ok next) :
    (store.put target node).step location piece = .ok next := by
  have hdir := node?_of_step h
  have hne : location ≠ target := by
    rintro rfl
    exact htarget hdir
  have hkept : (store.put target node).node? location = some .directory := by
    rw [node?_put store (ne_nil_of_not_directory htarget), if_neg hne, hdir]
  rw [← h]
  unfold step
  rw [hkept, hdir]

/-- **Every walk leads where it led** after a node was put where no directory stood. -/
theorem steps_put {store : FileStore} {target : Location}
    (htarget : store.node? target ≠ some .directory) (node : FileNode) {final : Location} :
    ∀ (pieces : List OsText) (location : Location),
      store.steps location pieces = .ok final →
        (store.put target node).steps location pieces = .ok final := by
  intro pieces
  induction pieces with
  | nil => exact fun location h ↦ h
  | cons piece pieces ih =>
    intro location h
    unfold steps at h ⊢
    rcases hstep : store.step location piece with e | next
    · rw [hstep] at h
      cases h
    · rw [hstep] at h
      rw [step_put htarget node hstep]
      exact ih next h

theorem locate_put {store : FileStore} {target : Location}
    (htarget : store.node? target ≠ some .directory) (node : FileNode) {p : Path}
    {location : Location} (h : store.locate p = .ok location) :
    (store.put target node).locate p = .ok location := by
  unfold locate walk at h ⊢
  split at h
  · cases h
  · split at h
    · cases h
    · split at h
      · cases h
      · rw [workingDirectory_put]
        simp only [*]
        exact steps_put htarget node _ _ h

/-- What writing a text to a path comes to: the path leads to a place where no directory stands,
and the text is put there. -/
theorem writeText_eq_ok {store after : FileStore} {p : Path} {text : String}
    (h : store.writeText p text = .ok after) :
    ∃ location, store.locate p = .ok location ∧ store.node? location ≠ some .directory ∧
      after = store.put location (.file (.text text)) := by
  unfold writeText at h
  split at h
  · rcases hw : store.walk p ((namePieces p).dropLast ++ [[.char '.']]) with e | location <;>
      simp [hw, Except.bind] at h
  · rcases hl : store.locate p with e | location
    · simp [hl] at h
    · refine ⟨location, rfl, ?_⟩
      simp only [hl] at h
      split at h
      · cases h
      · rename_i hnot
        exact ⟨fun hdir ↦ hnot hdir, by simpa using h.symm⟩

/-- **A text that was written is read back.** -/
theorem readText_of_writeText {store after : FileStore} {p : Path} {text : String}
    (h : store.writeText p text = .ok after) : after.readText p = .ok text := by
  obtain ⟨location, hl, hnot, rfl⟩ := writeText_eq_ok h
  have hnode := node?_put store (ne_nil_of_not_directory hnot) (.file (.text text)) location
  rw [if_pos rfl] at hnode
  simp [readText, resolve, locate_put hnot _ hl, hnode, Blob.text?]

end WorkspaceIndex.FileStore
