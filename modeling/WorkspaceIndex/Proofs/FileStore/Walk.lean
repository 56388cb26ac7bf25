import WorkspaceIndex.FileStore.Basic
import WorkspaceIndex.Proofs.Path.Absolute
/-!
# Walks

Two facts about where paths lead. A walk without visible pieces does not leave the directory in
which it starts, so what can be read as a file has a visible piece in its path. And a walk that
starts at the root does not look at the working directory: an absolute path is `Anchored`, which is
what makes it safe to be handed to a program that runs elsewhere.
-/

namespace WorkspaceIndex

namespace FileStore

variable {store : FileStore} {p : Path}

theorem isAbsolute_workingPath (store : FileStore) : store.workingPath.isAbsolute = true := by
  rw [Path.isAbsolute_iff, workingPath, pathOf]
  exact ⟨_, rfl⟩

/-- Nothing depends on the working directory once a walk has begun. -/
theorem steps_workingDirectory (store : FileStore) (directory : Location)
    (pieces : List OsText) : ∀ location : Location,
      ({ store with workingDirectory := directory } : FileStore).steps location pieces =
        store.steps location pieces := by
  induction pieces with
  | nil => exact fun _ ↦ rfl
  | cons piece rest ih =>
    intro location
    have hstep : ({ store with workingDirectory := directory } : FileStore).step location piece =
        store.step location piece := rfl
    rw [steps, steps, hstep]
    rcases store.step location piece with e | next
    · rfl
    · exact ih next

/-- A walk without visible pieces stays in the directory in which it starts. -/
theorem steps_of_not_isVisible {pieces : List OsText} (hne : pieces ≠ [])
    (hpieces : ∀ piece ∈ pieces, ¬ Path.IsVisible piece) {location last : Location}
    (h : store.steps location pieces = .ok last) :
    last = location ∧ store.node? location = some .directory := by
  induction pieces with
  | nil => exact absurd rfl hne
  | cons piece rest ih =>
    have hpiece : (piece.isEmpty || decide (piece = [.char '.'])) = true := by
      have := hpieces piece List.mem_cons_self
      rw [Path.IsVisible, ← not_or, not_not] at this
      simpa using this
    rw [steps, step] at h
    rcases hnode : store.node? location with - | node
    · simp [hnode] at h
    · rcases node with - | content | entries
      · -- the piece leads nowhere, and the rest starts from the same directory
        simp only [hnode, if_pos hpiece] at h
        refine ⟨?_, rfl⟩
        rcases hrest : rest with - | ⟨second, others⟩
        · rw [hrest] at h
          cases h
          rfl
        · exact (ih (hrest ▸ List.cons_ne_nil second others)
            (fun other hother ↦ hpieces other (List.mem_cons_of_mem _ hother)) h).1
      · simp [hnode] at h
      · simp [hnode] at h

theorem exists_steps_of_locate {last : Location} (h : store.locate p = .ok last) :
    ∃ start, store.steps start p.pieces = .ok last := by
  rw [locate, walk] at h
  split at h
  · cases h
  · split at h
    · cases h
    · split at h
      · cases h
      · exact ⟨_, h⟩

/-- **What can be read as a file has a visible piece in its path.** -/
theorem exists_isVisible_of_readText {text : String} (h : store.readText p = .ok text) :
    ∃ piece ∈ p.pieces, Path.IsVisible piece := by
  by_contra hnone
  rw [readText, resolve] at h
  rcases hlocate : store.locate p with e | last
  · simp [hlocate] at h
  · obtain ⟨start, hsteps⟩ := exists_steps_of_locate hlocate
    obtain ⟨rfl, hdirectory⟩ := steps_of_not_isVisible (List.splitOn_ne_nil _ _)
      (fun piece hpiece hvisible ↦ hnone ⟨piece, hpiece, hvisible⟩) hsteps
    simp [hlocate, hdirectory] at h

end FileStore

/-! ### Anchored paths -/

namespace Path

/-- A path that starts at the root. It is no option of a program, and it leads to the same place
from every working directory. -/
structure Anchored (p : Path) : Prop where
  absolute : p.isAbsolute = true
  not_option : p.letters.head? ≠ some (.char '-')
  locate_eq : ∀ (store : FileStore) (directory : Location),
    ({ store with workingDirectory := directory } : FileStore).locate p = store.locate p

/-- **To start at the root is all that it takes.** -/
theorem anchored_of_isAbsolute {p : Path} (h : p.isAbsolute = true) : p.Anchored where
  absolute := h
  not_option := by
    obtain ⟨rest, hrest⟩ := isAbsolute_iff.1 h
    rw [hrest, List.head?_cons]
    decide
  locate_eq := by
    intro store directory
    simp only [FileStore.locate, FileStore.walk, if_pos h, FileStore.steps_workingDirectory]

end Path

end WorkspaceIndex
