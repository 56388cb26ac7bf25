import Mathlib.Data.List.Induction
import Mathlib.Data.List.TakeWhile
import WorkspaceIndex.Proofs.FileStore.Change
import WorkspaceIndex.Proofs.Path.Joined
/-!
# Where a path leads

Where a path leads is plain arithmetic on locations, its `goal`; a store only decides whether it
leads there at all. It does so exactly where every location on the way is a directory
(`steps_eq_ok_iff`), so what can be reached in one store can be reached in every store with more
directories. The converse needs that entries stand in directories, and takes some care where a path
goes back (`steps_of_fewer`).

Making directories makes no other than those on the way of the path (`makeDirectories_differs`).
When it succeeds there is a directory in the end (`isDirectory_of_makeDirectories`), and where there
is one already, nothing is done (`makeDirectories_of_isDirectory`).
-/

namespace WorkspaceIndex.FileStore

variable {store : FileStore} {p : Path}

/-! ### Goals -/

/-- The location to which a piece leads from a directory. -/
def next (location : Location) (piece : OsText) : Location :=
  if piece.isEmpty || piece = [.char '.'] then location
  else if piece = [.char '.', .char '.'] then location.dropLast
  else location ++ [piece]

/-- The location to which pieces lead if there are directories all the way. -/
def goal (start : Location) (pieces : List OsText) : Location := pieces.foldl next start

/-- The location at which a path starts. -/
def startOf (store : FileStore) (p : Path) : Location :=
  if p.isAbsolute then [] else store.workingDirectory

theorem goal_append (start : Location) (front back : List OsText) :
    goal start (front ++ back) = goal (goal start front) back := List.foldl_append

theorem goal_replicate_nil (start : Location) (n : Nat) :
    goal start (List.replicate n []) = start := by
  induction n with
  | zero => rfl
  | succ n ih =>
    show goal (next start []) (List.replicate n []) = start
    exact ih

/-- The bytes of a piece that is the name of an entry are limited. -/
def FitsName (piece : OsText) : Prop :=
  piece = [] ∨ piece = [.char '.'] ∨ piece = [.char '.', .char '.'] ∨
    piece.byteLength ≤ maxNameLength

/-- **A step is taken in a directory, by a piece that is not too long.** -/
theorem step_eq_ok_iff {location next' : Location} {piece : OsText} :
    store.step location piece = .ok next' ↔
      store.node? location = some .directory ∧ FitsName piece ∧ next' = next location piece := by
  unfold step next FitsName
  rcases hnode : store.node? location with - | node
  · simp
  · rcases node with - | content | entries
    · simp only [List.isEmpty_iff, Bool.or_eq_true, decide_eq_true_eq]
      grind
    · simp
    · simp

/-- **A walk succeeds exactly if all of its way is directories.** -/
theorem steps_eq_ok_iff {last : Location} {pieces : List OsText} :
    ∀ {location : Location}, store.steps location pieces = .ok last ↔
      last = goal location pieces ∧ (∀ piece ∈ pieces, FitsName piece) ∧
        ∀ front, front <+: pieces → front ≠ pieces →
          store.node? (goal location front) = some .directory := by
  induction pieces with
  | nil =>
    intro location
    simp [steps, goal, eq_comm]
  | cons piece rest ih =>
    intro location
    have hsteps : store.steps location (piece :: rest) = .ok last ↔
        ∃ between,
          store.step location piece = .ok between ∧ store.steps between rest = .ok last := by
      rw [steps]
      rcases store.step location piece with e | between <;> simp
    rw [hsteps]
    simp only [step_eq_ok_iff, ih]
    constructor
    · rintro ⟨_, ⟨hnode, hpiece, rfl⟩, hlast, hrest, hway⟩
      refine ⟨hlast, List.forall_mem_cons.2 ⟨hpiece, hrest⟩, fun front hfront hne ↦ ?_⟩
      rcases front with - | ⟨first, others⟩
      · exact hnode
      · obtain ⟨rfl, hothers⟩ := List.cons_prefix_cons.1 hfront
        exact hway others hothers fun h ↦ hne (by rw [h])
    · rintro ⟨hlast, hfits, hway⟩
      obtain ⟨hpiece, hrest⟩ := List.forall_mem_cons.1 hfits
      refine ⟨_, ⟨hway [] List.nil_prefix (List.cons_ne_nil _ _).symm, hpiece, rfl⟩, hlast, hrest,
        fun front hfront hne ↦ ?_⟩
      exact hway (piece :: front) (List.cons_prefix_cons.2 ⟨rfl, hfront⟩)
        fun h ↦ hne (List.cons.inj h).2

theorem steps_append_eq_ok_iff {last : Location} {front back : List OsText} :
    ∀ {location : Location}, store.steps location (front ++ back) = .ok last ↔
      ∃ between,
        store.steps location front = .ok between ∧ store.steps between back = .ok last := by
  induction front with
  | nil =>
    intro location
    simp [steps]
  | cons piece front ih =>
    intro location
    rw [List.cons_append, steps, steps]
    rcases store.step location piece with e | between
    · simp
    · exact ih

theorem steps_concat_eq_ok_iff {location last : Location} {init : List OsText}
    {piece : OsText} :
    store.steps location (init ++ [piece]) = .ok last ↔
      ∃ between, store.steps location init = .ok between ∧
        store.node? between = some .directory ∧ FitsName piece ∧ last = next between piece := by
  have hstep : ∀ between, store.steps between [piece] = store.step between piece := fun between ↦ by
    rw [steps]
    rcases store.step between piece with e | reached <;> rfl
  simp only [steps_append_eq_ok_iff, hstep, step_eq_ok_iff]

/-- Empty pieces lead nowhere. -/
theorem steps_replicate_nil {location : Location}
    (h : store.node? location = some .directory) (n : Nat) :
    store.steps location (List.replicate n []) = .ok location := by
  refine steps_eq_ok_iff.2 ⟨(goal_replicate_nil _ _).symm, fun piece hpiece ↦ ?_,
    fun front hfront _ ↦ ?_⟩
  · exact Or.inl (List.eq_of_mem_replicate hpiece)
  · rw [(List.prefix_replicate_iff.1 hfront).2, goal_replicate_nil, h]

/-! ### Locations of paths -/

/-- A path that an operating system looks at. -/
def Admissible (p : Path) : Prop :=
  p.letters.isEmpty = false ∧ p.letters.contains (.char '\x00') = false ∧
    p.letters.byteLength ≤ maxPathLength

theorem walk_eq_ok_iff {pieces : List OsText} {last : Location} :
    store.walk p pieces = .ok last ↔
      Admissible p ∧ store.steps (store.startOf p) pieces = .ok last := by
  rw [walk, Admissible, startOf]
  split
  · rename_i h
    simp [h]
  · split
    · rename_i h
      simp only [List.contains_eq_mem] at h ⊢
      simp [h]
    · split
      · rename_i h
        refine iff_of_false (by simp) fun hadmissible ↦ ?_
        have := hadmissible.1.2.2
        omega
      · rename_i hempty hnul hlong
        rw [Bool.not_eq_true] at hempty hnul
        simp only [hempty, hnul, true_and, Nat.le_of_not_lt hlong]

theorem isDirectory_iff :
    store.isDirectory p = true ↔
      ∃ location, store.locate p = .ok location ∧ store.node? location = some .directory := by
  rw [isDirectory, resolve]
  rcases store.locate p with e | location
  · simp
  · rcases hnode : store.node? location with - | node
    · simp [hnode]
    · rcases node with - | content | entries <;> simp [hnode]

section More

variable {more : FileStore} (hmore : ∀ location, store.node? location = some .directory →
  more.node? location = some .directory)

include hmore

/-- What is reached in a store is reached in one with more directories. -/
theorem steps_of_more {location last : Location} {pieces : List OsText}
    (h : store.steps location pieces = .ok last) : more.steps location pieces = .ok last := by
  obtain ⟨hlast, hfits, hway⟩ := steps_eq_ok_iff.1 h
  exact steps_eq_ok_iff.2 ⟨hlast, hfits, fun front hfront hne ↦ hmore _ (hway front hfront hne)⟩

theorem walk_of_more (hwhere : more.workingDirectory = store.workingDirectory)
    {pieces : List OsText} {last : Location} (h : store.walk p pieces = .ok last) :
    more.walk p pieces = .ok last := by
  obtain ⟨hadmissible, hsteps⟩ := walk_eq_ok_iff.1 h
  have hstart : more.startOf p = store.startOf p := by rw [startOf, startOf, hwhere]
  exact walk_eq_ok_iff.2 ⟨hadmissible, hstart ▸ steps_of_more hmore hsteps⟩

theorem isDirectory_of_more (hwhere : more.workingDirectory = store.workingDirectory)
    (h : store.isDirectory p = true) : more.isDirectory p = true := by
  obtain ⟨location, hlocate, hnode⟩ := isDirectory_iff.1 h
  exact isDirectory_iff.2 ⟨location, walk_of_more hmore hwhere hlocate, hmore _ hnode⟩

end More

/-- A store in which every entry stands in a directory. -/
def Rooted (store : FileStore) : Prop :=
  ∀ location name, store.node? (location ++ [name]) ≠ none → store.node? location = some .directory

/-- A path to which texts can be written. -/
def Writable (store : FileStore) (p : Path) : Prop :=
  ∀ text, ∃ after, store.writeText p text = .ok after

theorem writeText_of_locate {text : String} {location : Location}
    (hend : p.letters.getLast? ≠ some (.char '/')) (hlocate : store.locate p = .ok location)
    (hnot : store.node? location ≠ some .directory) :
    store.writeText p text = .ok (store.put location (.file (.text text))) := by
  rw [writeText, if_neg (by simpa using hend), hlocate]
  rcases hnode : store.node? location with - | node
  · simp [hnode]
  · rcases node with - | content | entries
    · exact absurd hnode hnot
    · simp [hnode]
    · simp [hnode]

theorem not_separator_of_writeText {after : FileStore} {text : String}
    (h : store.writeText p text = .ok after) : p.letters.getLast? ≠ some (.char '/') := by
  intro hend
  rw [writeText, if_pos (by simpa using hend)] at h
  rcases hwalk : store.walk p ((namePieces p).dropLast ++ [[.char '.']]) with e | location <;>
    simp [hwalk, Except.bind] at h

/-- A file that is put somewhere is no directory, and was none. -/
theorem directory_put_iff {target location : Location} {content : Blob}
    (hnot : store.node? target ≠ some .directory) :
    (store.put target (.file content)).node? location = some .directory ↔
      store.node? location = some .directory := by
  rw [node?_put store (ne_nil_of_not_directory hnot)]
  split
  · rename_i heq
    subst heq
    simp [hnot]
  · exact Iff.rfl

/-- A directory stays one where a node is put somewhere else. -/
theorem isDirectory_put {target : Location} (hnot : store.node? target ≠ some .directory)
    (node : FileNode) (h : store.isDirectory p = true) :
    (store.put target node).isDirectory p = true := by
  obtain ⟨location, hlocate, hnode⟩ := isDirectory_iff.1 h
  refine isDirectory_iff.2 ⟨location, locate_put hnot node hlocate, ?_⟩
  rw [node?_put store (ne_nil_of_not_directory hnot), if_neg, hnode]
  rintro rfl
  exact hnot hnode

/-! ### Making directories -/

theorem exists_pieces_eq (p : Path) :
    ∃ n, p.pieces = namePieces p ++ List.replicate n [] := by
  have hsplit := List.takeWhile_append_dropWhile (p := List.isEmpty) (l := p.pieces.reverse)
  have hempty : p.pieces.reverse.takeWhile List.isEmpty =
      List.replicate (p.pieces.reverse.takeWhile List.isEmpty).length [] :=
    List.eq_replicate_of_mem fun piece hpiece ↦ List.isEmpty_iff.1 (List.mem_takeWhile_imp hpiece)
  refine ⟨(p.pieces.reverse.takeWhile List.isEmpty).length, ?_⟩
  rw [namePieces, ← List.reverse_replicate, ← hempty, ← List.reverse_append, hsplit,
    List.reverse_reverse]

theorem namePieces_prefix (p : Path) : namePieces p <+: p.pieces := by
  obtain ⟨n, hn⟩ := exists_pieces_eq p
  exact ⟨_, hn.symm⟩

theorem makeDirectory_eq_ok {made : FileStore} (h : store.makeDirectory p = .ok made) :
    ∃ location, store.walk p (namePieces p) = .ok location ∧ store.node? location = none ∧
      made = store.put location .directory := by
  unfold makeDirectory at h
  split at h
  · cases h
  · rename_i location hwalk
    split at h
    · cases h
    · rename_i hnone
      exact ⟨location, hwalk, hnone, (Except.ok.inj h).symm⟩

/-- A directory that is there is not made again. -/
theorem makeDirectory_of_isDirectory (h : store.isDirectory p = true) :
    store.makeDirectory p = .error .fileExists := by
  obtain ⟨location, hlocate, hnode⟩ := isDirectory_iff.1 h
  obtain ⟨hadmissible, hsteps⟩ := walk_eq_ok_iff.1 hlocate
  obtain ⟨n, hn⟩ := exists_pieces_eq p
  rw [hn] at hsteps
  obtain ⟨between, hfront, hback⟩ := steps_append_eq_ok_iff.1 hsteps
  obtain ⟨rfl, -, -⟩ := steps_eq_ok_iff.1 hback
  rw [goal_replicate_nil] at hnode
  have hwalk : store.walk p (namePieces p) = .ok between := walk_eq_ok_iff.2 ⟨hadmissible, hfront⟩
  simp [makeDirectory, hwalk, hnode]

theorem isDirectory_of_makeDirectory {made : FileStore} (h : store.makeDirectory p = .ok made) :
    made.isDirectory p = true := by
  obtain ⟨location, hwalk, hnone, rfl⟩ := makeDirectory_eq_ok h
  obtain ⟨hadmissible, hsteps⟩ := walk_eq_ok_iff.1 hwalk
  have hnot : store.node? location ≠ some .directory := by simp [hnone]
  have hnode : (store.put location .directory).node? location = some .directory := by
    rw [node?_put store (ne_nil_of_not_directory hnot), if_pos rfl]
  have hstart : (store.put location .directory).startOf p = store.startOf p := by
    rw [startOf, startOf, workingDirectory_put]
  obtain ⟨n, hn⟩ := exists_pieces_eq p
  refine isDirectory_iff.2 ⟨location, walk_eq_ok_iff.2 ⟨hadmissible, ?_⟩, hnode⟩
  rw [hn, hstart]
  exact steps_append_eq_ok_iff.2
    ⟨location, steps_put hnot .directory _ _ hsteps, steps_replicate_nil hnode n⟩

/-- **Where there is a directory, none is made.** -/
theorem makeDirectories_of_isDirectory (h : store.isDirectory p = true) :
    store.makeDirectories p = (.ok (), store) := by
  obtain ⟨location, hlocate, -⟩ := isDirectory_iff.1 h
  obtain ⟨⟨hempty, -⟩, -⟩ := walk_eq_ok_iff.1 hlocate
  rw [makeDirectories, makeDirectoriesWithin, hempty]
  simp [makeDirectory_of_isDirectory h, h]

/-- **Where directories were made, there is one in the end.** -/
theorem isDirectory_of_makeDirectories {made : FileStore} (hp : p.letters.isEmpty = false)
    (h : store.makeDirectories p = (.ok (), made)) : made.isDirectory p = true := by
  rw [makeDirectories, makeDirectoriesWithin, hp] at h
  simp only [Bool.false_eq_true, if_false] at h
  split at h
  · rename_i after hmade
    cases h
    exact isDirectory_of_makeDirectory hmade
  · split at h
    · cases h
    · split at h
      · cases h
      · split at h
        · rename_i after hmade
          cases h
          exact isDirectory_of_makeDirectory hmade
        · split at h
          · rename_i hdirectory
            cases h
            exact hdirectory
          · cases h
  · split at h
    · rename_i hdirectory
      cases h
      exact hdirectory
    · cases h

/-- A store whose nodes are those of an earlier one but for the way of a path. -/
structure DiffersOnWay (before : FileStore) (p : Path) (after : FileStore) : Prop where
  workingDirectory_eq : after.workingDirectory = before.workingDirectory
  node?_eq : ∀ location, after.node? location = before.node? location ∨
    ∃ front, front <+: p.pieces ∧ location = goal (before.startOf p) front

namespace DiffersOnWay

variable {a b c : FileStore} {q : Path}

theorem refl (store : FileStore) (p : Path) : DiffersOnWay store p store :=
  ⟨rfl, fun _ ↦ Or.inl rfl⟩

theorem startOf_eq (h : DiffersOnWay a p b) (q : Path) : b.startOf q = a.startOf q := by
  rw [startOf, startOf, h.workingDirectory_eq]

theorem trans (hab : DiffersOnWay a p b) (hbc : DiffersOnWay b p c) : DiffersOnWay a p c where
  workingDirectory_eq := hbc.workingDirectory_eq.trans hab.workingDirectory_eq
  node?_eq := by
    intro location
    rcases hbc.node?_eq location with hkept | hway
    · rcases hab.node?_eq location with hkept' | hway
      · exact Or.inl (hkept.trans hkept')
      · exact Or.inr hway
    · exact Or.inr (hab.startOf_eq p ▸ hway)

theorem of_makeDirectory (h : a.makeDirectory p = .ok b) : DiffersOnWay a p b := by
  obtain ⟨location, hwalk, hnone, rfl⟩ := makeDirectory_eq_ok h
  obtain ⟨-, hsteps⟩ := walk_eq_ok_iff.1 hwalk
  refine ⟨workingDirectory_put _ _ _, fun other ↦ ?_⟩
  have hne : location ≠ [] := @ne_nil_of_not_directory a _ (by simp [hnone])
  rw [node?_put a hne]
  by_cases hother : other = location
  · exact Or.inr ⟨_, namePieces_prefix p, hother.trans (steps_eq_ok_iff.1 hsteps).1⟩
  · exact Or.inl (if_neg hother)

/-- The way of the directory above a path is part of its own. -/
theorem of_parent? (h : p.parent? = some q) (hroot : q.letters ≠ [.char '/'])
    (hempty : q.letters ≠ [])
    (hq : DiffersOnWay a q b) : DiffersOnWay a p b := by
  refine ⟨hq.workingDirectory_eq, fun location ↦ ?_⟩
  rcases hq.node?_eq location with hkept | ⟨front, hfront, hgoal⟩
  · exact Or.inl hkept
  · rcases Path.pieces_of_parent? h with h' | h' | hinit
    · exact absurd h' hempty
    · exact absurd h' hroot
    · refine Or.inr ⟨front, (hfront.trans hinit).trans (List.dropLast_prefix _), ?_⟩
      rw [hgoal, startOf, startOf, Path.isAbsolute_eq_of_parent? h hroot]

end DiffersOnWay

theorem isDirectory_root (store : FileStore) : store.isDirectory ⟨[.char '/']⟩ = true := by
  have hnode : store.node? [] = some .directory := if_pos rfl
  have hpieces : (⟨[.char '/']⟩ : Path).pieces = List.replicate 2 [] := by decide
  refine isDirectory_iff.2 ⟨[], walk_eq_ok_iff.2 ⟨⟨by decide, by decide, by decide⟩, ?_⟩,
    hnode⟩
  rw [hpieces]
  exact steps_replicate_nil hnode 2

/-- Nothing is made for the empty path, or for the root. -/
theorem makeDirectoriesWithin_of_start (hp : p.letters = [] ∨ p.letters = [.char '/'])
    (fuel : Nat) :
    (store.makeDirectoriesWithin fuel p).2 = store := by
  obtain ⟨letters⟩ := p
  rcases fuel with - | fuel
  · rfl
  · rcases hp with rfl | rfl
    · rfl
    · have hroot := store.isDirectory_root
      simp [makeDirectoriesWithin, makeDirectory_of_isDirectory hroot, hroot]

theorem makeDirectories_of_start (hp : p.letters = [] ∨ p.letters = [.char '/']) :
    store.makeDirectories p = (.ok (), store) := by
  obtain ⟨letters⟩ := p
  rcases hp with rfl | rfl
  · rfl
  · exact makeDirectories_of_isDirectory store.isDirectory_root

theorem makeDirectoriesWithin_differs (fuel : Nat) :
    ∀ (store : FileStore) (p : Path),
      DiffersOnWay store p (store.makeDirectoriesWithin fuel p).2 := by
  induction fuel with
  | zero => exact fun store p ↦ .refl store p
  | succ fuel ih =>
    intro store p
    unfold makeDirectoriesWithin
    split
    · exact .refl store p
    · split
      · rename_i made hmade
        exact .of_makeDirectory hmade
      · split
        · exact .refl store p
        · rename_i above habove
          have hway : DiffersOnWay store p (store.makeDirectoriesWithin fuel above).2 := by
            by_cases hstart : above.letters = [] ∨ above.letters = [.char '/']
            · rw [makeDirectoriesWithin_of_start hstart]
              exact .refl store p
            · rw [not_or] at hstart
              exact .of_parent? habove hstart.2 hstart.1 (ih store above)
          split
          · rename_i hstopped
            rwa [hstopped] at hway
          · rename_i hstopped
            rw [hstopped] at hway
            split
            · rename_i made hmade
              exact hway.trans (.of_makeDirectory hmade)
            · exact hway
      · exact .refl store p

/-- **Directories are made on the way of a path only.** -/
theorem makeDirectories_differs (store : FileStore) (p : Path) :
    DiffersOnWay store p (store.makeDirectories p).2 :=
  makeDirectoriesWithin_differs _ store p

/-! ### Entries stand in directories -/

/-- What a walk leads to stands in a directory, whether or not it is there. -/
theorem Rooted.directory_of_steps (h : store.Rooted) {start location : Location}
    {pieces : List OsText} {name : OsText} (hne : pieces ≠ [])
    (hsteps : store.steps start pieces = .ok (location ++ [name])) :
    store.node? location = some .directory := by
  obtain ⟨init, piece, rfl⟩ := List.eq_nil_or_concat' pieces |>.resolve_left hne
  obtain ⟨between, -, hbetween, -, hnext⟩ := steps_concat_eq_ok_iff.1 hsteps
  have hthere : ∀ {other : Location}, store.node? other = some .directory →
      store.node? other ≠ none := fun hother ↦ by simp [hother]
  rw [next] at hnext
  split at hnext
  · subst hnext
    exact h _ _ (hthere hbetween)
  · split at hnext
    · -- the directory above one that is there is there as well
      rcases List.eq_nil_or_concat' between with rfl | ⟨above, last, rfl⟩
      · simp at hnext
      · rw [List.dropLast_concat] at hnext
        subst hnext
        exact h _ _ (hthere (h _ _ (hthere hbetween)))
    · obtain ⟨rfl, -⟩ := List.append_inj' hnext rfl
      exact hbetween

/-- An entry may be put where a walk leads. -/
theorem Rooted.put (h : store.Rooted) {start location : Location} {pieces : List OsText}
    (hne : pieces ≠ []) (hsteps : store.steps start pieces = .ok location)
    (hnot : store.node? location ≠ some .directory) (node : FileNode) :
    (store.put location node).Rooted := by
  intro other name hthere
  have hput := store.node?_put (ne_nil_of_not_directory hnot) node
  have hother : store.node? other = some .directory := by
    rw [hput] at hthere
    split at hthere
    · rename_i heq
      exact h.directory_of_steps hne (heq ▸ hsteps)
    · exact h _ _ hthere
  rw [hput, if_neg, hother]
  rintro rfl
  exact hnot hother

theorem Rooted.writeText (h : store.Rooted) {after : FileStore} {text : String}
    (hwrite : store.writeText p text = .ok after) : after.Rooted := by
  obtain ⟨location, hlocate, hnot, rfl⟩ := writeText_eq_ok hwrite
  exact h.put (List.splitOn_ne_nil _ _) (walk_eq_ok_iff.1 hlocate).2 hnot _

theorem Rooted.makeDirectory (h : store.Rooted) {made : FileStore}
    (hmake : store.makeDirectory p = .ok made) : made.Rooted := by
  obtain ⟨location, hwalk, hnone, rfl⟩ := makeDirectory_eq_ok hmake
  obtain ⟨⟨hempty, -⟩, hsteps⟩ := walk_eq_ok_iff.1 hwalk
  have hnot : store.node? location ≠ some .directory := by simp [hnone]
  refine h.put (fun hnil ↦ ?_) hsteps hnot _
  -- a path without names is empty or leads to the root
  obtain ⟨n, hn⟩ := exists_pieces_eq p
  rw [hnil, List.nil_append] at hn
  rw [hnil, steps] at hsteps
  rcases n with - | - | n
  · exact List.splitOn_ne_nil _ _ hn
  · have hletters := Path.intercalate_pieces p
    rw [hn] at hletters
    exact List.isEmpty_eq_false_iff.1 hempty hletters.symm
  · have habsolute := Path.isAbsolute_iff_pieces.2 ⟨_, _, hn⟩
    rw [startOf, if_pos habsolute] at hsteps
    cases hsteps
    exact hnot (if_pos rfl)

theorem Rooted.makeDirectories (h : store.Rooted) (p : Path) : (store.makeDirectories p).2.Rooted :=
  makeDirectoriesWithin_related (R := fun a b ↦ a.Rooted → b.Rooted) (fun _ h ↦ h)
    (fun hab hbc h ↦ hbc (hab h)) (fun hmake h ↦ h.makeDirectory hmake) _ store p h

end WorkspaceIndex.FileStore
