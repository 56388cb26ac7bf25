import WorkspaceIndex.Proofs.FileStore.Change
import WorkspaceIndex.World
/-!
# The calls of a run

The trace of a world holds everything that happened. Of that, the *calls* are what collaborators
were asked for: a plugin, a compilation, an index. `World.Advances` relates two worlds by the exact
list of calls between them, and says that between them no file was touched.

Every step of a run that is no writing of a file advances its world, however it ends, and the calls
are known before the answers are. So each step has one lemma here for both ends, stated through
`leaves`, and a computation out of steps is opened by `bind_eq_ok` and `bind_eq_error`.
-/

namespace WorkspaceIndex

variable {ε σ α β : Type}

/-! ### Computations that may fail -/

/-- The state in which a computation ends, well or not. -/
def leaves : EStateM.Result Failure σ α → σ
  | .ok _ s => s
  | .error _ s => s

@[simp] theorem leaves_ok (a : α) (s : σ) :
    leaves (.ok a s : EStateM.Result Failure σ α) = s := rfl

@[simp] theorem leaves_error (failure : Failure) (s : σ) :
    leaves (.error failure s : EStateM.Result Failure σ α) = s := rfl

/-- Whether a computation ends well. -/
def endsWell : EStateM.Result Failure σ α → Bool
  | .ok _ _ => true
  | .error _ _ => false

theorem eq_ok_of_endsWell {result : EStateM.Result Failure σ Unit} (h : endsWell result = true) :
    result = .ok () (leaves result) := by
  rcases result with ⟨⟨⟩, s⟩ | ⟨failure, s⟩
  · rfl
  · cases h

theorem exists_eq_error_of_endsWell {result : EStateM.Result Failure σ Unit}
    (h : endsWell result = false) : ∃ failure, result = .error failure (leaves result) := by
  rcases result with ⟨⟨⟩, s⟩ | ⟨failure, s⟩
  · cases h
  · exact ⟨failure, rfl⟩

theorem bind_of_ok {x : EStateM Failure σ α} {f : α → EStateM Failure σ β} {s between : σ} {a : α}
    (h : x s = .ok a between) : (x >>= f) s = f a between := by
  show EStateM.bind x f s = _
  rw [EStateM.bind, h]

theorem bind_of_error {x : EStateM Failure σ α} {f : α → EStateM Failure σ β} {s after : σ}
    {failure : Failure} (h : x s = .error failure after) : (x >>= f) s = .error failure after := by
  show EStateM.bind x f s = _
  rw [EStateM.bind, h]

/-- A computation in two parts ends well when both do. -/
theorem bind_eq_ok {x : EStateM Failure σ α} {f : α → EStateM Failure σ β} {s s' : σ} {b : β} :
    (x >>= f) s = .ok b s' ↔ ∃ a between, x s = .ok a between ∧ f a between = .ok b s' := by
  rcases hx : x s with ⟨a, between⟩ | ⟨failure, between⟩
  · rw [bind_of_ok hx]
    simp
  · rw [bind_of_error hx]
    simp

/-- A computation in two parts fails when the first part does, or when the second does after it. -/
theorem bind_eq_error {x : EStateM Failure σ α} {f : α → EStateM Failure σ β} {s s' : σ}
    {failure : Failure} :
    (x >>= f) s = .error failure s' ↔
      x s = .error failure s' ∨
        ∃ a between, x s = .ok a between ∧ f a between = .error failure s' := by
  rcases hx : x s with ⟨a, between⟩ | ⟨failure', between⟩
  · rw [bind_of_ok hx]
    simp
  · rw [bind_of_error hx]
    simp

/-! ### Collaborators -/

/-- Collaborators that always answer the same question in the same way. -/
def Services.stateless (host : HostGraph) (fetch : Plugin → Except Failure (List Path))
    (compile : CompileCall → Answer) (index : IndexRequest → Answer) : Services Unit where
  host := host
  fetch := fun plugin _ outside ↦ (fetch plugin, outside)
  compile := fun call _ outside ↦ (compile call, outside)
  index := fun request _ outside ↦ (index request, outside)

/-! ### Programs that are started -/

namespace Machine

variable {machine after : Machine} {files : FileStore} {command : Command}

/-- A program that was started ran in the directory of the command, and nothing else is new on the
record of the machine. -/
theorem start_eq_ok {run : ProgramRun} (h : machine.start files command = (.ok run, after)) :
    ∃ location, command.locateDirectory files = .ok location ∧
      after = { machine with
        calls := machine.calls ++
          [⟨command.program, FileStore.pathOf location, command.arguments⟩] } := by
  rw [start] at h
  split at h
  · cases h
  · split at h
    · cases h
    · rename_i location hlocation
      split at h
      · cases h
      · cases h
        exact ⟨location, hlocation, rfl⟩

/-- A program that was not started left no record. -/
theorem start_eq_error {cause : OsError} (h : machine.start files command = (.error cause, after)) :
    after = machine := by
  rw [start] at h
  split at h
  · cases h
    rfl
  · split at h
    · cases h
      rfl
    · split at h
      · cases h
        rfl
      · cases h

end Machine

/-! ### Calls -/

namespace Event

/-- Whether an event is a call of a collaborator. -/
def isCall : Event → Bool
  | .fetched _ | .compiled _ | .indexed _ _ => true
  | .reported _ | .noticed _ => false

/-- The call of the compiler, if an event is one. -/
def compileCall? : Event → Option CompileCall
  | .compiled call => some call
  | _ => none

/-- The order that the indexer was given, if an event is a call of it. -/
def indexRequest? : Event → Option IndexRequest
  | .indexed request _ => some request
  | _ => none

end Event

namespace World

/-- The calls on the trace of a world, in order. -/
def calls (w : World ε) : List Event := w.trace.filter Event.isCall

theorem calls_record (w : World ε) (event : Event) :
    (w.record event).calls = w.calls ++ if event.isCall then [event] else [] := by
  rw [calls, record, List.filter_append]
  by_cases h : event.isCall <;> simp [calls, h]

/-- Diagnostics are no calls. -/
@[simp] theorem calls_report (w : World ε) (diagnostics : List Diagnostic) :
    (w.report diagnostics).calls = w.calls := by
  rw [calls, report, List.filter_append, List.filter_map]
  have hnone : (diagnostics.filter (Event.isCall ∘ Event.reported)) = [] := by
    simp [Event.isCall]
  rw [hnone, List.map_nil, List.append_nil, calls]

/-- From one world to a later one exactly these calls were made, in this order, and no file was
touched. -/
structure Advances (before after : World ε) (calls : List Event) : Prop where
  calls_eq : after.calls = before.calls ++ calls
  files_gain : before.files.GainsDirectories after.files

theorem Advances.refl (w : World ε) : w.Advances w [] :=
  ⟨(List.append_nil _).symm, .refl _⟩

theorem Advances.trans {a b c : World ε} {first second : List Event} (hab : a.Advances b first)
    (hbc : b.Advances c second) : a.Advances c (first ++ second) where
  calls_eq := by rw [hbc.calls_eq, hab.calls_eq, List.append_assoc]
  files_gain := hab.files_gain.trans hbc.files_gain

/-- A world advances by a call that is put on its trace, whatever becomes of the collaborators. -/
theorem advances_call (w : World ε) {event : Event} (h : event.isCall) (outside : ε)
    (diagnostics : List Diagnostic) :
    w.Advances (({ w.record event with outside } : World ε).report diagnostics) [event] where
  calls_eq := by
    rw [calls_report]
    show (w.record event).calls = _
    rw [calls_record, if_pos h]
  files_gain := .refl w.files

end World

/-- A computation whose second part makes no call makes those of its first part, whether or not it
gets to the second. -/
theorem advances_bind {x : Run ε α} {f : α → Run ε β} {w : World ε} {calls : List Event}
    (hx : w.Advances (leaves (x w)) calls)
    (hf : ∀ (a : α) (after : World ε), after.Advances (leaves (f a after)) []) :
    w.Advances (leaves ((x >>= f) w)) calls := by
  rcases hend : x w with ⟨a, after⟩ | ⟨failure, after⟩
  · rw [hend, leaves_ok] at hx
    rw [bind_of_ok hend]
    simpa using hx.trans (hf a after)
  · rw [hend] at hx
    rw [bind_of_error hend]
    exact hx

/-! ### The steps of a run -/

namespace Run

variable (services : Services ε) (w : World ε)

theorem ofExcept_ok (a : α) (w : World ε) : ofExcept (.ok a) w = .ok a w := rfl

theorem ofExcept_error (failure : Failure) (w : World ε) :
    (ofExcept (.error failure) : Run ε α) w = .error failure w := rfl

theorem leaves_ofExcept (result : Except Failure α) (w : World ε) :
    leaves (ofExcept result w) = w := by
  rcases result with failure | a <;> rfl

theorem ofExcept_eq_ok {result : Except Failure α} {w after : World ε} {a : α} :
    ofExcept result w = .ok a after ↔ result = .ok a ∧ after = w := by
  rcases result with failure | b
  · rw [ofExcept_error]
    simp
  · rw [ofExcept_ok]
    simp [eq_comm]

theorem ofExcept_eq_error {result : Except Failure α} {w after : World ε} {failure : Failure} :
    ofExcept result w = .error failure after ↔ result = .error failure ∧ after = w := by
  rcases result with failure | b
  · rw [ofExcept_error]
    simp [eq_comm]
  · rw [ofExcept_ok]
    simp

theorem notice_advances (n : Notice) : w.Advances (w.record (.noticed n)) [] where
  calls_eq := by rw [World.calls_record]; rfl
  files_gain := .refl w.files

/-- A fetch is one call, whether it is answered or refused. -/
theorem fetch_advances (plugin : Plugin) :
    w.Advances (leaves (fetch services plugin w)) [.fetched plugin] := by
  rw [fetch, leaves_ofExcept]
  refine ⟨?_, .refl w.files⟩
  show (w.record (.fetched plugin)).calls = _
  rw [World.calls_record]
  rfl

/-- The compiler is called once, and its answer is returned however it ends. -/
theorem compile_advances (call : CompileCall) :
    w.Advances (leaves (compile services call w)) [.compiled call] :=
  w.advances_call rfl _ _

theorem compile_ne_error {call : CompileCall} {failure : Failure} {after : World ε} :
    compile services call w ≠ .error failure after := by
  simp [compile]

/-- The indexer is called once, with the classpath file as it is then. -/
theorem index_advances (request : IndexRequest) :
    w.Advances (leaves (index services request w))
      [.indexed request (classpathFileOf w.files request)] := by
  rw [index, leaves_ofExcept]
  exact w.advances_call rfl _ _

/-- An indexer leaves the files as they are. -/
theorem files_index (request : IndexRequest) :
    (leaves (index services request w)).files = w.files := by
  rw [index, leaves_ofExcept]
  rfl

/-- The failure of an index is the one that the indexer answers. -/
theorem index_eq_error {request : IndexRequest} {failure : Failure} {after : World ε}
    (h : index services request w = .error failure after) :
    (services.index request w.files w.outside).1.result = .error failure :=
  (ofExcept_eq_error.1 h).1

/-- Directories are made without any call, and no file is touched even where the attempt is
refused half way. -/
theorem makeDirectories_advances (attempt : Attempt) (path : Path) :
    w.Advances (leaves (makeDirectories attempt path w)) [] := by
  have hgains := w.files.makeDirectories_gains path
  have hleaves : leaves (makeDirectories attempt path w) =
      { w with files := (w.files.makeDirectories path).2 } := by
    simp only [makeDirectories]
    split <;> rfl
  rw [hleaves]
  exact ⟨(List.append_nil _).symm, hgains⟩

theorem refused_of_makeDirectories {attempt : Attempt} {path : Path} {failure : Failure}
    {after : World ε} (h : makeDirectories attempt path w = .error failure after) :
    ∃ cause, failure = .refused attempt cause := by
  simp only [makeDirectories] at h
  split at h
  · cases h
  · rename_i cause _
    simp only [EStateM.Result.error.injEq] at h
    exact ⟨cause, h.1.symm⟩

/-! ### Writing a file -/

/-- The first half of writing a file makes the directories above it, if its path has any. -/
theorem writeFile_eq (path : Path) (text : String) :
    (writeFile path text : Run ε Unit) =
      (path.parent?.elim (pure ()) fun above ↦
        makeDirectories (.createDirectory above) above) >>= fun _ ↦ overwriteFile path text := by
  unfold writeFile
  rcases path.parent? with - | above <;> rfl

theorem makeAbove_advances (path : Path) :
    w.Advances (leaves ((path.parent?.elim (pure ()) fun above ↦
      makeDirectories (.createDirectory above) above : Run ε Unit) w)) [] := by
  rcases path.parent? with - | above
  · exact .refl w
  · exact makeDirectories_advances w _ above

/-- A file that was written holds the text, and no call was made for it. -/
theorem writeFile_eq_ok {path : Path} {text : String} {after : World ε}
    (h : writeFile path text w = .ok () after) :
    after.calls = w.calls ∧ after.files.readText path = .ok text := by
  rw [writeFile_eq] at h
  obtain ⟨_, between, habove, hwrite⟩ := bind_eq_ok.1 h
  have hadvances := makeAbove_advances w path
  rw [habove] at hadvances
  unfold overwriteFile at hwrite
  rcases hw : between.files.writeText path text with cause | files
  · simp [hw] at hwrite
  · simp only [hw, EStateM.Result.ok.injEq, true_and] at hwrite
    subst hwrite
    have hcalls : between.calls = w.calls := by simpa using hadvances.calls_eq
    exact ⟨hcalls, FileStore.readText_of_writeText hw⟩

/-- A file that could not be written leaves a world without any call, and no file touched. -/
theorem writeFile_eq_error {path : Path} {text : String} {failure : Failure} {after : World ε}
    (h : writeFile path text w = .error failure after) : w.Advances after [] := by
  rw [writeFile_eq] at h
  have hadvances := makeAbove_advances w path
  rcases bind_eq_error.1 h with habove | ⟨_, between, habove, hwrite⟩
  · rwa [habove] at hadvances
  · rw [habove] at hadvances
    unfold overwriteFile at hwrite
    rcases hw : between.files.writeText path text with cause | files
    · simp only [hw, EStateM.Result.error.injEq] at hwrite
      exact hwrite.2 ▸ hadvances
    · simp [hw] at hwrite

end Run

end WorkspaceIndex
