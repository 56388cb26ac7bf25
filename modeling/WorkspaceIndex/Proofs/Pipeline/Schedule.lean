import Mathlib.Data.List.Chain
import WorkspaceIndex.Proofs.Pipeline.Completed
/-!
# The schedule of a run

`Pipeline.schedule` lists what a run would do if nothing failed. What a run does is something else,
and to speak of it the run is *observed*: every hook and every phase is wrapped so that it leaves a
`Visit`, which says where it stands, what session it was given and how it ended. The visits are kept
beside the state of the collaborators, so the observed run is carried out by the very same
`Pipeline.runPhases`, and observing does not change it (`observe_eq`).

Everything then rests on `Visit.ofSteps`, the visits of a flat list of steps: they stop at the first
step that fails and not before. That a run is such a list is `runPhases_eq_all`, in which the two
loops over the hooks and the loop over the phases become one.
-/

namespace WorkspaceIndex

variable {ε : Type}

/-! ### Steps in a row -/

namespace SessionM

theorem all_append (first second : List (SessionM ε Unit)) :
    all (first ++ second) = all first >>= fun _ ↦ all second := by
  induction first with
  | nil => rw [List.nil_append, all, pure_bind]
  | cons step rest ih =>
    show step >>= (fun _ ↦ all (rest ++ second)) =
      (step >>= fun _ ↦ all rest) >>= fun _ ↦ all second
    rw [ih, bind_assoc]

theorem all_singleton (step : SessionM ε Unit) : all [step] = step := by
  show step >>= (fun _ ↦ pure ()) = step
  rw [bind_pure_unit]

/-- **What every step does, steps in a row do.** The relation may depend on what it has already
held of: a step has to keep it only from sessions that are related to the first one. -/
theorem all_related {R : Session ε → Session ε → Prop} {start : Session ε}
    (refl : ∀ s, R s s) (trans : ∀ {s t u}, R s t → R t u → R s u) {steps : List (SessionM ε Unit)}
    (hsteps : ∀ step ∈ steps, ∀ s, R start s → R s (leaves (step s))) :
    ∀ {s : Session ε}, R start s → R s (leaves (all steps s)) := by
  induction steps with
  | nil => exact fun {s} _ ↦ refl s
  | cons step rest ih =>
    intro s hs
    have hstep := hsteps step List.mem_cons_self s hs
    rcases hend : step s with ⟨⟨⟩, next⟩ | ⟨failure, after⟩
    · rw [hend, leaves_ok] at hstep
      rw [all, bind_of_ok hend]
      exact trans hstep
        (ih (fun other h ↦ hsteps other (List.mem_cons_of_mem _ h)) (trans hs hstep))
    · rw [hend] at hstep
      rw [all, bind_of_error hend]
      exact hstep

end SessionM

namespace Pipeline

theorem runPhase_eq_all (p : Pipeline ε) (phase : Phase ε) :
    p.runPhase phase = SessionM.all ((p.phaseSchedule phase).map Prod.snd) := by
  rw [phaseSchedule, List.map_append, List.map_append, SessionM.all_append, SessionM.all_append,
    List.map_map, List.map_map, List.map_singleton, SessionM.all_singleton, bind_assoc]
  rfl

/-- Three loops are one. -/
theorem runPhases_eq_all (p : Pipeline ε) (phases : List (Phase ε)) :
    p.runPhases phases = SessionM.all ((phases.flatMap p.phaseSchedule).map Prod.snd) := by
  induction phases with
  | nil => rfl
  | cons phase rest ih =>
    rw [List.flatMap_cons, List.map_append, SessionM.all_append, ← runPhase_eq_all, ← ih]
    rfl

/-- **A run goes through its schedule.** -/
theorem run_eq_all (p : Pipeline ε) (services : Services ε) (options : GenerateOptions)
    (world : World ε) :
    p.run services options world =
      SessionM.all ((p.schedule services).map Prod.snd) (start options world) := by
  rw [run, runPhases_eq_all, schedule]

end Pipeline

/-! ### Visits -/

/-- A step of a run that was carried out: its place, the session it was given and how it ended. -/
structure Visit (ε : Type) where
  moment : Moment
  given : Session ε
  result : EStateM.Result Failure (Session ε) Unit

/-- The state of the collaborators, and the visits so far. -/
abbrev Observed (ε : Type) := ε × List (Visit ε)

namespace Visit

/-- The visits of steps in a row, up to the first step that fails. -/
def ofSteps : List (Moment × SessionM ε Unit) → Session ε → List (Visit ε)
  | [], _ => []
  | (moment, step) :: rest, s =>
    match step s with
    | .ok () next => ⟨moment, s, .ok () next⟩ :: ofSteps rest next
    | .error failure after => [⟨moment, s, .error failure after⟩]

variable {moment : Moment} {step : SessionM ε Unit} {rest : List (Moment × SessionM ε Unit)}
  {s : Session ε}

theorem ofSteps_of_ok {next : Session ε} (h : step s = .ok () next) :
    ofSteps ((moment, step) :: rest) s = ⟨moment, s, step s⟩ :: ofSteps rest next := by
  rw [ofSteps, h]

theorem ofSteps_of_error {failure : Failure} {after : Session ε}
    (h : step s = .error failure after) :
    ofSteps ((moment, step) :: rest) s = [⟨moment, s, step s⟩] := by
  rw [ofSteps, h]

variable {steps : List (Moment × SessionM ε Unit)}

/-- The first visit finds the session as it was. -/
theorem head?_ofSteps (h : steps ≠ []) : (ofSteps steps s).head?.map given = some s := by
  obtain ⟨⟨moment, step⟩, rest, rfl⟩ := List.exists_cons_of_ne_nil h
  rcases hend : step s with ⟨⟨⟩, next⟩ | ⟨failure, after⟩
  · rw [ofSteps_of_ok hend]
    rfl
  · rw [ofSteps_of_error hend]
    rfl

theorem ofSteps_ne_nil (h : steps ≠ []) : ofSteps steps s ≠ [] := by
  intro hnil
  have hhead := head?_ofSteps (s := s) h
  rw [hnil] at hhead
  cases hhead

/-- The visits are steps from the front of the list, each carried out on what it was given. -/
theorem forall₂_ofSteps (steps : List (Moment × SessionM ε Unit)) (s : Session ε) :
    List.Forall₂ (fun visit step ↦ visit.moment = step.1 ∧ visit.result = step.2 visit.given)
      (ofSteps steps s) (steps.take (ofSteps steps s).length) := by
  induction steps generalizing s with
  | nil => exact .nil
  | cons entry rest ih =>
    obtain ⟨moment, step⟩ := entry
    rcases hend : step s with ⟨⟨⟩, next⟩ | ⟨failure, after⟩
    · rw [ofSteps_of_ok hend]
      exact .cons ⟨rfl, rfl⟩ (ih next)
    · rw [ofSteps_of_error hend]
      exact .cons ⟨rfl, rfl⟩ .nil

/-- What a visit leaves is what the next one is given, so none but the last has failed. -/
theorem isChain_ofSteps :
    (ofSteps steps s).IsChain fun visit next ↦ visit.result = .ok () next.given := by
  induction steps generalizing s with
  | nil => exact .nil
  | cons entry rest ih =>
    obtain ⟨moment, step⟩ := entry
    rcases hend : step s with ⟨⟨⟩, next⟩ | ⟨failure, after⟩
    · rw [ofSteps_of_ok hend, List.isChain_cons]
      refine ⟨fun visit hvisit ↦ ?_, ih⟩
      rcases hrest : rest with - | ⟨first, others⟩
      · rw [hrest] at hvisit
        cases hvisit
      · have hgiven := head?_ofSteps (s := next) (hrest ▸ List.cons_ne_nil first others)
        rw [hvisit, Option.map_some, Option.some.injEq] at hgiven
        rw [hend, hgiven]
    · rw [ofSteps_of_error hend]
      exact .singleton _

/-- **The last visit ends as the whole row of steps does.** -/
theorem getLast?_ofSteps (h : steps ≠ []) :
    (ofSteps steps s).getLast?.map result = some (SessionM.all (steps.map Prod.snd) s) := by
  induction steps generalizing s with
  | nil => exact absurd rfl h
  | cons entry rest ih =>
    obtain ⟨moment, step⟩ := entry
    rw [List.map_cons, SessionM.all]
    rcases hend : step s with ⟨⟨⟩, next⟩ | ⟨failure, after⟩
    · rw [ofSteps_of_ok hend, bind_of_ok hend]
      rcases hrest : rest with - | ⟨first, others⟩
      · show some (step s) = _
        rw [hend]
        rfl
      · have hne : rest ≠ [] := hrest ▸ List.cons_ne_nil first others
        rw [← hrest, List.getLast?_cons_of_ne_nil (ofSteps_ne_nil hne)]
        exact ih hne
    · rw [ofSteps_of_error hend, bind_of_error hend]
      show some (step s) = _
      rw [hend]

/-- Steps that all end well are all visited. -/
theorem ofSteps_of_all_eq_ok {after : Session ε}
    (h : SessionM.all (steps.map Prod.snd) s = .ok () after) :
    (ofSteps steps s).map Visit.moment = steps.map Prod.fst ∧
      ∀ visit ∈ ofSteps steps s, endsWell visit.result = true := by
  induction steps generalizing s with
  | nil => exact ⟨rfl, fun visit hvisit ↦ absurd hvisit List.not_mem_nil⟩
  | cons entry rest ih =>
    obtain ⟨moment, step⟩ := entry
    rw [List.map_cons, SessionM.all] at h
    obtain ⟨⟨⟩, next, hstep, hrest⟩ := bind_eq_ok.1 h
    obtain ⟨hmoments, hends⟩ := ih hrest
    rw [ofSteps_of_ok hstep]
    refine ⟨by rw [List.map_cons, List.map_cons, hmoments], fun visit hvisit ↦ ?_⟩
    rcases List.mem_cons.1 hvisit with rfl | hvisit
    · rw [hstep]
      rfl
    · exact hends visit hvisit

end Visit

/-! ### Observed runs -/

namespace Session

/-- A session in an observed run, with the visits so far. -/
def observed (s : Session ε) (visits : List (Visit ε)) : Session (Observed ε) where
  context := s.context
  snapshots := s.snapshots
  world := { files := s.world.files, outside := (s.world.outside, visits), trace := s.world.trace }

/-- The session without its visits. -/
def unobserved (s : Session (Observed ε)) : Session ε where
  context := s.context
  snapshots := s.snapshots
  world := { files := s.world.files, outside := s.world.outside.1, trace := s.world.trace }

/-- The visits that were made up to a session. -/
def visits (s : Session (Observed ε)) : List (Visit ε) := s.world.outside.2

end Session

/-- The end of a computation, in an observed run. -/
def observedEnd (result : EStateM.Result Failure (Session ε) Unit) (visits : List (Visit ε)) :
    EStateM.Result Failure (Session (Observed ε)) Unit :=
  match result with
  | .ok () s => .ok () (s.observed visits)
  | .error failure s => .error failure (s.observed visits)

/-- The end of an observed computation, without its visits. -/
def unobservedEnd (result : EStateM.Result Failure (Session (Observed ε)) Unit) :
    EStateM.Result Failure (Session ε) Unit :=
  match result with
  | .ok () s => .ok () s.unobserved
  | .error failure s => .error failure s.unobserved

@[simp] theorem unobservedEnd_observedEnd (result : EStateM.Result Failure (Session ε) Unit)
    (visits : List (Visit ε)) : unobservedEnd (observedEnd result visits) = result := by
  rcases result with ⟨⟨⟩, s⟩ | ⟨failure, s⟩ <;> rfl

@[simp] theorem visits_leaves_observedEnd (result : EStateM.Result Failure (Session ε) Unit)
    (visits : List (Visit ε)) : (leaves (observedEnd result visits)).visits = visits := by
  rcases result with ⟨⟨⟩, s⟩ | ⟨failure, s⟩ <;> rfl

/-- The step that carries `step` out and leaves a visit, however it ends. -/
def observeStep (moment : Moment) (step : SessionM ε Unit) : SessionM (Observed ε) Unit := fun s ↦
  let result := step s.unobserved
  observedEnd result (s.visits ++ [⟨moment, s.unobserved, result⟩])

/-- A hook that leaves a visit before and after every phase. -/
def Hook.observed (hook : Hook ε) : Hook (Observed ε) where
  name := hook.name
  before := fun phase ↦ observeStep (.before hook.name phase) (hook.before phase)
  after := fun phase ↦ observeStep (.after hook.name phase) (hook.after phase)

/-- A phase that leaves a visit. -/
def Phase.observed (phase : Phase ε) : Phase (Observed ε) where
  name := phase.name
  description := phase.description
  run := observeStep (.phase phase.name) phase.run

/-- Steps in a row leave the visits of `Visit.ofSteps`, and end as they do unobserved. -/
theorem SessionM.all_observeStep (steps : List (Moment × SessionM ε Unit)) :
    ∀ (s : Session ε) (before : List (Visit ε)),
      all (steps.map fun step ↦ observeStep step.1 step.2) (s.observed before) =
        observedEnd (all (steps.map Prod.snd) s) (before ++ Visit.ofSteps steps s) := by
  induction steps with
  | nil =>
    intro s before
    rw [Visit.ofSteps, List.append_nil]
    rfl
  | cons entry rest ih =>
    intro s before
    obtain ⟨moment, step⟩ := entry
    set made : Visit ε := ⟨moment, s, step s⟩
    have hobserved : observeStep moment step (s.observed before) =
        observedEnd (step s) (before ++ [made]) := rfl
    rw [List.map_cons, List.map_cons, all, all]
    rcases hend : step s with ⟨⟨⟩, next⟩ | ⟨failure, after⟩
    · rw [hend] at hobserved
      rw [Visit.ofSteps_of_ok hend, List.append_cons, bind_of_ok hobserved, ih, bind_of_ok hend]
    · rw [hend] at hobserved
      rw [Visit.ofSteps_of_error hend, bind_of_error hobserved, bind_of_error hend]
      rfl

namespace Pipeline

/-- The pipeline that leaves visits. -/
def observed (p : Pipeline ε) : Pipeline (Observed ε) where
  phases := p.phases.map Phase.observed
  hooks := p.hooks.map Hook.observed

/-- The run of a pipeline, observed from its start. -/
def observe (p : Pipeline ε) (services : Services ε) (options : GenerateOptions)
    (world : World ε) : EStateM.Result Failure (Session (Observed ε)) Unit :=
  p.observed.runPhases ((p.allPhases services).map Phase.observed)
    ((start options world).observed [])

/-- The visits of a run. -/
def visits (p : Pipeline ε) (services : Services ε) (options : GenerateOptions)
    (world : World ε) : List (Visit ε) :=
  (leaves (p.observe services options world)).visits

theorem phaseSchedule_observed (p : Pipeline ε) (phase : Phase ε) :
    p.observed.phaseSchedule phase.observed =
      (p.phaseSchedule phase).map fun step ↦ (step.1, observeStep step.1 step.2) := by
  simp only [phaseSchedule, observed, List.map_append, List.map_map, List.map_singleton]
  rfl

/-- **Observing a run does not change it**, and its visits are those of its schedule. -/
theorem observe_eq (p : Pipeline ε) (services : Services ε) (options : GenerateOptions)
    (world : World ε) :
    p.observe services options world =
      observedEnd (p.run services options world)
        (Visit.ofSteps (p.schedule services) (start options world)) := by
  have hschedule : (((p.allPhases services).map Phase.observed).flatMap
      p.observed.phaseSchedule).map Prod.snd =
        (p.schedule services).map fun step ↦ observeStep step.1 step.2 := by
    rw [List.flatMap_map, schedule, List.map_flatMap, List.map_flatMap]
    refine List.flatMap_congr fun phase _ ↦ ?_
    rw [phaseSchedule_observed, List.map_map]
    rfl
  rw [observe, runPhases_eq_all, hschedule, SessionM.all_observeStep, run_eq_all, List.nil_append]

theorem visits_eq (p : Pipeline ε) (services : Services ε) (options : GenerateOptions)
    (world : World ε) :
    p.visits services options world =
      Visit.ofSteps (p.schedule services) (start options world) := by
  rw [visits, observe_eq, visits_leaves_observedEnd]

/-- The built-in phases are always there. -/
theorem schedule_ne_nil (p : Pipeline ε) (services : Services ε) : p.schedule services ≠ [] := by
  simp [schedule, allPhases, Phase.builtin, phaseSchedule]

/-- **A run goes through its schedule up to the first step that fails.**

To observe a run leaves it as it is. Its visits are steps from the front of the schedule, each
carried out on the session that it was given: the first on the session in which the run starts,
every other on the session that the one before it left, which therefore ended well. The run ends as
its last visit does, with the same failure if it is one. So a run ends well if and only if it has
gone through the whole schedule and no visit has failed; the last step of a schedule may fail like
any other. -/
theorem run_follows_schedule (p : Pipeline ε) (services : Services ε) (options : GenerateOptions)
    (world : World ε) :
    unobservedEnd (p.observe services options world) = p.run services options world ∧
      (p.visits services options world).map Visit.moment <+:
        (p.schedule services).map Prod.fst ∧
      List.Forall₂ (fun visit step ↦ visit.moment = step.1 ∧ visit.result = step.2 visit.given)
        (p.visits services options world)
        ((p.schedule services).take (p.visits services options world).length) ∧
      (p.visits services options world).head?.map Visit.given = some (start options world) ∧
      (p.visits services options world).IsChain
        (fun visit next ↦ visit.result = .ok () next.given) ∧
      (p.visits services options world).getLast?.map Visit.result =
        some (p.run services options world) ∧
      (endsWell (p.run services options world) = true ↔
        (p.visits services options world).map Visit.moment = (p.schedule services).map Prod.fst ∧
          ∀ visit ∈ p.visits services options world, endsWell visit.result = true) := by
  rw [observe_eq, unobservedEnd_observedEnd, visits_eq]
  have hsteps := Visit.forall₂_ofSteps (p.schedule services) (start options world)
  have hlast := Visit.getLast?_ofSteps (s := start options world) (p.schedule_ne_nil services)
  rw [← run_eq_all] at hlast
  set visits := Visit.ofSteps (p.schedule services) (start options world)
  refine ⟨rfl, ?_, hsteps, Visit.head?_ofSteps (p.schedule_ne_nil services),
    Visit.isChain_ofSteps, hlast, fun hends ↦ ?_, fun ⟨_, hends⟩ ↦ ?_⟩
  · have hmoments : visits.map Visit.moment =
        ((p.schedule services).take visits.length).map Prod.fst := by
      rw [← List.forall₂_eq_eq_eq, List.forall₂_map_left_iff, List.forall₂_map_right_iff]
      exact hsteps.imp fun _ _ h ↦ h.1
    rw [hmoments, List.map_take]
    exact List.take_prefix _ _
  · have hrun := eq_ok_of_endsWell hends
    rw [run_eq_all] at hrun
    exact Visit.ofSteps_of_all_eq_ok hrun
  · obtain ⟨last, hmem, hresult⟩ := Option.map_eq_some_iff.1 hlast
    rw [← hresult]
    exact hends last (List.mem_of_getLast? hmem)

/-- A pipeline with a hook that fails at the very end of a run. -/
def failingLast : Pipeline Unit where
  hooks := [{
    name := "last"
    after := fun phase ↦ if phase = "index" then throw (.other "too late") else pure () }]

/-- Collaborators over a build without modules. -/
def emptyBuild : Services Unit :=
  .stateless { root := ⟨"/ws"⟩ } (fun _ ↦ .ok []) (fun _ ↦ {}) fun _ ↦ {}

/-- A run can fail after it has gone through its whole schedule, with its last step. -/
theorem whole_schedule_of_failed_run :
    (failingLast.visits emptyBuild ⟨⟨"index.scip"⟩, ⟨"/ws/out"⟩, false⟩ emptyWorkspace).map
        Visit.moment = (failingLast.schedule emptyBuild).map Prod.fst ∧
      endsWell (failingLast.run emptyBuild ⟨⟨"index.scip"⟩, ⟨"/ws/out"⟩, false⟩ emptyWorkspace) =
        false := by
  decide +kernel

end Pipeline

end WorkspaceIndex
