import WorkspaceIndex.Proofs.Pipeline.Attempts
import WorkspaceIndex.Proofs.Pipeline.FailFast
/-!
# What hooks and added phases leave alone

Hooks and added phases may do anything to a session, so what can be said of a run with any of them
depends on what they leave alone. A step *keeps* something about sessions if it is the same after
the step as before it, however the step ends, and a pipeline keeps it if all its hooks and added
phases do. What a pipeline keeps changes in a run only where a built-in phase changes it.

Used here for calls: if hooks and added phases do not call the indexer, it is called once at most,
by the last built-in phase, with the context as the run has it there (`Pipeline.indexCalls_run`).
And if they leave the classpath alone, it is the one that was aggregated in this run
(`Pipeline.classpath_of_toIndex`).
-/

namespace WorkspaceIndex

variable {ε α β γ : Type}

/-! ### Steps that keep something -/

namespace SessionM

/-- A computation that leaves something about a session as it is, however it ends. -/
def Keeps (f : Session ε → γ) (x : SessionM ε α) : Prop := ∀ s, f (leaves (x s)) = f s

variable {f : Session ε → γ}

/-- A second part that keeps something leaves it as the first part has left it. -/
theorem Keeps.leaves_bind {x : SessionM ε α} {g : α → SessionM ε β} (hg : ∀ a, Keeps f (g a))
    (s : Session ε) : f (leaves ((x >>= g) s)) = f (leaves (x s)) := by
  rcases hend : x s with ⟨a, between⟩ | ⟨failure, after⟩
  · rw [bind_of_ok hend, hg a between, leaves_ok]
  · rw [bind_of_error hend, leaves_error, leaves_error]

theorem Keeps.bind {x : SessionM ε α} {g : α → SessionM ε β} (hx : Keeps f x)
    (hg : ∀ a, Keeps f (g a)) : Keeps f (x >>= g) := fun s ↦
  (leaves_bind hg s).trans (hx s)

theorem Keeps.all {steps : List (SessionM ε Unit)} (h : ∀ step ∈ steps, Keeps f step) :
    Keeps f (all steps) := by
  induction steps with
  | nil => exact fun _ ↦ rfl
  | cons step rest ih =>
    exact (h step List.mem_cons_self).bind fun _ ↦
      ih fun other hother ↦ h other (List.mem_cons_of_mem _ hother)

end SessionM

namespace Pipeline

/-- A pipeline of which all hooks and added phases keep something. -/
structure Keeps (p : Pipeline ε) (f : Session ε → γ) : Prop where
  before : ∀ hook ∈ p.hooks, ∀ phase, SessionM.Keeps f (hook.before phase)
  after : ∀ hook ∈ p.hooks, ∀ phase, SessionM.Keeps f (hook.after phase)
  phases : ∀ phase ∈ p.phases, SessionM.Keeps f phase.run

namespace Keeps

variable {p : Pipeline ε} {f : Session ε → γ}

theorem all_before (hp : p.Keeps f) (phase : String) :
    SessionM.Keeps f (SessionM.all (p.hooks.map fun hook ↦ hook.before phase)) :=
  SessionM.Keeps.all (List.forall_mem_map.2 fun hook hhook ↦ hp.before hook hhook phase)

theorem all_after (hp : p.Keeps f) (phase : String) :
    SessionM.Keeps f (SessionM.all (p.hooks.map fun hook ↦ hook.after phase)) :=
  SessionM.Keeps.all (List.forall_mem_map.2 fun hook hhook ↦ hp.after hook hhook phase)

theorem runPhase (hp : p.Keeps f) {phase : Phase ε} (h : SessionM.Keeps f phase.run) :
    SessionM.Keeps f (p.runPhase phase) :=
  (hp.all_before phase.name).bind fun _ ↦ h.bind fun _ ↦ hp.all_after phase.name

theorem runPhases (hp : p.Keeps f) {phases : List (Phase ε)}
    (h : ∀ phase ∈ phases, SessionM.Keeps f phase.run) : SessionM.Keeps f (p.runPhases phases) := by
  induction phases with
  | nil => exact fun _ ↦ rfl
  | cons phase rest ih =>
    exact (hp.runPhase (h phase List.mem_cons_self)).bind fun _ ↦
      ih fun other hother ↦ h other (List.mem_cons_of_mem _ hother)

end Keeps

/-- A pipeline to which nothing was added keeps everything. -/
theorem keeps_plain (f : Session ε → γ) : ({} : Pipeline ε).Keeps f where
  before := fun _ h ↦ absurd h List.not_mem_nil
  after := fun _ h ↦ absurd h List.not_mem_nil
  phases := fun _ h ↦ absurd h List.not_mem_nil

end Pipeline

/-! ### The calls of the phases -/

namespace World

/-- The calls of the indexer on the trace of a world. -/
def indexCalls (w : World ε) : List Event := w.calls.filter fun event ↦ event.indexRequest?.isSome

/-- The calls for modules: those of the fetcher and of the compiler. -/
def moduleCalls (w : World ε) : List Event := w.calls.filter fun event ↦ event.indexRequest?.isNone

/-- Calls for modules are none of the indexer. -/
theorem indexCalls_of_calls {w after : World ε} {calls : List Event}
    (hcalls : after.calls = w.calls ++ calls) (hnone : calls.filterMap Event.indexRequest? = []) :
    after.indexCalls = w.indexCalls := by
  have hfilter : (calls.filter fun event ↦ event.indexRequest?.isSome) = [] := by
    rw [List.filter_eq_nil_iff]
    intro event hevent
    simp [List.filterMap_eq_nil_iff.1 hnone event hevent]
  rw [indexCalls, hcalls, List.filter_append, hfilter, List.append_nil, indexCalls]

end World

namespace Phase

variable (services : Services ε) (s : Session ε)

theorem world_resolveFormat : (leaves (resolveFormat.run s)).world = s.world := by
  rcases hend : resolveFormat.run s with ⟨⟨⟩, after⟩ | ⟨failure, after⟩
  · obtain ⟨format, -, rfl⟩ := resolveFormat_eq_ok hend
    rfl
  · rw [leaves_error, resolveFormat_eq_error hend]

/-- Compiling makes calls for modules only, however it ends. -/
theorem calls_compile :
    ∃ calls, (leaves ((compile services).run s)).world.calls = s.world.calls ++ calls ∧
      calls.filterMap Event.indexRequest? = [] := by
  rcases hend : (compile services).run s with ⟨⟨⟩, after⟩ | ⟨failure, after⟩
  · obtain ⟨plans, t, hmodules, rfl⟩ := compile_eq_ok hend
    obtain ⟨-, hadvances, -⟩ := processModules_eq_ok hmodules
    exact ⟨_, hadvances.calls_eq, Planned.filterMap_indexRequest?_flatMap _ _⟩
  · obtain ⟨done, m, rest, plans, between, -, hdone, hfails⟩ :=
      processModules_eq_error (compile_eq_error hend)
    obtain ⟨-, hadvances, -⟩ := processModules_eq_ok hdone
    obtain ⟨calls, hfails⟩ := moduleFails_of_processModule hfails
    refine ⟨_, (hadvances.trans hfails.advances).calls_eq, ?_⟩
    rw [List.filterMap_append, Planned.filterMap_indexRequest?_flatMap,
      Pipeline.filterMap_indexRequest?_of_moduleFails hfails, List.append_nil]

/-- **The last phase calls the indexer once at most**, with the classpath file as it has written it
for the classpath of the context. Where it ends well it has called it. -/
theorem calls_index :
    ∃ calls, (leaves ((index services).run s)).world.calls = s.world.calls ++ calls ∧
      (calls.length ≤ 1 ∧ ∀ after, (index services).run s = .ok () after → calls.length = 1) ∧
      ∀ call ∈ calls, ∃ format classpath, s.context.format = some format ∧
        s.context.classpath = some classpath ∧
        call = indexCall services.host s.context format classpath := by
  rw [index_run]
  rcases hformat : s.context.format with - | format
  · exact ⟨[], (List.append_nil _).symm, ⟨Nat.zero_le _, fun _ h ↦ by cases h⟩, by simp⟩
  rcases hclasspath : s.context.classpath with - | classpath
  · exact ⟨[], (List.append_nil _).symm, ⟨Nat.zero_le _, fun _ h ↦ by cases h⟩, by simp⟩
  simp only
  have hone : ∀ call ∈ [indexCall services.host s.context format classpath],
      ∃ format' classpath', some format = some format' ∧ some classpath = some classpath' ∧
        call = indexCall services.host s.context format' classpath' := by
    rw [List.forall_mem_singleton]
    exact ⟨format, classpath, rfl, rfl, rfl⟩
  rcases hbuild : buildIndex services s.context format classpath s.world
    with ⟨output, w⟩ | ⟨failure, w⟩
  · exact ⟨_, (buildIndex_eq_ok hbuild).2, ⟨le_rfl, fun _ _ ↦ rfl⟩, hone⟩
  · rcases buildIndex_eq_error hbuild with ⟨-, hadvances⟩ | ⟨hcalls, -⟩
    · exact ⟨[], hadvances.calls_eq, ⟨Nat.zero_le _, fun _ h ↦ by cases h⟩, by simp⟩
    · exact ⟨_, hcalls, ⟨le_rfl, fun _ _ ↦ rfl⟩, hone⟩

/-! ### What the phases keep -/

/-- Nothing in front of the last phase calls the indexer. -/
theorem keeps_indexCalls {phase : Phase ε}
    (h : phase ∈ [resolveFormat, compile services, aggregate services]) :
    SessionM.Keeps (fun s : Session ε ↦ s.world.indexCalls) phase.run := by
  intro s
  simp only [List.mem_cons, List.not_mem_nil, or_false] at h
  rcases h with rfl | rfl | rfl
  · show (leaves (resolveFormat.run s)).world.indexCalls = _
    rw [world_resolveFormat]
  · obtain ⟨calls, hcalls, hnone⟩ := calls_compile services s
    exact World.indexCalls_of_calls hcalls hnone
  · rfl

/-- Aggregating and indexing call nobody for a module. -/
theorem keeps_moduleCalls {phase : Phase ε} (h : phase ∈ [aggregate services, index services]) :
    SessionM.Keeps (fun s : Session ε ↦ s.world.moduleCalls) phase.run := by
  intro s
  simp only [List.mem_cons, List.not_mem_nil, or_false] at h
  rcases h with rfl | rfl
  · rfl
  · show World.moduleCalls _ = s.world.moduleCalls
    rw [World.moduleCalls, World.moduleCalls]
    obtain ⟨calls, hcalls, -, hindexed⟩ := calls_index services s
    have hnone : (calls.filter fun event ↦ event.indexRequest?.isNone) = [] := by
      rw [List.filter_eq_nil_iff]
      intro call hcall
      obtain ⟨format, classpath, -, -, rfl⟩ := hindexed call hcall
      exact Bool.false_ne_true
    rw [hcalls, List.filter_append, hnone, List.append_nil]

/-- Aggregating is the only phase that touches the classpath, and none touches the options. -/
theorem keeps_classpath {phase : Phase ε}
    (h : phase ∈ [resolveFormat, compile services, index services]) :
    SessionM.Keeps (fun s : Session ε ↦ (s.context.options, s.context.classpath)) phase.run := by
  intro s
  simp only [List.mem_cons, List.not_mem_nil, or_false] at h
  -- what the phases leave is known for the context as a whole
  rcases h with rfl | rfl | rfl
  · rcases Stage.context_leave_resolveFormat services s with ⟨-, format, hcontext⟩ | ⟨-, hcontext⟩
    · rw [Stage.leave, Stage.phase] at hcontext
      simp only [hcontext]
    · rw [Stage.leave, Stage.phase] at hcontext
      simp only [hcontext]
  · obtain ⟨_, _, _, hcontext⟩ := Stage.context_leave_compile services s
    rw [Stage.leave, Stage.phase] at hcontext
    simp only [hcontext]
  · obtain ⟨_, hcontext⟩ := Stage.context_leave_index services s
    rw [Stage.leave, Stage.phase] at hcontext
    simp only [hcontext]

end Phase

/-! ### Runs by their last two built-in phases -/

namespace Pipeline

variable (p : Pipeline ε) (services : Services ε)

/-- All that a run does up to the aggregation, the hooks in front of it included. -/
def toAggregate : SessionM ε Unit := do
  p.runPhases [Phase.resolveFormat, Phase.compile services]
  SessionM.all (p.hooks.map fun hook ↦ hook.before (Phase.aggregate services).name)

/-- All that a run does between the aggregation and the index: the hooks of both. -/
def betweenAggregateAndIndex : SessionM ε Unit := do
  SessionM.all (p.hooks.map fun hook ↦ hook.after (Phase.aggregate services).name)
  SessionM.all (p.hooks.map fun hook ↦ hook.before (Phase.index services).name)

/-- All that a run does up to the index. -/
def toIndex : SessionM ε Unit := do
  p.toAggregate services
  (Phase.aggregate services).run
  p.betweenAggregateAndIndex services

/-- All that a run does after the index. -/
def fromIndex : SessionM ε Unit := do
  SessionM.all (p.hooks.map fun hook ↦ hook.after (Phase.index services).name)
  p.runPhases p.phases

theorem runPhases_append (first second : List (Phase ε)) :
    p.runPhases (first ++ second) = p.runPhases first >>= fun _ ↦ p.runPhases second := by
  induction first with
  | nil => rw [List.nil_append, runPhases, pure_bind]
  | cons phase rest ih => rw [List.cons_append, runPhases, runPhases, ih, bind_assoc]

/-- A run is what it does up to the index, the phase for it, and what it does after it. -/
theorem run_eq_toIndex (options : GenerateOptions) (world : World ε) :
    p.run services options world =
      (p.toIndex services >>= fun _ ↦ (Phase.index services).run >>= fun _ ↦ p.fromIndex services)
        (start options world) := by
  have hphases : p.allPhases services =
      [Phase.resolveFormat, Phase.compile services] ++
        Phase.aggregate services :: Phase.index services :: p.phases := rfl
  have hlast : p.runPhases (Phase.aggregate services :: Phase.index services :: p.phases) =
      SessionM.all (p.hooks.map fun hook ↦ hook.before (Phase.aggregate services).name) >>= fun _ ↦
        (Phase.aggregate services).run >>= fun _ ↦ p.betweenAggregateAndIndex services >>= fun _ ↦
          (Phase.index services).run >>= fun _ ↦ p.fromIndex services := by
    simp only [runPhases, runPhase, betweenAggregateAndIndex, fromIndex, bind_assoc]
  rw [run, hphases, runPhases_append, hlast, toIndex, toAggregate]
  simp only [bind_assoc]

variable {p services} {f : Session ε → γ}

theorem Keeps.toAggregate (hp : p.Keeps f) (hresolve : SessionM.Keeps f Phase.resolveFormat.run)
    (hcompile : SessionM.Keeps f (Phase.compile services).run) :
    SessionM.Keeps f (p.toAggregate services) :=
  (hp.runPhases (by simpa using ⟨hresolve, hcompile⟩)).bind fun _ ↦ hp.all_before _

theorem Keeps.betweenAggregateAndIndex (hp : p.Keeps f) :
    SessionM.Keeps f (p.betweenAggregateAndIndex services) :=
  (hp.all_after _).bind fun _ ↦ hp.all_before _

theorem Keeps.fromIndex (hp : p.Keeps f) : SessionM.Keeps f (p.fromIndex services) :=
  (hp.all_after _).bind fun _ ↦ hp.runPhases hp.phases

variable {options : GenerateOptions} {world : World ε}

/-- **The indexer is called once at most in a run**, if hooks and added phases leave it alone: by
the last built-in phase, with the context as the run has it there, and with the classpath file
written for the classpath of that context. A run that ends well has called it. -/
theorem indexCalls_run (hp : p.Keeps fun s ↦ s.world.indexCalls) :
    ∃ calls, (leaves (p.run services options world)).world.indexCalls =
        world.indexCalls ++ calls ∧
      (calls.length ≤ 1 ∧ ∀ s, p.run services options world = .ok () s → calls.length = 1) ∧
      ∀ call ∈ calls, ∃ t format classpath,
        p.toIndex services (start options world) = .ok () t ∧
        t.context.format = some format ∧ t.context.classpath = some classpath ∧
        call = Phase.indexCall services.host t.context format classpath := by
  have hto : SessionM.Keeps (fun s ↦ s.world.indexCalls) (p.toIndex services) :=
    (hp.toAggregate (Phase.keeps_indexCalls services (by simp))
      (Phase.keeps_indexCalls services (by simp))).bind fun _ ↦
        (Phase.keeps_indexCalls services (by simp)).bind fun _ ↦ hp.betweenAggregateAndIndex
  replace hto : (leaves (p.toIndex services (start options world))).world.indexCalls =
    world.indexCalls := hto (start options world)
  rw [run_eq_toIndex]
  rcases hend : p.toIndex services (start options world) with ⟨⟨⟩, t⟩ | ⟨failure, t⟩
  · rw [hend, leaves_ok] at hto
    obtain ⟨calls, hcalls, ⟨hatMost, hcalled⟩, hindexed⟩ := Phase.calls_index services t
    -- the phase makes no other calls, so the filter keeps all of them
    have hall : (calls.filter fun event ↦ event.indexRequest?.isSome) = calls := by
      rw [List.filter_eq_self]
      intro call hcall
      obtain ⟨format, classpath, -, -, rfl⟩ := hindexed call hcall
      rfl
    rw [bind_of_ok hend,
      SessionM.Keeps.leaves_bind (f := fun s ↦ s.world.indexCalls) fun _ ↦ hp.fromIndex]
    refine ⟨calls, ?_, ⟨hatMost, fun s hs ↦ ?_⟩, fun call hcall ↦ ?_⟩
    · rw [World.indexCalls, hcalls, List.filter_append, hall, ← World.indexCalls, hto]
    · obtain ⟨⟨⟩, after, hindex, -⟩ := bind_eq_ok.1 hs
      exact hcalled after hindex
    · obtain ⟨format, classpath, hcall⟩ := hindexed call hcall
      exact ⟨t, format, classpath, rfl, hcall⟩
  · rw [hend] at hto
    rw [bind_of_error hend]
    exact ⟨[], by rw [List.append_nil]; exact hto, ⟨Nat.zero_le _, fun _ h ↦ by cases h⟩, by simp⟩

/-- **The classpath with which a run gets to the index is the one it has aggregated itself**, from
the files as they were then, if hooks and added phases leave options and classpath alone. -/
theorem classpath_of_toIndex (hp : p.Keeps fun s ↦ (s.context.options, s.context.classpath))
    {t : Session ε} (h : p.toIndex services (start options world) = .ok () t) :
    t.context.options = options ∧
      ∃ u, p.toAggregate services (start options world) = .ok () u ∧
        t.context.classpath = some
          (Classpath.aggregate u.world.files options.dedupClasspath services.host.modules) := by
  obtain ⟨⟨⟩, u, hto, hrest⟩ := bind_eq_ok.1 h
  obtain ⟨⟨⟩, v, haggregate, hbetween⟩ := bind_eq_ok.1 hrest
  have hfront : SessionM.Keeps _ (p.toAggregate services) :=
    hp.toAggregate (Phase.keeps_classpath services (by simp))
      (Phase.keeps_classpath services (by simp))
  have hback : SessionM.Keeps _ (p.betweenAggregateAndIndex services) := hp.betweenAggregateAndIndex
  have hu := hfront (start options world)
  have ht := hback v
  rw [hto] at hu
  rw [hbetween] at ht
  obtain rfl := Phase.aggregate_eq_ok haggregate
  obtain ⟨hoptions, -⟩ := Prod.mk.inj hu
  obtain ⟨htoptions, htclasspath⟩ := Prod.mk.inj ht
  rw [leaves_ok] at hoptions htoptions htclasspath
  refine ⟨htoptions.trans hoptions, u, hto, htclasspath.trans ?_⟩
  rw [hoptions]
  rfl

/-- From the index on a run leaves options and classpath as they are. -/
theorem classpath_run (hp : p.Keeps fun s ↦ (s.context.options, s.context.classpath))
    {t : Session ε} (h : p.toIndex services (start options world) = .ok () t) :
    (leaves (p.run services options world)).context.classpath = t.context.classpath := by
  have hrest : SessionM.Keeps (fun s : Session ε ↦ (s.context.options, s.context.classpath))
      ((Phase.index services).run >>= fun _ ↦ p.fromIndex services) :=
    (Phase.keeps_classpath services (by simp)).bind fun _ ↦ hp.fromIndex
  rw [run_eq_toIndex, bind_of_ok h]
  exact (Prod.mk.inj (hrest t)).2

/-- Hooks that only watch keep all but files and snapshots. -/
theorem Silent.keeps (hp : p.Silent) (hf : ∀ s t : Session ε, s.Alike t → f t = f s) :
    p.Keeps f where
  before := fun hook hhook phase s ↦ hf s _ ((hp.hooks hook hhook).before phase s)
  after := fun hook hhook phase s ↦ hf s _ ((hp.hooks hook hhook).after phase s)
  phases := fun _ h ↦ absurd (hp.phases ▸ h) List.not_mem_nil

end Pipeline

end WorkspaceIndex
