import WorkspaceIndex.Proofs.Pipeline.SilentHooks
import WorkspaceIndex.Proofs.Plan.Determined
import WorkspaceIndex.Report.Explain
/-!
# Explanations come true

An explanation and a run each go through the modules by a loop of their own. The loop of a run
compiles in between, and may fail there; the loop of an explanation only plans. What makes them
agree is that compiling leaves the view of the fetcher as it is (`Outcome.view_of_ofRequest`). So
the two loops stay in step: what one of them builds for a module the other builds too, as long as
both get there (`Phase.buildAll_of_processModules`, `Phase.processModules_of_build_eq_error`).
-/

namespace WorkspaceIndex

variable {ε φ : Type} {services : Services ε} {view : ε → φ}

/-! ### What is compared -/

/-- The plugin that was fetched, if an event is the call for one. -/
def Event.plugin? : Event → Option Plugin
  | .fetched plugin => some plugin
  | _ => none

/-- The phase that stands at a place, if it is that of a phase. -/
def Moment.phase? : Moment → Option String
  | .phase name => some name
  | .before _ _ | .after _ _ => none

/-- A plan in short tells of a module what its plan says, and how many outputs of other modules the
compiler is given when it is called for the plan. -/
inductive ModulePlan.Tells (m : Module) : Plan → ModulePlan → Prop
  | compile (request : CompileRequest) : Tells m (.compile request)
      (.compile request.module request.variant request.sources.length request.options
        request.javacOptions request.classpath.length request.pluginClasspath
        (Outcome.callOf request m.prerequisites).givenOutputs.length)
  | skip (module reason : String) : Tells m (.skip module reason) (.skip module reason)

theorem ModulePlan.tells_ofPlan (m : Module) (plan : Plan) : Tells m plan (ofPlan m plan) := by
  rcases plan with request | ⟨module, reason⟩
  · have hcount : m.prerequisiteCount =
        (Outcome.callOf request m.prerequisites).givenOutputs.length := by
      rw [Module.prerequisiteCount, CompileCall.givenOutputs, Outcome.callOf]
      rcases m.prerequisites with - | prerequisites <;> rfl
    rw [ofPlan, hcount]
    exact .compile request
  · exact .skip module reason

/-! ### Fetches -/

theorem Plan.flatMap_fetches (host : HostGraph) (modules : List Module) :
    modules.flatMap (fetches host) = (modules.filterMap (plugin? host)).map .fetched := by
  rw [List.filterMap_eq_flatMap_toList, List.map_flatMap]
  rfl

namespace Planned

theorem filterMap_plugin?_calls (host : HostGraph) (p : Planned) :
    (p.calls host).filterMap Event.plugin? = (Plan.plugin? host p.1).toList := by
  rw [calls, Plan.fetches, List.filterMap_append]
  rcases Plan.plugin? host p.1 with - | plugin <;> rcases p.compileCall? with - | call <;> rfl

/-- The fetches among the calls for modules with plans are the same for all plans. -/
theorem filterMap_plugin?_flatMap {host : HostGraph} {modules : List Module} {plans : List Plan}
    (h : modules.length = plans.length) :
    ((modules.zip plans).flatMap (calls host)).filterMap Event.plugin? =
      modules.filterMap (Plan.plugin? host) := calc
  _ = (modules.zip plans).flatMap fun p ↦ (Plan.plugin? host p.1).toList := by
    rw [List.filterMap_flatMap]
    exact List.flatMap_congr fun p _ ↦ filterMap_plugin?_calls host p
  _ = ((modules.zip plans).map Prod.fst).filterMap (Plan.plugin? host) := by
    rw [List.filterMap_eq_flatMap_toList, List.flatMap_map]
  _ = _ := by rw [List.map_fst_zip h.le]

end Planned

/-! ### Compiling and the view of the fetcher -/

theorem Run.view_of_compile (hfetch : services.FetchesBy view) {call : CompileCall}
    {answer : Answer} {w after : World ε} (h : compile services call w = .ok answer after) :
    view after.outside = view w.outside := by
  cases h
  exact hfetch.view_compile call w.files w.outside

theorem Run.outside_of_makeDirectories {attempt : Attempt} {path : Path} {w after : World ε}
    (h : makeDirectories attempt path w = .ok () after) : after.outside = w.outside := by
  simp only [makeDirectories] at h
  split at h
  · cases h
    rfl
  · cases h

/-- A module that was compiled leaves the view of the fetcher as it was. -/
theorem Outcome.view_of_ofRequest (hfetch : services.FetchesBy view) {request : CompileRequest}
    {prerequisites : Option PrerequisiteOutput} {outcome : Outcome} {w after : World ε}
    (h : ofRequest services request prerequisites w = .ok outcome after) :
    view after.outside = view w.outside := by
  by_cases hsources : request.sources = []
  · rw [ofRequest_of_sources_nil hsources] at h
    cases h
    rfl
  · rw [ofRequest_of_sources_ne_nil hsources] at h
    obtain ⟨⟨⟩, made, hmade, hrest⟩ := bind_eq_ok.1 h
    obtain ⟨answer, called, hcalled, hend⟩ := bind_eq_ok.1 hrest
    obtain ⟨-, rfl⟩ := Run.ofExcept_eq_ok.1 hend
    rw [Run.view_of_compile hfetch hcalled, Run.outside_of_makeDirectories hmade]

namespace Phase

variable {destination : Path} {m : Module} {plan : Plan} {s after : Session ε}

theorem view_of_carryOut (hfetch : services.FetchesBy view)
    (h : carryOut services m plan s = .ok () after) :
    view after.world.outside = view s.world.outside := by
  rcases plan with request | ⟨module, reason⟩
  · obtain ⟨outcome, between, hrun, hmodify⟩ := bind_eq_ok.1 h
    obtain ⟨w, hcompile, rfl⟩ := Session.inWorld_eq_ok.1 hrun
    have hview := Outcome.view_of_ofRequest hfetch hcompile
    cases outcome <;> cases hmodify <;> exact hview
  · cases h
    rfl

/-- A module that has gone through has a plan, and the view is that which planning left. -/
theorem build_of_processModule (hfetch : services.FetchesBy view)
    (h : processModule services destination m s = .ok plan after) :
    ∃ w, Plan.build services destination m s.world = .ok plan w ∧
      view after.world.outside = view w.outside := by
  obtain ⟨built, planned, hrun, hrest⟩ := bind_eq_ok.1 h
  obtain ⟨w, hbuild, rfl⟩ := Session.inWorld_eq_ok.1 hrun
  obtain ⟨⟨⟩, last, hcarry, hend⟩ := bind_eq_ok.1 hrest
  cases hend
  exact ⟨w, hbuild, view_of_carryOut hfetch hcarry⟩

/-! ### Two loops in step -/

/-- **Where modules have gone through, they can be planned**, to the same plans. -/
theorem buildAll_of_processModules (hfetch : services.FetchesBy view) {modules : List Module} :
    ∀ {plans : List Plan} {s : Session ε} {w : World ε},
      processModules services destination modules s = .ok plans after →
        view s.world.outside = view w.outside →
          ∃ w', Plan.buildAll services destination modules w = .ok plans w' := by
  induction modules with
  | nil =>
    intro plans s w h _
    cases h
    exact ⟨w, rfl⟩
  | cons m rest ih =>
    intro plans s w h hview
    obtain ⟨plan, between, hfirst, hrest⟩ := bind_eq_ok.1 h
    obtain ⟨others, last, hothers, hend⟩ := bind_eq_ok.1 hrest
    cases hend
    -- the views are the same before this module, and they are again behind it
    obtain ⟨planned, hbuild, hplanned⟩ := build_of_processModule hfetch hfirst
    have hagree : Run.Agree view (Plan.build services destination m s.world)
        (Plan.build services destination m w) := Plan.steady_build hfetch m hview
    rw [hbuild] at hagree
    obtain ⟨w₁, hbuild', hw₁⟩ := hagree.exists_ok
    obtain ⟨w₂, hothers'⟩ := ih hothers (hplanned.trans hw₁)
    exact ⟨w₂, Plan.buildAll_cons_eq_ok.2 ⟨plan, others, w₁, hbuild', hothers', rfl⟩⟩

/-- The compiler calls of a module that has a plan and fails are the one for the plan, or none. -/
theorem compileCalls_of_processModule_eq_error {failure : Failure} {w : World ε}
    (hbuild : Plan.build services destination m s.world = .ok plan w)
    (h : processModule services destination m s = .error failure after) :
    ∃ calls, after.world.calls = s.world.calls ++ calls ∧
      calls.filterMap Event.compileCall? <+: (Planned.compileCall? (m, plan)).toList := by
  have hfetches := Plan.build_advances services destination s.world m
  rcases processModule_eq_error h with ⟨_, hfails, -⟩ | ⟨request, _, w', hplan, hcompile, rfl⟩
  · rw [hbuild] at hfails
    cases hfails
  · rw [hbuild] at hplan
    cases hplan
    rw [hbuild, leaves_ok] at hfetches
    have hcall := compileCall?_of_fits (Plan.fits_of_build hbuild)
    obtain ⟨hne, ⟨-, -, hnone⟩ | ⟨-, -, hcalled⟩⟩ := Outcome.ofRequest_eq_error hcompile
    · refine ⟨_, (hfetches.trans hnone).calls_eq, ?_⟩
      rw [List.append_nil, Planned.compileCall?_of_mem_fetches]
      exact List.nil_prefix
    · refine ⟨_, (hfetches.trans hcalled).calls_eq, ?_⟩
      rw [List.filterMap_append, Planned.compileCall?_of_mem_fetches, hcall,
        if_neg (by simpa using hne)]
      exact List.prefix_refl _

/-- **Where a module cannot be planned, the modules do not go through**, and the compiler is called
for none but those in front of it, in order. -/
theorem processModules_of_build_eq_error (hfetch : services.FetchesBy view) {failure : Failure}
    (rest : List Module) {done : List Module} :
    ∀ {plans : List Plan} {s : Session ε} {w between after : World ε},
      view s.world.outside = view w.outside →
        Plan.buildAll services destination done w = .ok plans between →
          Plan.build services destination m between = .error failure after →
            ∃ failure' t calls,
              processModules services destination (done ++ m :: rest) s = .error failure' t ∧
              t.world.calls = s.world.calls ++ calls ∧
              calls.filterMap Event.compileCall? <+:
                (done.zip plans).filterMap Planned.compileCall? := by
  induction done with
  | nil =>
    -- no module is in front, so the run gets to the one that cannot be planned
    intro plans s w between after hview hdone hfails
    cases hdone
    have hagree : Run.Agree view (Plan.build services destination m w)
        (Plan.build services destination m s.world) := Plan.steady_build hfetch m hview.symm
    rw [hfails] at hagree
    obtain ⟨w', hfails', -⟩ := hagree.exists_error
    have hfetches := Plan.build_advances services destination s.world m
    rw [hfails', leaves_error] at hfetches
    refine ⟨failure, { s with world := w' }, _, ?_, hfetches.calls_eq, ?_⟩
    · exact bind_of_error (bind_of_error (Session.inWorld_eq_error.2 ⟨w', hfails', rfl⟩))
    · rw [Planned.compileCall?_of_mem_fetches]
      exact List.nil_prefix
  | cons k done ih =>
    intro plans s w between after hview hdone hfails
    obtain ⟨plan, others, w₁, hplan, hothers, rfl⟩ := Plan.buildAll_cons_eq_ok.1 hdone
    have hagree : Run.Agree view (Plan.build services destination k w)
        (Plan.build services destination k s.world) := Plan.steady_build hfetch k hview.symm
    rw [hplan] at hagree
    obtain ⟨w', hplan', hw'⟩ := hagree.exists_ok
    rw [List.zip_cons_cons, List.filterMap_eq_flatMap_toList, List.flatMap_cons,
      ← List.filterMap_eq_flatMap_toList]
    -- the module in front may fail to compile, which ends both what is called and what is to show
    rcases hfirst : processModule services destination k s with ⟨built, t⟩ | ⟨failure', t⟩
    · obtain ⟨w₂, hbuilt, ht⟩ := build_of_processModule hfetch hfirst
      rw [hplan'] at hbuilt
      cases hbuilt
      obtain ⟨-, hcalls, -⟩ := processModule_eq_ok hfirst
      obtain ⟨failure', u, calls, hrest, hu, hprefix⟩ := ih (ht.trans hw'.symm) hothers hfails
      refine ⟨failure', u, Planned.calls services.host (k, plan) ++ calls, ?_, ?_, ?_⟩
      · exact (bind_of_ok hfirst).trans (bind_of_error hrest)
      · rw [hu, hcalls.calls_eq, List.append_assoc]
      · rw [List.filterMap_append, Planned.filterMap_compileCall?_calls]
        exact (List.prefix_append_right_inj _).2 hprefix
    · obtain ⟨calls, ht, hprefix⟩ := compileCalls_of_processModule_eq_error hplan' hfirst
      exact ⟨failure', t, calls, bind_of_error hfirst, ht,
        hprefix.trans (List.prefix_append _ _)⟩

end Phase

/-! ### The phases of a run -/

/-- The schedule of a pipeline has its phases in it, in order. -/
theorem Pipeline.filterMap_phase?_schedule (p : Pipeline ε) (services : Services ε) :
    ((p.schedule services).map Prod.fst).filterMap Moment.phase? =
      (p.allPhases services).map Phase.name := by
  have hphase (phase : Phase ε) :
      ((p.phaseSchedule phase).map Prod.fst).filterMap Moment.phase? = [phase.name] := by
    have hhooks : ∀ f : Hook ε → Moment, (∀ hook, (f hook).phase? = none) →
        (p.hooks.map f).filterMap Moment.phase? = [] := by
      intro f hf
      simp [List.filterMap_map, hf]
    simp only [phaseSchedule, List.map_append, List.map_map, List.filterMap_append,
      List.map_singleton]
    rw [Function.comp_def, Function.comp_def, hhooks _ fun _ ↦ rfl, hhooks _ fun _ ↦ rfl]
    rfl
  rw [schedule, List.map_flatMap, List.filterMap_flatMap]
  calc
    _ = (p.allPhases services).flatMap fun phase ↦ [phase.name] :=
      List.flatMap_congr fun phase _ ↦ hphase phase
    _ = _ := List.map_eq_flatMap.symm

/-- A run that ended well has visited its phases, in order. -/
theorem Pipeline.filterMap_phase?_visits {p : Pipeline ε} {services : Services ε}
    {options : GenerateOptions} {world : World ε} {s : Session ε}
    (h : p.run services options world = .ok () s) :
    ((p.visits services options world).map Visit.moment).filterMap Moment.phase? =
      (p.allPhases services).map Phase.name := by
  rw [run_eq_all] at h
  rw [visits_eq, (Visit.ofSteps_of_all_eq_ok h).1, filterMap_phase?_schedule]

/-! ### The explanation -/

namespace ExplainReport

variable {destination : Path}

/-- An explanation plans all modules, and then tells of the plans. -/
theorem planModules_eq (services : Services ε) (destination : Path) (modules : List Module) :
    planModules services destination modules =
      Plan.buildAll services destination modules >>= fun plans ↦
        pure ((modules.zip plans).map fun p ↦ ModulePlan.ofPlan p.1 p.2) := by
  induction modules with
  | nil => rfl
  | cons m rest ih =>
    rw [planModules, Plan.buildAll, ih]
    simp only [bind_assoc, pure_bind]
    rfl

theorem knownFormat?_of_resolvedFormat {output : Path} {format : OutputFormat}
    (h : Phase.resolvedFormat output = .ok format) : knownFormat? output = some format := by
  simp only [Phase.resolvedFormat] at h
  simp only [knownFormat?]
  split at h
  · rename_i hknown
    cases h
    rw [if_pos hknown]
  · cases h

/-- The plans in short tell of the modules. -/
theorem forall₂_tells (planned : List Planned) :
    List.Forall₂ (fun p short ↦ ModulePlan.Tells p.1 p.2 short) planned
      (planned.map fun p ↦ ModulePlan.ofPlan p.1 p.2) := by
  rw [List.forall₂_map_right_iff, List.forall₂_same]
  exact fun p _ ↦ ModulePlan.tells_ofPlan p.1 p.2

/-- An explanation whose modules can be planned ends well. -/
theorem ofServices_of_buildAll (path output : Path) {plans : List Plan} {w after : World ε}
    (h : Plan.buildAll services destination services.host.modules w = .ok plans after) :
    ∃ report, ofServices services path output destination w = .ok report after ∧
      report.modules = (services.host.modules.zip plans).map (fun p ↦ ModulePlan.ofPlan p.1 p.2) ∧
      report.format = knownFormat? output ∧
      report.phases = (({} : Pipeline ε).allPhases services).map Phase.info := by
  have hplans : planModules services destination services.host.modules w =
      .ok ((services.host.modules.zip plans).map fun p ↦ ModulePlan.ofPlan p.1 p.2) after := by
    rw [planModules_eq]
    exact bind_of_ok h
  exact ⟨_, bind_of_ok hplans, rfl, rfl, rfl⟩

/-- An explanation that fails fails at the plan of some module. -/
theorem ofServices_eq_error {path output : Path} {failure : Failure} {w after : World ε}
    (h : ofServices services path output destination w = .error failure after) :
    Plan.buildAll services destination services.host.modules w = .error failure after := by
  rcases bind_eq_error.1 h with hplans | ⟨_, _, -, hend⟩
  · rw [planModules_eq] at hplans
    rcases bind_eq_error.1 hplans with hbuild | ⟨_, _, -, hend⟩
    · exact hbuild
    · cases hend
  · cases hend

/-- **An explanation agrees with the run that it explains**, where the answers of the fetcher depend
on what it was asked for before and on nothing else, and both start with the fetcher in the same
state, with snapshots in the run or without.

If the run ends well, so does the explanation. It asks for the same plugins in the same order and
for nothing else, it tells of every plan in the context of the run in order, of the format and of
the phases that were visited. If the explanation fails, it does so at the plan of some module `m`.
Then the run fails too, and of all modules the compiler was called at most for those in front of
`m`. -/
theorem ofServices_agrees_with_run (hfetch : services.FetchesBy view) {world world' : World ε}
    (hview : view world.outside = view world'.outside) (options : GenerateOptions) (path : Path)
    (directory : Option Path) :
    (∀ s, (GenerateReport.pipeline directory).run services options world = .ok () s →
      ∃ report after plugins calls,
        ofServices services path options.output options.destination world' = .ok report after ∧
        after.calls = world'.calls ++ plugins.map Event.fetched ∧
        s.world.calls = world.calls ++ calls ∧
        calls.filterMap Event.plugin? = plugins ∧
        calls.filterMap Event.compileCall? =
          (services.host.modules.zip s.context.plans).filterMap Planned.compileCall? ∧
        services.host.modules.length = s.context.plans.length ∧
        List.Forall₂ (fun p short ↦ ModulePlan.Tells p.1 p.2 short)
          (services.host.modules.zip s.context.plans) report.modules ∧
        report.format = s.context.format ∧ s.context.format.isSome ∧
        report.phases =
          ((GenerateReport.pipeline directory).allPhases services).map Phase.info ∧
        (((GenerateReport.pipeline directory).visits services options world).map
          Visit.moment).filterMap Moment.phase? = report.phases.map PhaseInfo.name) ∧
    ∀ failure after,
      ofServices services path options.output options.destination world' = .error failure after →
        ∃ done m rest plans between failure' s calls,
          services.host.modules = done ++ m :: rest ∧
          Plan.buildAll services options.destination done world' = .ok plans between ∧
          Plan.build services options.destination m between = .error failure after ∧
          (GenerateReport.pipeline directory).run services options world = .error failure' s ∧
          s.world.calls = world.calls ++ calls ∧
          calls.filterMap Event.compileCall? <+:
            (done.zip plans).filterMap Planned.compileCall? := by
  have hsilent := GenerateReport.silent_pipeline (ε := ε) directory
  refine ⟨fun s h ↦ ?_, fun failure after h ↦ ?_⟩
  · obtain ⟨format, plans, before, compiled, hformat, hbefore, hmodules,
      ⟨files, output, hcontext⟩, request, file, hcalls⟩ := hsilent.run_eq_ok h
    have hplans : s.context.plans = plans := by rw [hcontext]; rfl
    have hknown : s.context.format = some format := by rw [hcontext]; rfl
    obtain ⟨hfits, hadvances, -⟩ := Phase.processModules_eq_ok hmodules
    have hlength := hfits.length_eq
    have hstart : view before.world.outside = view world'.outside := by
      rw [hbefore.outside_eq]
      exact hview
    obtain ⟨after, hbuild⟩ := Phase.buildAll_of_processModules hfetch hmodules hstart
    obtain ⟨report, hreport, htold, hasked, hphases⟩ :=
      ofServices_of_buildAll path options.output hbuild
    have hfetches := (Plan.buildAll_advances hbuild).calls_eq
    rw [Plan.flatMap_fetches] at hfetches
    rw [hplans, hknown]
    refine ⟨report, after, _, (services.host.modules.zip plans).flatMap
      (Planned.calls services.host) ++ [.indexed request file], hreport, hfetches, ?_, ?_, ?_,
      hlength, ?_, ?_, rfl, hphases, ?_⟩
    · rw [hcalls, hadvances.calls_eq, hbefore.calls_eq, List.append_assoc]
      rfl
    · rw [List.filterMap_append, Planned.filterMap_plugin?_flatMap hlength]
      exact List.append_nil _
    · rw [List.filterMap_append, Planned.filterMap_compileCall?_flatMap]
      exact List.append_nil _
    · rw [htold]
      exact forall₂_tells _
    · rw [hasked, knownFormat?_of_resolvedFormat hformat]
    · rw [Pipeline.filterMap_phase?_visits h, hphases, List.map_map]
      rfl
  · obtain ⟨done, m, rest, plans, between, hsplit, hdone, hfails⟩ :=
      Plan.buildAll_eq_error (ofServices_eq_error h)
    rcases hrun : (GenerateReport.pipeline directory).run services options world
      with ⟨⟨⟩, s⟩ | ⟨failure', s⟩
    · -- a run that ends well has planned all modules
      obtain ⟨_, _, _, _, -, hbefore, hmodules, -⟩ := hsilent.run_eq_ok hrun
      have hstart := (congrArg view hbefore.outside_eq).trans hview
      obtain ⟨_, hbuild⟩ := Phase.buildAll_of_processModules hfetch hmodules hstart
      rw [ofServices_eq_error h] at hbuild
      cases hbuild
    · refine ⟨done, m, rest, plans, between, failure', s, ?_⟩
      rcases hsilent.run_eq_error hrun with hnone | ⟨format, before, hbefore, hmodules⟩
      · exact ⟨[], hsplit, hdone, hfails, rfl, by rw [hnone, List.append_nil], List.nil_prefix⟩
      · have hstart := (congrArg view hbefore.outside_eq).trans hview
        obtain ⟨_, t, calls, hstops, hcalls, hprefix⟩ :=
          Phase.processModules_of_build_eq_error hfetch rest hstart hdone hfails
        rw [hsplit, hstops] at hmodules
        rcases hmodules with hmodules | ⟨_, _, hmodules⟩
        · cases hmodules
          rw [hbefore.calls_eq] at hcalls
          exact ⟨calls, hsplit, hdone, hfails, rfl, hcalls, hprefix⟩
        · cases hmodules

/-- Collaborators that count what they are asked for, fetches and compilations apart. The fetcher
answers with another jar every time, until it has none left. -/
def countingServices (jars : Nat) : Services (Nat × Nat) where
  host := { Pipeline.mixedHost with hostVersion := none }
  fetch := fun plugin _ counts ↦
    (if counts.1 < jars then .ok [⟨s!"/cache/{counts.1}.jar"⟩]
      else .error (.pluginResolution plugin .noArtifacts),
      (counts.1 + 1, counts.2))
  compile := fun _ _ counts ↦ ({}, (counts.1, counts.2 + 1))
  index := fun _ _ counts ↦ ({}, counts)

theorem countingServices_fetchesBy (jars : Nat) : (countingServices jars).FetchesBy Prod.fst where
  answer_eq := fun plugin _ _ e e' h ↦ by simp only [countingServices, h]
  view_fetch := fun _ _ _ e e' h ↦ congrArg (· + 1) h
  view_compile := fun _ _ _ ↦ rfl

/-- A world with an empty workspace, where nothing was fetched and some modules were compiled. -/
def countingWorld (compiled : Nat) : World (Nat × Nat) where
  files := Pipeline.emptyWorkspace.files
  outside := (0, compiled)

/-- The run of `countingServices` with snapshots. -/
def countingRun (jars : Nat) : EStateM.Result Failure (Session (Nat × Nat)) Unit :=
  (GenerateReport.pipeline (some ⟨"/ws/out/.semdex/debug"⟩)).run (countingServices jars)
    ⟨⟨"index.scip"⟩, ⟨"/ws/out"⟩, false⟩ (countingWorld 0)

/-- With two jars four modules are planned, in the explanation as in the run. With one jar neither
gets to the end. -/
theorem ofServices_agrees_with_countingRun :
    (∀ jars, (countingServices jars).FetchesBy Prod.fst) ∧
      (countingWorld 0).outside.1 = (countingWorld 7).outside.1 ∧
      (countingRun 2 = .ok () (leaves (countingRun 2)) ∧
        ∃ report after,
          ofServices (countingServices 2) ⟨"/ws"⟩ ⟨"index.scip"⟩ ⟨"/ws/out"⟩ (countingWorld 7) =
            .ok report after ∧
          report.phases.length = 4 ∧
          (leaves (countingRun 2)).context.plans.length = 4) ∧
      ∃ failure after failure' s,
        ofServices (countingServices 1) ⟨"/ws"⟩ ⟨"index.scip"⟩ ⟨"/ws/out"⟩ (countingWorld 7) =
          .error failure after ∧
        countingRun 1 = .error failure' s := by
  have hends : countingRun 2 = .ok () (leaves (countingRun 2)) :=
    eq_ok_of_endsWell (by decide +kernel)
  have hfails : endsWell (ofServices (countingServices 1) ⟨"/ws"⟩ ⟨"index.scip"⟩ ⟨"/ws/out"⟩
    (countingWorld 7)) = false := by decide +kernel
  have hsame : (countingWorld 0).outside.1 = (countingWorld 7).outside.1 := rfl
  refine ⟨countingServices_fetchesBy, hsame, ⟨hends, ?_⟩, ?_⟩
  · obtain ⟨report, after, _, _, hreport, -, -, -, -, hlength, -, -, -, hphases, -⟩ :=
      (ofServices_agrees_with_run (countingServices_fetchesBy 2) hsame
        ⟨⟨"index.scip"⟩, ⟨"/ws/out"⟩, false⟩ ⟨"/ws"⟩ (some ⟨"/ws/out/.semdex/debug"⟩)).1 _ hends
    exact ⟨report, after, hreport, by rw [hphases]; rfl, hlength.symm⟩
  · rcases hend : ofServices (countingServices 1) ⟨"/ws"⟩ ⟨"index.scip"⟩ ⟨"/ws/out"⟩
      (countingWorld 7) with ⟨report, after⟩ | ⟨failure, after⟩
    · rw [hend] at hfails
      cases hfails
    · obtain ⟨_, _, _, _, _, failure', s, _, -, -, -, hrun, -⟩ :=
        (ofServices_agrees_with_run (countingServices_fetchesBy 1) hsame
          ⟨⟨"index.scip"⟩, ⟨"/ws/out"⟩, false⟩ ⟨"/ws"⟩ (some ⟨"/ws/out/.semdex/debug"⟩)).2 _ _ hend
      exact ⟨failure, after, failure', s, rfl, hrun⟩

end ExplainReport

end WorkspaceIndex
