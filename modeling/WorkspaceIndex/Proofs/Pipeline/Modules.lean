import Mathlib.Data.List.Forall2
import WorkspaceIndex.Pipeline.Phase
import WorkspaceIndex.Proofs.Compiler.Outcome
import WorkspaceIndex.Proofs.Plan.Build
/-!
# The loop over the modules

A module with its plan says by itself what carrying the plan out comes to: the calls that are made
(`Planned.calls`), what the context gains (`Context.carried`). Going through a list of modules is
that for one after the other (`processModules_eq_ok`), and where it fails, it has gone through the
modules in front of the one that fails and has not looked at those behind it
(`processModules_eq_error`).

The loop carries two accumulators, one in the context and one in its result, and `Planned` is where
they meet: both are read off the same list of pairs.
-/

namespace WorkspaceIndex

variable {ε : Type}

/-- A module with the plan that was made for it. -/
abbrev Planned := Module × Plan

namespace Planned

/-- The call of the compiler that a plan leads to: none for a module that is skipped or has no
sources, else one through the entry for its language, with the request of the plan and the outputs
of the prerequisites as the module has them. -/
def compileCall? : Planned → Option CompileCall
  | (m, .compile request) =>
    if m.sources.isEmpty then none
    else some ⟨if m.variant.isScala then .mixed else .java, request, m.prerequisites⟩
  | (_, .skip _ _) => none

/-- The calls for a module: those of planning it and that of compiling it. -/
def calls (host : HostGraph) (p : Planned) : List Event :=
  Plan.fetches host p.1 ++ p.compileCall?.toList.map .compiled

/-- What a module is listed as, if it is compiled. -/
def compiled? (p : Planned) : Option CompiledModule :=
  p.compileCall?.map fun _ ↦ ⟨p.1.name, p.1.variant⟩

/-- The warning about a module, if it is skipped. -/
def warning? : Planned → Option Diagnostic
  | (_, .compile _) => none
  | (m, .skip _ reason) => some (Phase.skipWarning m.name reason)

end Planned

/-- The context after plans were carried out. -/
def Context.carried (c : Context) (planned : List Planned) : Context :=
  { c with
    compiled := c.compiled ++ planned.filterMap Planned.compiled?
    diagnostics := c.diagnostics ++ planned.filterMap Planned.warning? }

theorem Context.carried_nil (c : Context) : c.carried [] = c := by
  simp [carried]

theorem Context.carried_append (c : Context) (first second : List Planned) :
    (c.carried first).carried second = c.carried (first ++ second) := by
  simp [carried, List.filterMap_append, List.append_assoc]

theorem Context.carried_nothing (c : Context) {m : Module} {request : CompileRequest}
    (h : Planned.compileCall? (m, .compile request) = none) :
    c.carried [(m, .compile request)] = c := by
  simp [carried, List.filterMap_cons, Planned.compiled?, Planned.warning?, h]

theorem Context.carried_call (c : Context) {m : Module} {request : CompileRequest}
    {call : CompileCall} (h : Planned.compileCall? (m, .compile request) = some call) :
    c.carried [(m, .compile request)] = c.addCompiled ⟨m.name, m.variant⟩ := by
  simp [carried, addCompiled, Planned.compiled?, Planned.warning?, h]

theorem Context.carried_skip (c : Context) (m : Module) (module reason : String) :
    c.carried [(m, .skip module reason)] = c.note (Phase.skipWarning m.name reason) := by
  simp [carried, note, Planned.compiled?, Planned.warning?, Planned.compileCall?]

/-! ### Runs inside a session -/

namespace Session

variable {α : Type} {run : Run ε α} {s after : Session ε}

theorem currentContext_eq (s : Session ε) : currentContext s = .ok s.context s := rfl

theorem inWorld_eq_ok {a : α} :
    inWorld run s = .ok a after ↔ ∃ w, run s.world = .ok a w ∧ after = { s with world := w } := by
  unfold inWorld
  rcases run s.world with ⟨b, w⟩ | ⟨failure, w⟩
  · simp only [EStateM.Result.ok.injEq]
    constructor
    · rintro ⟨rfl, rfl⟩
      exact ⟨w, ⟨rfl, rfl⟩, rfl⟩
    · rintro ⟨w', ⟨rfl, rfl⟩, rfl⟩
      exact ⟨rfl, rfl⟩
  · simp

theorem inWorld_eq_error {failure : Failure} :
    inWorld run s = .error failure after ↔
      ∃ w, run s.world = .error failure w ∧ after = { s with world := w } := by
  unfold inWorld
  rcases run s.world with ⟨b, w⟩ | ⟨failure', w⟩
  · simp
  · simp only [EStateM.Result.error.injEq]
    constructor
    · rintro ⟨rfl, rfl⟩
      exact ⟨w, ⟨rfl, rfl⟩, rfl⟩
    · rintro ⟨w', ⟨rfl, rfl⟩, rfl⟩
      exact ⟨rfl, rfl⟩

end Session

namespace Phase

variable {services : Services ε} {destination : Path} {m : Module} {s after : Session ε}

/-! ### One module -/

/-- The call for a request that fits its module is the one that the module and its plan name. -/
theorem compileCall?_of_fits {request : CompileRequest}
    (hfits : Plan.Fits services.host destination m (.compile request)) :
    Planned.compileCall? (m, .compile request) =
      if request.sources.isEmpty then none else some (Outcome.callOf request m.prerequisites) := by
  cases hfits with
  | compile _ variant_eq sources_eq =>
    rw [Planned.compileCall?, Outcome.callOf, CompilerEntry.ofVariant_eq, variant_eq, sources_eq]

/-- Carrying out a plan that fits makes the call that the plan leads to and changes the context as
the plan says. -/
theorem carryOut_eq_ok {plan : Plan} (hfits : plan.Fits services.host destination m)
    (h : carryOut services m plan s = .ok () after) :
    s.world.Advances after.world ((Planned.compileCall? (m, plan)).toList.map .compiled) ∧
      after = { s with context := s.context.carried [(m, plan)], world := after.world } := by
  rcases plan with request | ⟨module, reason⟩
  · have hcall := compileCall?_of_fits hfits
    obtain ⟨outcome, between, hrun, hrest⟩ := bind_eq_ok.1 h
    obtain ⟨w, hw, rfl⟩ := Session.inWorld_eq_ok.1 hrun
    rcases Outcome.ofRequest_eq_ok hw with ⟨hnil, rfl, rfl⟩ | ⟨hne, rfl, hadvances⟩
    · rw [hnil, List.isEmpty_nil, if_pos rfl] at hcall
      cases hrest
      rw [hcall, Context.carried_nothing _ hcall]
      exact ⟨.refl _, rfl⟩
    · rw [if_neg (by simpa using hne)] at hcall
      cases hrest
      rw [hcall, Context.carried_call _ hcall]
      exact ⟨hadvances, rfl⟩
  · cases h
    rw [Context.carried_skip]
    exact ⟨.refl _, rfl⟩

/-- **What going through one module does** to a session, where it ends well. -/
theorem processModule_eq_ok {plan : Plan}
    (h : processModule services destination m s = .ok plan after) :
    plan.Fits services.host destination m ∧
      s.world.Advances after.world (Planned.calls services.host (m, plan)) ∧
      after = { s with context := s.context.carried [(m, plan)], world := after.world } := by
  obtain ⟨built, planned, hrun, hrest⟩ := bind_eq_ok.1 h
  obtain ⟨w, hbuild, rfl⟩ := Session.inWorld_eq_ok.1 hrun
  obtain ⟨_, last, hcarry, hend⟩ := bind_eq_ok.1 hrest
  cases hend
  have hfits := Plan.fits_of_build hbuild
  have hfetches := Plan.build_advances services destination s.world m
  rw [hbuild, leaves_ok] at hfetches
  obtain ⟨hcall, hafter⟩ := carryOut_eq_ok hfits hcarry
  exact ⟨hfits, hfetches.trans hcall, hafter⟩

/-- A module that has gone through has a plan that was built for it. -/
theorem built_of_processModule {plan : Plan}
    (h : processModule services destination m s = .ok plan after) :
    plan.Built services destination m := by
  obtain ⟨built, planned, hrun, hrest⟩ := bind_eq_ok.1 h
  obtain ⟨w, hbuild, rfl⟩ := Session.inWorld_eq_ok.1 hrun
  obtain ⟨⟨⟩, _, -, hend⟩ := bind_eq_ok.1 hrest
  cases hend
  exact Plan.built_of_build hbuild

/-- Where going through a module fails, either there is no plan, or there is a plan with sources and
its compiling fails. -/
theorem processModule_eq_error {failure : Failure}
    (h : processModule services destination m s = .error failure after) :
    (∃ w, Plan.build services destination m s.world = .error failure w ∧
        after = { s with world := w }) ∨
      ∃ request w w', Plan.build services destination m s.world = .ok (.compile request) w ∧
        Outcome.ofRequest services request m.prerequisites w = .error failure w' ∧
        after = { s with world := w' } := by
  rcases bind_eq_error.1 h with hrun | ⟨plan, planned, hrun, hrest⟩
  · exact Or.inl (Session.inWorld_eq_error.1 hrun)
  · obtain ⟨w, hbuild, rfl⟩ := Session.inWorld_eq_ok.1 hrun
    rcases bind_eq_error.1 hrest with hcarry | ⟨_, _, -, hend⟩
    · rcases plan with request | ⟨module, reason⟩
      · rcases bind_eq_error.1 hcarry with hrun' | ⟨outcome, between, -, hmodify⟩
        · obtain ⟨w', hcompile, hafter⟩ := Session.inWorld_eq_error.1 hrun'
          exact Or.inr ⟨request, w, w', hbuild, hcompile, hafter⟩
        · -- what the context gains cannot fail
          cases outcome <;> cases hmodify
      · cases hcarry
    · cases hend

/-! ### All modules -/

/-- **What going through modules does** to a session, where it ends well: every module has its
plan, and the calls and the context are those of the modules one after the other. -/
theorem processModules_eq_ok {modules : List Module} :
    ∀ {s : Session ε} {plans : List Plan},
      processModules services destination modules s = .ok plans after →
        List.Forall₂ (Plan.Fits services.host destination) modules plans ∧
          s.world.Advances after.world
            ((modules.zip plans).flatMap (Planned.calls services.host)) ∧
          after =
            { s with context := s.context.carried (modules.zip plans), world := after.world } := by
  induction modules with
  | nil =>
    intro s plans h
    cases h
    refine ⟨.nil, .refl _, ?_⟩
    rw [List.zip_nil_left, Context.carried_nil]
  | cons m rest ih =>
    intro s plans h
    obtain ⟨plan, between, hfirst, hrest⟩ := bind_eq_ok.1 h
    obtain ⟨others, last, hothers, hend⟩ := bind_eq_ok.1 hrest
    cases hend
    obtain ⟨hfits, hcalls, hbetween⟩ := processModule_eq_ok hfirst
    -- plans come in front of those of the rest, what the context gains behind what it has
    obtain ⟨hfits', hcalls', hafter⟩ := ih hothers
    refine ⟨.cons hfits hfits', ?_, ?_⟩
    · rw [List.zip_cons_cons, List.flatMap_cons]
      exact hcalls.trans hcalls'
    · rw [hafter, hbetween, Context.carried_append]
      rfl

/-- Modules that have gone through have plans that were built for them. -/
theorem built_of_processModules {modules : List Module} :
    ∀ {s : Session ε} {plans : List Plan},
      processModules services destination modules s = .ok plans after →
        List.Forall₂ (Plan.Built services destination) modules plans := by
  induction modules with
  | nil =>
    intro s plans h
    cases h
    exact .nil
  | cons m rest ih =>
    intro s plans h
    obtain ⟨plan, between, hfirst, hrest⟩ := bind_eq_ok.1 h
    obtain ⟨others, last, hothers, hend⟩ := bind_eq_ok.1 hrest
    cases hend
    exact .cons (built_of_processModule hfirst) (ih hothers)

/-- **Where going through modules fails**, the modules in front of the one that fails have gone
through, and those behind it have not been looked at. -/
theorem processModules_eq_error {modules : List Module} {failure : Failure} :
    ∀ {s : Session ε},
      processModules services destination modules s = .error failure after →
        ∃ done m rest plans between, modules = done ++ m :: rest ∧
          processModules services destination done s = .ok plans between ∧
          processModule services destination m between = .error failure after := by
  induction modules with
  | nil =>
    intro s h
    cases h
  | cons m rest ih =>
    intro s h
    rcases bind_eq_error.1 h with hfirst | ⟨plan, between, hfirst, hrest⟩
    · exact ⟨[], m, rest, [], s, rfl, rfl, hfirst⟩
    · rcases bind_eq_error.1 hrest with hothers | ⟨_, _, -, hend⟩
      · obtain ⟨done, k, behind, plans, reached, rfl, hdone, hfails⟩ := ih hothers
        refine ⟨m :: done, k, behind, plan :: plans, reached, rfl, ?_, hfails⟩
        exact bind_eq_ok.2 ⟨plan, between, hfirst, bind_eq_ok.2 ⟨plans, reached, hdone, rfl⟩⟩
      · cases hend

end Phase

end WorkspaceIndex
