import WorkspaceIndex.Proofs.OsText
import WorkspaceIndex.Proofs.Pipeline.Completed
/-!
# Runs that fail

A plain run that fails stops at its first failing step, and the calls it has made by then are known:
those of the modules in front of that step and the few that belong to the step itself. The step is
one of these, in the order in which a run gets to them:

* the format is unknown, and nothing at all has happened (`run_of_unknown_format`);
* some module cannot be planned or compiled (`ModuleFails` lists how), and no file has been touched;
* the classpath file cannot be written, and the indexer has not been called;
* the indexer fails, after one call with the classpath file in place.

The order is what `run_eq_error` and `processModules_eq_error` give; that a step which fails makes
no call beyond its own rests on the lemmas about single steps, which hold for both of their ends.
-/

namespace WorkspaceIndex

variable {ε : Type}

/-! ### A module that fails -/

/-- How going through a module can fail, from a world on: the failure, the world that is left, and
the calls that were made for the module by then. -/
inductive ModuleFails (services : Services ε) (destination : Path) (m : Module) (w : World ε) :
    Failure → World ε → List Event → Prop
  /-- There is no plan. A plugin that was needed was asked for, if the module is complete. -/
  | planning {failure : Failure} {after : World ε}
      (plan : Plan.build services destination m w = .error failure after) :
      ModuleFails services destination m w failure after (Plan.fetches services.host m)
  /-- There is a plan, and the directory for semantic output cannot be made. -/
  | destination {request : CompileRequest} {planned after : World ε} {cause : OsError}
      (plan : Plan.build services destination m w = .ok (.compile request) planned)
      (sources : m.sources ≠ [])
      (compile : Outcome.ofRequest services request m.prerequisites planned =
        .error (.refused (.createDestination destination) cause) after) :
      ModuleFails services destination m w (.refused (.createDestination destination) cause) after
        (Plan.fetches services.host m)
  /-- The compiler was called for the plan, and its answer counts as a failure. -/
  | compiling {request : CompileRequest} {planned after : World ε} {failure : Failure}
      {answer : Answer}
      (plan : Plan.build services destination m w = .ok (.compile request) planned)
      (sources : m.sources ≠ [])
      (compile : Outcome.ofRequest services request m.prerequisites planned = .error failure after)
      (counts : Outcome.ofAnswer m.name answer = .error failure) :
      ModuleFails services destination m w failure after
        (Planned.calls services.host (m, .compile request))

/-- The calls of a module that fails are all there is between the worlds, and no file is touched. -/
theorem ModuleFails.advances {services : Services ε} {destination : Path} {m : Module}
    {w after : World ε} {failure : Failure} {calls : List Event}
    (h : ModuleFails services destination m w failure after calls) : w.Advances after calls := by
  have hfetches := Plan.build_advances services destination w m
  cases h with
  | planning plan =>
    rwa [plan, leaves_error] at hfetches
  | destination plan sources compile =>
    rw [plan, leaves_ok] at hfetches
    rcases Outcome.ofRequest_eq_error compile with ⟨-, ⟨cause, -, hnone⟩ | ⟨answer, hanswer, -⟩⟩
    · simpa using hfetches.trans hnone
    · -- no answer of a compiler counts as a refused destination
      rcases Outcome.ofAnswer_eq_error hanswer with ⟨errors, h⟩ | ⟨cause, h⟩ <;> cases h
  | @compiling request planned _ _ answer plan sources compile counts =>
    rw [plan, leaves_ok] at hfetches
    have hcall := Phase.compileCall?_of_fits (Plan.fits_of_build plan)
    rcases Outcome.ofRequest_eq_error compile with ⟨hne, ⟨cause, rfl, -⟩ | ⟨_, -, hcompiled⟩⟩
    · rcases Outcome.ofAnswer_eq_error counts with ⟨errors, h⟩ | ⟨cause, h⟩ <;> cases h
    · rw [if_neg (by simpa using hne)] at hcall
      rw [Planned.calls, hcall]
      exact hfetches.trans hcompiled

/-- A module at which the loop stops fails in one of these ways. -/
theorem moduleFails_of_processModule {services : Services ε} {destination : Path} {m : Module}
    {s after : Session ε} {failure : Failure}
    (h : Phase.processModule services destination m s = .error failure after) :
    ∃ calls, ModuleFails services destination m s.world failure after.world calls := by
  rcases Phase.processModule_eq_error h with
    ⟨w, hplan, rfl⟩ | ⟨request, w, w', hplan, hcompile, rfl⟩
  · exact ⟨_, .planning hplan⟩
  · have hfits := Plan.fits_of_build hplan
    obtain ⟨hmodule, -, hsources, hdestination, -⟩ := hfits
    obtain ⟨hne, ⟨cause, rfl, -⟩ | ⟨answer, hanswer, -⟩⟩ := Outcome.ofRequest_eq_error hcompile
    · rw [hdestination] at hcompile ⊢
      exact ⟨_, .destination hplan (hsources ▸ hne) hcompile⟩
    · exact ⟨_, .compiling hplan (hsources ▸ hne) hcompile (hmodule ▸ hanswer)⟩

namespace Pipeline

/-! ### A run that fails -/

theorem resolvedFormat_eq_error_iff {output : Path} {failure : Failure} :
    Phase.resolvedFormat output = .error failure ↔
      OutputFormat.ofFileName output.text = .unknown ∧ failure = .unknownFormat output.text := by
  simp only [Phase.resolvedFormat, OutputFormat.isKnown]
  by_cases h : OutputFormat.ofFileName output.text = .unknown
  · simp [h, eq_comm]
  · simp [h]

/-- A run whose format is unknown leaves everything as it was. -/
theorem run_of_unknown_format (services : Services ε) {options : GenerateOptions}
    (world : World ε) (h : OutputFormat.ofFileName options.output.text = .unknown) :
    ({} : Pipeline ε).run services options world =
      .error (.unknownFormat options.output.text) (start options world) := by
  rw [run_eq, resolvedFormat_eq_error_iff.2 ⟨h, rfl⟩]

/-- The calls for a module that fails are none of the indexer. -/
theorem filterMap_indexRequest?_of_moduleFails {services : Services ε} {destination : Path}
    {m : Module} {w after : World ε} {failure : Failure} {calls : List Event}
    (h : ModuleFails services destination m w failure after calls) :
    calls.filterMap Event.indexRequest? = [] := by
  have hfetches : (Plan.fetches services.host m).filterMap Event.indexRequest? = [] := by
    rw [Plan.fetches]
    rcases Plan.plugin? services.host m with - | plugin <;> rfl
  cases h with
  | planning => exact hfetches
  | destination => exact hfetches
  | compiling => exact Planned.filterMap_indexRequest?_calls _ _

/-- **A plain run stops at its first failing step.**

With an unknown format the run fails as it starts. With a known one, a run that fails either stops
at a module `m`: the modules in front of it have gone through, the calls are theirs and then those
of `m` up to its failure, none is of the indexer, and directories are all that the files may have
gained. Or all modules have gone through. Then the classpath file could not be written, and the
calls are those of the modules; or it was written, the one call after those of the modules is of the
indexer, which had the file in front of it, and the failure is the one that the indexer answered. -/
theorem run_stops (services : Services ε) (options : GenerateOptions) (world : World ε) :
    (OutputFormat.ofFileName options.output.text = .unknown →
      ({} : Pipeline ε).run services options world =
        .error (.unknownFormat options.output.text) (start options world)) ∧
    ∀ failure s, OutputFormat.ofFileName options.output.text ≠ .unknown →
      ({} : Pipeline ε).run services options world = .error failure s →
        (∃ done m rest format plans before calls,
          services.host.modules = done ++ m :: rest ∧
          Phase.processModules services options.destination done (resolved options format world) =
            .ok plans before ∧
          ModuleFails services options.destination m before.world failure s.world calls ∧
          s.world.calls =
            world.calls ++ (done.zip plans).flatMap (Planned.calls services.host) ++ calls ∧
          ((done.zip plans).flatMap (Planned.calls services.host) ++ calls).filterMap
            Event.indexRequest? = [] ∧
          world.files.GainsDirectories s.world.files) ∨
        ∃ format plans after calls text,
          Phase.processModules services options.destination services.host.modules
            (resolved options format world) = .ok plans after ∧
          calls = (services.host.modules.zip plans).flatMap (Planned.calls services.host) ∧
          calls.filterMap Event.indexRequest? = [] ∧
          ((Run.writeFile (IndexRequest.classpathFile options.destination) text after.world =
                .error failure s.world ∧
              s.world.calls = world.calls ++ calls ∧
              world.files.GainsDirectories s.world.files) ∨
            ∃ request outside,
              (services.index request s.world.files outside).1.result = .error failure ∧
              s.world.calls = world.calls ++ calls ++ [Event.indexed request (some text)] ∧
              s.world.files.readText (IndexRequest.classpathFile options.destination) =
                .ok text) := by
  refine ⟨run_of_unknown_format services world, fun failure s hknown h ↦ ?_⟩
  rcases run_eq_error h with ⟨hformat, -⟩ | ⟨format, -, hmodules | ⟨plans, after, hmodules, hindex⟩⟩
  · exact absurd (resolvedFormat_eq_error_iff.1 hformat).1 hknown
  · left
    obtain ⟨done, m, rest, plans, before, hsplit, hdone, hfails⟩ :=
      Phase.processModules_eq_error hmodules
    obtain ⟨calls, hfails⟩ := moduleFails_of_processModule hfails
    obtain ⟨-, hadvances, -⟩ := Phase.processModules_eq_ok hdone
    have htotal := hadvances.trans hfails.advances
    refine ⟨done, m, rest, format, plans, before, calls, hsplit, hdone, hfails, ?_, ?_,
      htotal.files_gain⟩
    · rw [htotal.calls_eq, List.append_assoc]
      rfl
    · rw [List.filterMap_append, Planned.filterMap_indexRequest?_flatMap,
        filterMap_indexRequest?_of_moduleFails hfails]
      rfl
  · right
    obtain ⟨-, hadvances, -⟩ := Phase.processModules_eq_ok hmodules
    set c := gathered services options format plans after.world.files
    set classpath :=
      Classpath.aggregate after.world.files options.dedupClasspath services.host.modules
    refine ⟨format, plans, after, _, IndexRequest.classpathText classpath, hmodules, rfl,
      Planned.filterMap_indexRequest?_flatMap _ _, ?_⟩
    rcases Phase.buildIndex_eq_error hindex with
      ⟨hwrite, hnothing⟩ | ⟨hcalls, hread, outside, hanswer⟩
    · have htotal := hadvances.trans hnothing
      refine Or.inl ⟨hwrite, ?_, htotal.files_gain⟩
      rw [htotal.calls_eq, List.append_nil]
      rfl
    · refine Or.inr ⟨Phase.indexRequest services.host c format classpath, outside, hanswer, ?_,
        hread⟩
      rw [hcalls, hadvances.calls_eq]
      rfl

/-- The run over `mixedHost` with a compiler that reports an error for its last module. -/
def brokenRun (output : String) : EStateM.Result Failure (Session Unit) Unit :=
  ({} : Pipeline Unit).run
    (.stateless mixedHost (fun _ ↦ .ok [⟨"/cache/plugin.jar"⟩])
      (fun call ↦ if call.request.module = "old"
        then { diagnostics := [.plain .error "old" "not found: value x"] } else {})
      fun _ ↦ {})
    ⟨⟨output⟩, ⟨"/ws/out"⟩, false⟩ emptyWorkspace

/-- A run that stops at the last of four modules has gained directories only, and one with an
unknown format has not begun. -/
theorem run_stops_brokenRun :
    brokenRun "out.xyz" =
        .error (.unknownFormat "out.xyz") (start ⟨⟨"out.xyz"⟩, ⟨"/ws/out"⟩, false⟩ emptyWorkspace) ∧
      OutputFormat.ofFileName "index.scip" ≠ .unknown ∧
      ∃ failure, brokenRun "index.scip" = .error failure (leaves (brokenRun "index.scip")) ∧
        emptyWorkspace.files.GainsDirectories (leaves (brokenRun "index.scip")).world.files := by
  have hknown : OutputFormat.ofFileName "index.scip" ≠ .unknown := by decide +kernel
  obtain ⟨failure, hfails⟩ : ∃ failure,
      brokenRun "index.scip" = .error failure (leaves (brokenRun "index.scip")) :=
    exists_eq_error_of_endsWell (by decide +kernel)
  refine ⟨(run_stops _ _ _).1 (by decide +kernel), hknown, failure, hfails, ?_⟩
  rcases (run_stops _ _ _).2 failure _ (by rwa [Path.text_mk]) hfails with
    ⟨_, _, _, _, _, _, _, -, -, -, -, -, hgains⟩ |
    ⟨_, _, _, _, text, -, -, -, ⟨-, -, hgains⟩ | ⟨_, _, -, -, hread⟩⟩
  · exact hgains
  · exact hgains
  · -- no classpath file is there to be read
    have hmissing : ((leaves (brokenRun "index.scip")).world.files.readText
        (IndexRequest.classpathFile ⟨"/ws/out"⟩)).toOption = none := by decide +kernel
    rw [hread] at hmissing
    cases hmissing

end Pipeline

end WorkspaceIndex
