import WorkspaceIndex.Proofs.Path.Dedup
import WorkspaceIndex.Proofs.Path.Same
import WorkspaceIndex.Proofs.Pipeline.Kept
/-!
# The aggregated classpath

The classpath of a build has an entry for every dependency of every module, or, if it is asked to be
without duplicates, for the first spelling of every path among them (`Path.FirstSpellings`). Two
spellings are one path when they have the same components, which `Path.same_iff` puts in terms of
what is written.

Whether duplicates are to go is a flag among the options of a run. A step is *blind* to it if it
does the same with the flag changed before it as with the flag changed after it. The phases up to
the aggregation are blind, and the phases from there on call nobody for a module, so the calls for
modules are the same with the flag and without (`Pipeline.moduleCalls_withDedup`).
-/

namespace WorkspaceIndex

variable {ε α β : Type}

/-! ### The classpath of some modules -/

namespace Classpath

variable (files : FileStore) (modules : List Module)

/-- With duplicates there is one entry for every dependency of every module, in order. -/
theorem aggregate_false :
    aggregate files false modules =
      modules.flatMap fun m ↦ m.dependencies.map fun path ↦ ⟨path, Jar.identity? files path⟩ :=
  List.map_flatMap

theorem map_path_aggregate (deduplicate : Bool) :
    (aggregate files deduplicate modules).map ClasspathEntry.path = paths deduplicate modules := by
  rw [aggregate, List.map_map]
  exact List.map_id _

theorem firstSpellings_paths : Path.FirstSpellings (paths false modules) (paths true modules) :=
  Path.firstSpellings_dedup _

end Classpath

/-! ### Steps that are blind to the flag -/

namespace Session

/-- The session with the flag for duplicates set anew. -/
def withDedup (deduplicate : Bool) (s : Session ε) : Session ε :=
  { s with context := { s.context with
      options := { s.context.options with dedupClasspath := deduplicate } } }

/-- The end of a computation, with the flag for duplicates set anew. -/
def endWithDedup (deduplicate : Bool) :
    EStateM.Result Failure (Session ε) α → EStateM.Result Failure (Session ε) α
  | .ok a s => .ok a (s.withDedup deduplicate)
  | .error failure s => .error failure (s.withDedup deduplicate)

theorem leaves_endWithDedup (deduplicate : Bool) (result : EStateM.Result Failure (Session ε) α) :
    leaves (endWithDedup deduplicate result) = (leaves result).withDedup deduplicate := by
  rcases result with ⟨a, s⟩ | ⟨failure, s⟩ <;> rfl

end Session

namespace SessionM

/-- A computation that does the same whether or not duplicates are to go. -/
def Blind (x : SessionM ε α) : Prop :=
  ∀ (deduplicate : Bool) (s : Session ε),
    x (s.withDedup deduplicate) = Session.endWithDedup deduplicate (x s)

theorem blind_pure (a : α) : Blind (pure a : SessionM ε α) := fun _ _ ↦ rfl

theorem blind_inWorld (run : Run ε α) : Blind (Session.inWorld run) := by
  intro deduplicate s
  have hworld : (s.withDedup deduplicate).world = s.world := rfl
  rw [Session.inWorld, Session.inWorld, hworld]
  rcases run s.world with ⟨a, w⟩ | ⟨failure, w⟩ <;> rfl

theorem Blind.bind {x : SessionM ε α} {g : α → SessionM ε β} (hx : Blind x)
    (hg : ∀ a, Blind (g a)) : Blind (x >>= g) := by
  intro deduplicate s
  have hfirst := hx deduplicate s
  rcases hend : x s with ⟨a, between⟩ | ⟨failure, after⟩
  · rw [hend] at hfirst
    rw [bind_of_ok hend, bind_of_ok hfirst, hg a]
  · rw [hend] at hfirst
    rw [bind_of_error hend, bind_of_error hfirst]
    rfl

/-- To look at the context is to be blind if what comes of it is the same for any flag. -/
theorem blind_currentContext_bind {g : Context → SessionM ε β} (hg : ∀ c, Blind (g c))
    (heq : ∀ (deduplicate : Bool) (s : Session ε),
      g (s.withDedup deduplicate).context = g s.context) :
    Blind (Session.currentContext >>= g) := by
  intro deduplicate s
  rw [bind_of_ok (Session.currentContext_eq _), bind_of_ok (Session.currentContext_eq _), heq,
    hg s.context]

theorem Blind.all {steps : List (SessionM ε Unit)} (h : ∀ step ∈ steps, Blind step) :
    Blind (all steps) := by
  induction steps with
  | nil => exact blind_pure ()
  | cons step rest ih =>
    exact (h step List.mem_cons_self).bind fun _ ↦
      ih fun other hother ↦ h other (List.mem_cons_of_mem _ hother)

end SessionM

namespace Phase

open SessionM

variable (services : Services ε)

theorem blind_resolveFormat : Blind (resolveFormat.run : SessionM ε Unit) :=
  blind_currentContext_bind (fun _ ↦ (blind_inWorld _).bind fun _ _ _ ↦ rfl) fun _ _ ↦ rfl

theorem blind_carryOut (m : Module) (plan : Plan) : Blind (carryOut services m plan) := by
  cases plan with
  | compile request =>
    refine (blind_inWorld _).bind fun outcome ↦ ?_
    cases outcome <;> exact fun _ _ ↦ rfl
  | skip => exact fun _ _ ↦ rfl

theorem blind_processModules (destination : Path) (modules : List Module) :
    Blind (processModules services destination modules) := by
  induction modules with
  | nil => exact blind_pure _
  | cons m rest ih =>
    have hmodule : Blind (processModule services destination m) :=
      (blind_inWorld _).bind fun plan ↦ (blind_carryOut services m plan).bind fun _ ↦ blind_pure _
    exact hmodule.bind fun _ ↦ ih.bind fun _ ↦ blind_pure _

theorem blind_compile : Blind (compile services).run :=
  blind_currentContext_bind (fun _ ↦ (blind_processModules services _ _).bind fun _ _ _ ↦ rfl)
    fun _ _ ↦ rfl

end Phase

/-- The hook that takes snapshots is blind: a snapshot does not show the options. -/
theorem Hook.blind_takeSnapshot (directory : Option Path) (phase : String) :
    SessionM.Blind (takeSnapshot directory phase : SessionM ε Unit) := by
  intro deduplicate s
  let snapshot := Snapshot.ofContext phase s.context
  rcases directory with - | directory
  · rfl
  · exact SessionM.blind_inWorld (writeSnapshot directory snapshot) deduplicate
      { s with snapshots := s.snapshots ++ [snapshot] }

/-! ### Runs with the flag and without -/

namespace Pipeline

/-- A pipeline whose hooks are blind to the flag for duplicates. -/
structure Blind (p : Pipeline ε) : Prop where
  before : ∀ hook ∈ p.hooks, ∀ phase, SessionM.Blind (hook.before phase)
  after : ∀ hook ∈ p.hooks, ∀ phase, SessionM.Blind (hook.after phase)

variable {p : Pipeline ε} {services : Services ε}

namespace Blind

theorem all_before (hp : p.Blind) (phase : String) :
    SessionM.Blind (SessionM.all (p.hooks.map fun hook ↦ hook.before phase)) :=
  SessionM.Blind.all (List.forall_mem_map.2 fun hook hhook ↦ hp.before hook hhook phase)

theorem all_after (hp : p.Blind) (phase : String) :
    SessionM.Blind (SessionM.all (p.hooks.map fun hook ↦ hook.after phase)) :=
  SessionM.Blind.all (List.forall_mem_map.2 fun hook hhook ↦ hp.after hook hhook phase)

theorem runPhase (hp : p.Blind) {phase : Phase ε} (h : SessionM.Blind phase.run) :
    SessionM.Blind (p.runPhase phase) :=
  (hp.all_before phase.name).bind fun _ ↦ h.bind fun _ ↦ hp.all_after phase.name

theorem toAggregate (hp : p.Blind) : SessionM.Blind (p.toAggregate services) := by
  have hresolve := hp.runPhase Phase.blind_resolveFormat
  have hcompile := hp.runPhase (Phase.blind_compile services)
  have hphases : SessionM.Blind (p.runPhases [Phase.resolveFormat, Phase.compile services]) :=
    hresolve.bind fun _ ↦ hcompile.bind fun _ ↦ SessionM.blind_pure ()
  exact hphases.bind fun _ ↦ hp.all_before _

end Blind

/-- All calls for modules are made up to the aggregation, if hooks and added phases make none. -/
theorem moduleCalls_run (hp : p.Keeps fun s ↦ s.world.moduleCalls) (options : GenerateOptions)
    (world : World ε) :
    (leaves (p.run services options world)).world.moduleCalls =
      (leaves (p.toAggregate services (start options world))).world.moduleCalls := by
  rw [run_eq_toIndex, toIndex]
  simp only [bind_assoc]
  exact SessionM.Keeps.leaves_bind (f := fun s ↦ s.world.moduleCalls) (fun _ ↦
    (Phase.keeps_moduleCalls services (by simp)).bind fun _ ↦ hp.betweenAggregateAndIndex.bind
      fun _ ↦ (Phase.keeps_moduleCalls services (by simp)).bind fun _ ↦ hp.fromIndex) _

/-- **The calls for modules do not depend on the flag for duplicates.** -/
theorem moduleCalls_withDedup (hblind : p.Blind) (hp : p.Keeps fun s ↦ s.world.moduleCalls)
    (options : GenerateOptions) (world : World ε) (deduplicate : Bool) :
    (leaves
        (p.run services { options with dedupClasspath := deduplicate } world)).world.moduleCalls =
      (leaves (p.run services options world)).world.moduleCalls := by
  have hstart : start { options with dedupClasspath := deduplicate } world =
      (start options world).withDedup deduplicate := rfl
  rw [moduleCalls_run hp, moduleCalls_run hp, hstart, hblind.toAggregate,
    Session.leaves_endWithDedup]
  rfl

end Pipeline

namespace GenerateReport

/-- The pipelines of the command line are blind to the flag. -/
theorem blind_pipeline (directory : Option Path) : (pipeline directory : Pipeline ε).Blind := by
  rcases directory with - | directory
  · exact ⟨fun _ h ↦ absurd h List.not_mem_nil, fun _ h ↦ absurd h List.not_mem_nil⟩
  · refine ⟨fun hook hhook phase ↦ ?_, fun hook hhook phase ↦ ?_⟩ <;>
      obtain rfl := List.mem_singleton.1 hhook
    · exact SessionM.blind_pure ()
    · exact Hook.blind_takeSnapshot (some directory) phase

/-- The pipelines of the command line leave the calls for modules to the phases. -/
theorem keeps_moduleCalls_pipeline (directory : Option Path) :
    (pipeline directory : Pipeline ε).Keeps fun s ↦ s.world.moduleCalls :=
  (silent_pipeline directory).keeps fun s t h ↦ by
    rw [World.moduleCalls, h.calls_eq, World.moduleCalls]

theorem world_generate (services : Services ε) (options : GenerateOptions) (visualize : Bool)
    (world : World ε) :
    (generate services options visualize world).2 =
      (leaves ((pipeline (snapshotDirectoryFor visualize options.destination)).run services options
        world)).world := by
  rw [generate]
  split <;> rename_i hrun <;> rw [hrun] <;> rfl

/-- With the flag and without, a run from the command line makes the same calls for modules. -/
theorem moduleCalls_generate (services : Services ε) (options : GenerateOptions) (visualize : Bool)
    (world : World ε) (deduplicate : Bool) :
    (generate services { options with dedupClasspath := deduplicate } visualize
        world).2.moduleCalls =
      (generate services options visualize world).2.moduleCalls := by
  rw [world_generate, world_generate]
  exact
    Pipeline.moduleCalls_withDedup (blind_pipeline _) (keeps_moduleCalls_pipeline _) options world
    deduplicate

end GenerateReport

/-! ### All of it together -/

/-- **What the classpath of a build is, with duplicates and without.**

With duplicates it has one entry for every dependency of every module, in order, each with the
package that is read for its path. Without, it has those entries among these that are the first with
their path, as they were spelled, and to strike out duplicates again changes nothing. The same holds
of the classpath that a module is given. Two spellings are one path exactly if they start alike and
have the same visible pieces.

In a run from the command line, the flag for duplicates changes no call of the fetcher or of the
compiler, and so in a run with any hooks and added phases that are blind to it and make no such call
themselves. The indexer is given the packages of the classpath in the context, in order; and if
hooks and added phases leave the indexer, the options and the classpath alone, these are the
packages of the classpath that the run has aggregated with the flag as it was given. Such a run
calls the indexer once at most, and one that ends well has called it. -/
theorem Pipeline.aggregate_lawful (p : Pipeline ε) (services : Services ε)
    (options : GenerateOptions) (world : World ε) :
    (∀ (files : FileStore) (modules : List Module),
      Classpath.aggregate files false modules =
          modules.flatMap (fun m ↦ m.dependencies.map fun path ↦ ⟨path, Jar.identity? files path⟩) ∧
        (Classpath.aggregate files true modules).Sublist (Classpath.aggregate files false modules) ∧
        Path.FirstSpellings ((Classpath.aggregate files false modules).map ClasspathEntry.path)
          ((Classpath.aggregate files true modules).map ClasspathEntry.path) ∧
        Path.dedup ((Classpath.aggregate files true modules).map ClasspathEntry.path) =
          (Classpath.aggregate files true modules).map ClasspathEntry.path) ∧
    (∀ (m : Module) (classpath : List Path),
      Path.FirstSpellings classpath (m.withClasspath classpath).classpath ∧
        m.withClasspath (m.withClasspath classpath).classpath = m.withClasspath classpath) ∧
    (∀ a b : Path, Path.Same a b ↔ a.isAbsolute = b.isAbsolute ∧
      a.startsCurrent = b.startsCurrent ∧ a.visiblePieces = b.visiblePieces) ∧
    (∀ visualize deduplicate : Bool,
      (GenerateReport.generate services { options with dedupClasspath := deduplicate } visualize
          world).2.moduleCalls =
        (GenerateReport.generate services options visualize world).2.moduleCalls) ∧
    (p.Blind → p.Keeps (fun s ↦ s.world.moduleCalls) → ∀ deduplicate : Bool,
      (leaves (p.run services { options with dedupClasspath := deduplicate }
          world)).world.moduleCalls =
        (leaves (p.run services options world)).world.moduleCalls) ∧
    (∀ t : Session ε, ∃ calls,
      (leaves ((Phase.index services).run t)).world.calls = t.world.calls ++ calls ∧
        ∀ call ∈ calls, ∃ classpath request file, t.context.classpath = some classpath ∧
          call = .indexed request file ∧
          request.packages = classpath.filterMap ClasspathEntry.package) ∧
    (p.Keeps (fun s ↦ s.world.indexCalls) →
      p.Keeps (fun s ↦ (s.context.options, s.context.classpath)) → ∃ calls,
        (leaves (p.run services options world)).world.indexCalls = world.indexCalls ++ calls ∧
          calls.length ≤ 1 ∧ (∀ s, p.run services options world = .ok () s → calls.length = 1) ∧
          ∀ call ∈ calls, ∃ u request file,
            p.toAggregate services (start options world) = .ok () u ∧
            call = .indexed request file ∧
            request.packages = (Classpath.aggregate u.world.files options.dedupClasspath
              services.host.modules).filterMap ClasspathEntry.package) := by
  refine ⟨fun files modules ↦ ⟨Classpath.aggregate_false files modules, ?_, ?_, ?_⟩,
    fun m classpath ↦ ⟨Path.firstSpellings_dedup classpath, ?_⟩, fun a b ↦ Path.same_iff,
    fun visualize ↦ GenerateReport.moduleCalls_generate services options visualize world,
    fun hblind hp ↦ moduleCalls_withDedup hblind hp options world, fun t ↦ ?_,
    fun hindex hclasspath ↦ ?_⟩
  · exact (Classpath.firstSpellings_paths modules).sublist.map _
  · rw [Classpath.map_path_aggregate, Classpath.map_path_aggregate]
    exact Classpath.firstSpellings_paths modules
  · rw [Classpath.map_path_aggregate]
    exact Path.dedup_dedup _
  · exact congrArg (fun kept ↦ { m with classpath := kept }) (Path.dedup_dedup classpath)
  · obtain ⟨calls, hcalls, -, hindexed⟩ := Phase.calls_index services t
    refine ⟨calls, hcalls, fun call hcall ↦ ?_⟩
    obtain ⟨format, classpath, -, hclasspath, rfl⟩ := hindexed call hcall
    exact ⟨classpath, _, _, hclasspath, rfl, rfl⟩
  · obtain ⟨calls, hcalls, ⟨hatMost, hcalled⟩, hindexed⟩ := indexCalls_run hindex
    refine ⟨calls, hcalls, hatMost, hcalled, fun call hcall ↦ ?_⟩
    obtain ⟨t, format, classpath, hto, -, hcontext, rfl⟩ := hindexed call hcall
    obtain ⟨-, u, hu, haggregate⟩ := classpath_of_toIndex hclasspath hto
    obtain rfl := Option.some.inj (hcontext.symm.trans haggregate)
    exact ⟨u, _, _, hu, rfl, rfl⟩

namespace Pipeline

/-- A world with one jar that holds its coordinates. -/
def jarWorkspace : World Unit where
  files := ⟨[(["ws"], .directory), (["deps"], .directory),
    (["deps", "a.jar"], .archive [⟨"META-INF/maven/org.a/a/pom.properties",
      .text "groupId=org.a\nartifactId=a\nversion=1\n"⟩])], ["ws"]⟩
  outside := ()

/-- Collaborators over a build in which two modules spell a dependency in different ways. -/
def respelledBuild : Services Unit :=
  .stateless { root := ⟨"/ws"⟩
               modules := [{ name := "core", variant := .scala3, sources := [⟨"/ws/A.scala"⟩]
                             dependencies := [⟨"/deps/a.jar"⟩, ⟨"/deps/b.jar"⟩] },
                 { name := "app", variant := .scala3, dependencies := [⟨"/deps/./a.jar"⟩] }] }
    (fun _ ↦ .ok []) (fun _ ↦ {}) fun _ ↦ {}

/-- The run of `respelledBuild` with snapshots, with duplicates or without. -/
def respelledRun (deduplicate : Bool) : EStateM.Result Failure (Session Unit) Unit :=
  (GenerateReport.pipeline (some ⟨"/ws/out/debug"⟩)).run respelledBuild
    ⟨⟨"index.scip"⟩, ⟨"/ws/out"⟩, deduplicate⟩ jarWorkspace

/-- Without duplicates the package that is spelled twice is handed on once, by the only call of the
indexer, and the calls for modules are the same. -/
theorem aggregate_of_respelledRun :
    let p : Pipeline Unit := GenerateReport.pipeline (some ⟨"/ws/out/debug"⟩)
    p.Blind ∧ p.Keeps (fun s ↦ s.world.moduleCalls) ∧ p.Keeps (fun s ↦ s.world.indexCalls) ∧
      p.Keeps (fun s ↦ (s.context.options, s.context.classpath)) ∧
      (leaves (respelledRun true)).world.moduleCalls =
        (leaves (respelledRun false)).world.moduleCalls ∧
      ∃ u request file, p.toAggregate respelledBuild
          (start ⟨⟨"index.scip"⟩, ⟨"/ws/out"⟩, true⟩ jarWorkspace) = .ok () u ∧
        (leaves (respelledRun true)).world.indexCalls = [.indexed request file] ∧
        request.packages = [⟨"org.a", "a", "1"⟩] ∧
        (Classpath.aggregate u.world.files true respelledBuild.host.modules).filterMap
          ClasspathEntry.package = [⟨"org.a", "a", "1"⟩] := by
  intro p
  have hsilent : p.Silent := GenerateReport.silent_pipeline _
  have hmodules := GenerateReport.keeps_moduleCalls_pipeline (ε := Unit) (some ⟨"/ws/out/debug"⟩)
  have hindex : p.Keeps (fun s ↦ s.world.indexCalls) :=
    hsilent.keeps fun s t h ↦ by rw [World.indexCalls, h.calls_eq, World.indexCalls]
  have hclasspath : p.Keeps (fun s ↦ (s.context.options, s.context.classpath)) :=
    hsilent.keeps fun s t h ↦ by rw [h.context_eq]
  have hblind : p.Blind := GenerateReport.blind_pipeline _
  refine ⟨hblind, hmodules, hindex, hclasspath, ?_, ?_⟩
  · obtain ⟨-, -, -, -, hflag, -⟩ := aggregate_lawful p respelledBuild
      ⟨⟨"index.scip"⟩, ⟨"/ws/out"⟩, false⟩ jarWorkspace
    exact hflag hblind hmodules true
  · obtain ⟨-, -, -, -, -, -, hrun⟩ := aggregate_lawful p respelledBuild
      ⟨⟨"index.scip"⟩, ⟨"/ws/out"⟩, true⟩ jarWorkspace
    obtain ⟨calls, hcalls, -, hcalled, hindexed⟩ := hrun hindex hclasspath
    replace hcalls : (leaves (respelledRun true)).world.indexCalls = calls := hcalls
    have hends : respelledRun true = .ok () (leaves (respelledRun true)) :=
      eq_ok_of_endsWell (by decide +kernel)
    obtain ⟨call, rfl⟩ := List.length_eq_one_iff.1 (hcalled _ hends)
    obtain ⟨u, request, file, hu, rfl, hrequest⟩ := hindexed call List.mem_cons_self
    have hpackages : ((leaves (respelledRun true)).world.indexCalls.filterMap
        Event.indexRequest?).map IndexRequest.packages = [[⟨"org.a", "a", "1"⟩]] := by
      decide +kernel
    rw [hcalls] at hpackages
    obtain ⟨hfirst, -⟩ := List.cons.inj hpackages
    exact ⟨u, request, file, hu, hcalls, hfirst, hrequest.symm.trans hfirst⟩

end Pipeline

end WorkspaceIndex
