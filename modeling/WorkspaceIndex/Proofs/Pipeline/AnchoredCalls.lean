import WorkspaceIndex.Proofs.Compiler.Arguments
import WorkspaceIndex.Proofs.Manifest.Root
import WorkspaceIndex.Proofs.Pipeline.SilentHooks
/-!
# What programs are given

Compilers and indexers run in the workspace root, not where this program runs, so the paths of the
workspace that they are given have to be absolute. `Event.Anchored` says so of a call. The one thing
that need not be absolute are the jars of plugins, which are passed on as the fetcher answers them.

A step keeps calls anchored, however it ends, as long as the destination of its session is
(`Session.KeepsAnchored`). For the loop over the modules this comes down to the plans that can be
built (`Plan.Built.anchored`), and for a whole run to its schedule.
-/

namespace WorkspaceIndex

variable {ε : Type}

/-! ### Anchored calls -/

/-- A call of a compiler whose paths start at the root, but for jars that were fetched. -/
structure CompileCall.Anchored (services : Services ε) (call : CompileCall) : Prop where
  workspaceRoot : call.request.workspaceRoot.Anchored
  destination : call.request.destination.Anchored
  sources : ∀ source ∈ call.request.sources, source.Anchored
  classpath : ∃ declared jars, call.request.classpath = declared ++ jars ∧
    (∀ entry ∈ declared, entry.Anchored) ∧ (jars = [] ∨ services.Answers jars)
  outputs : ∀ output ∈ call.givenOutputs, output.Anchored

/-- An order to an indexer whose paths start at the root. -/
structure IndexRequest.Anchored (request : IndexRequest) : Prop where
  workspaceRoot : request.workspaceRoot.Anchored
  targetroots : ∀ targetroot ∈ request.targetroots, targetroot.Anchored
  output : request.output.Anchored

/-- What is asked for with an event starts at the root. -/
def Event.Anchored (services : Services ε) : Event → Prop
  | .compiled call => call.Anchored services
  | .indexed request _ => request.Anchored
  | .fetched _ | .reported _ | .noticed _ => True

section Calls

variable {services : Services ε} {destination : Path} {m : Module}

/-- **A request that was built for an anchored module is anchored.** -/
theorem Plan.Built.anchored {request : CompileRequest} (hhost : services.host.Anchored)
    (hdestination : destination.Anchored) (hm : m.Anchored)
    (h : (Plan.compile request).Built services destination m) :
    (Outcome.callOf request m.prerequisites).Anchored services := by
  have houtputs : ∀ output ∈ (Outcome.callOf request m.prerequisites).givenOutputs,
      output.Anchored := by
    intro output houtput
    rw [CompileCall.givenOutputs, Outcome.callOf] at houtput
    rcases htoken : m.prerequisites with - | token
    · simp [htoken] at houtput
    · exact hm.outputs token htoken output (by simpa [htoken] using houtput)
  have hown : ∃ declared jars, m.classpath = declared ++ jars ∧
      (∀ entry ∈ declared, entry.Anchored) ∧ (jars = [] ∨ services.Answers jars) :=
    ⟨m.classpath, [], (List.append_nil _).symm, hm.classpath, Or.inl rfl⟩
  cases h with
  | scala3 => exact ⟨hhost.root, hdestination, hm.sources, hown, houtputs⟩
  | scala2 => exact ⟨hhost.root, hdestination, hm.sources, hown, houtputs⟩
  | @java _ _ jars answers =>
    exact ⟨hhost.root, hdestination, hm.sources,
      ⟨m.classpath, jars, rfl, hm.classpath, Or.inr answers⟩, houtputs⟩

theorem Plan.anchored_of_mem_fetches {host : HostGraph} {event : Event}
    (h : event ∈ fetches host m) : event.Anchored services := by
  obtain ⟨plugin, -, rfl⟩ := List.mem_map.1 h
  trivial

/-- The order for a context is anchored if the destination of the context is. -/
theorem Phase.anchored_indexRequest {host : HostGraph} {c : Context} (hroot : host.root.Anchored)
    (hdestination : c.options.destination.Anchored) (format : OutputFormat)
    (classpath : List ClasspathEntry) : (indexRequest host c format classpath).Anchored where
  workspaceRoot := hroot
  targetroots := fun _ htargetroot ↦ List.mem_singleton.1 htargetroot ▸ hdestination
  output := Path.anchored_of_isAbsolute (Path.isAbsolute_join hdestination.absolute _)

end Calls

/-! ### Steps that keep calls anchored -/

/-- From one session to a later one the options stay, and all calls are anchored. -/
structure Session.KeepsAnchored (services : Services ε) (s t : Session ε) : Prop where
  options_eq : t.context.options = s.context.options
  calls : ∃ calls, t.world.calls = s.world.calls ++ calls ∧
    ∀ event ∈ calls, event.Anchored services

namespace Session.KeepsAnchored

variable {services : Services ε} {s t u : Session ε}

theorem refl (s : Session ε) : s.KeepsAnchored services s :=
  ⟨rfl, [], (List.append_nil _).symm, fun _ h ↦ absurd h List.not_mem_nil⟩

theorem trans (h : s.KeepsAnchored services t) (h' : t.KeepsAnchored services u) :
    s.KeepsAnchored services u := by
  obtain ⟨hoptions, first, hfirst, hall⟩ := h
  obtain ⟨hoptions', second, hsecond, hall'⟩ := h'
  refine ⟨hoptions'.trans hoptions, first ++ second, ?_, fun event hevent ↦ ?_⟩
  · rw [hsecond, hfirst, List.append_assoc]
  · exact (List.mem_append.1 hevent).elim (hall event) (hall' event)

theorem of_alike (h : s.Alike t) : s.KeepsAnchored services t :=
  ⟨by rw [h.context_eq], [], by rw [h.calls_eq, List.append_nil],
    fun _ hevent ↦ absurd hevent List.not_mem_nil⟩

end Session.KeepsAnchored

namespace Phase

variable {services : Services ε} {destination : Path} {m : Module} {s : Session ε}

/-! ### The modules -/

/-- **Going through an anchored module makes anchored calls**, however it ends. -/
theorem keepsAnchored_processModule (hhost : services.host.Anchored)
    (hdestination : destination.Anchored) (hm : m.Anchored) :
    s.KeepsAnchored services (leaves (processModule services destination m s)) := by
  have hfetches : ∀ event ∈ Plan.fetches services.host m, event.Anchored services :=
    fun _ ↦ Plan.anchored_of_mem_fetches
  have hcompiled {request : CompileRequest}
      (hbuilt : (Plan.compile request).Built services destination m) :
      ∀ event ∈ Plan.fetches services.host m ++
        [.compiled (Outcome.callOf request m.prerequisites)], event.Anchored services := by
    intro event hevent
    rcases List.mem_append.1 hevent with hevent | hevent
    · exact hfetches event hevent
    · rw [List.mem_singleton.1 hevent]
      exact hbuilt.anchored hhost hdestination hm
  rcases hend : processModule services destination m s with ⟨plan, after⟩ | ⟨failure, after⟩
  · obtain ⟨-, hadvances, hafter⟩ := processModule_eq_ok hend
    have hbuilt := built_of_processModule hend
    refine ⟨by rw [leaves_ok, hafter]; rfl, _, hadvances.calls_eq, ?_⟩
    rcases plan with request | ⟨module, reason⟩
    · rw [Planned.calls, compileCall?_of_fits hbuilt.fits]
      split
      · simpa using hfetches
      · exact hcompiled hbuilt
    · simpa [Planned.calls, Planned.compileCall?] using hfetches
  · have hadvances := Plan.build_advances services destination s.world m
    rcases processModule_eq_error hend with
      ⟨w, hfails, rfl⟩ | ⟨request, w, w', hplan, hcompile, rfl⟩
    · rw [hfails, leaves_error] at hadvances
      exact ⟨rfl, _, hadvances.calls_eq, hfetches⟩
    · rw [hplan, leaves_ok] at hadvances
      -- the destination may be refused, and then no compiler is called
      obtain ⟨-, ⟨-, -, hnone⟩ | ⟨-, -, hcall⟩⟩ := Outcome.ofRequest_eq_error hcompile
      · exact ⟨rfl, _, (hadvances.trans hnone).calls_eq, by simpa using hfetches⟩
      · exact ⟨rfl, _, (hadvances.trans hcall).calls_eq, hcompiled (Plan.built_of_build hplan)⟩

theorem keepsAnchored_processModules (hhost : services.host.Anchored)
    (hdestination : destination.Anchored) {modules : List Module}
    (hmodules : ∀ m ∈ modules, m.Anchored) :
    ∀ s : Session ε, s.KeepsAnchored services
      (leaves (processModules services destination modules s)) := by
  induction modules with
  | nil => exact fun s ↦ .refl s
  | cons m rest ih =>
    intro s
    have hfirst := keepsAnchored_processModule (s := s) hhost hdestination
      (hmodules m List.mem_cons_self)
    have hrest := ih fun other hother ↦ hmodules other (List.mem_cons_of_mem _ hother)
    rcases hend : processModule services destination m s with ⟨plan, between⟩ | ⟨failure, after⟩
    · rw [hend, leaves_ok] at hfirst
      refine hfirst.trans ?_
      have hothers := hrest between
      rcases hend' : processModules services destination rest between
        with ⟨plans, last⟩ | ⟨failure, last⟩
      · rw [hend'] at hothers
        rw [processModules, bind_of_ok hend, bind_of_ok hend']
        exact hothers
      · rw [hend'] at hothers
        rw [processModules, bind_of_ok hend, bind_of_error hend']
        exact hothers
    · rw [hend] at hfirst
      rw [processModules, bind_of_error hend]
      exact hfirst

/-! ### The phases -/

theorem keepsAnchored_resolveFormat (s : Session ε) :
    s.KeepsAnchored services (leaves (resolveFormat.run s)) := by
  rcases hend : resolveFormat.run s with ⟨⟨⟩, after⟩ | ⟨failure, after⟩
  · obtain ⟨format, -, rfl⟩ := resolveFormat_eq_ok hend
    exact ⟨rfl, (Session.KeepsAnchored.refl s).calls⟩
  · rw [resolveFormat_eq_error hend]
    exact .refl s

theorem keepsAnchored_compile (hhost : services.host.Anchored)
    (hdestination : s.context.options.destination.Anchored) :
    s.KeepsAnchored services (leaves ((compile services).run s)) := by
  have hmodules := keepsAnchored_processModules hhost hdestination hhost.modules s
  rcases hend : (compile services).run s with ⟨⟨⟩, after⟩ | ⟨failure, after⟩
  · obtain ⟨plans, t, hplans, rfl⟩ := compile_eq_ok hend
    rw [hplans, leaves_ok] at hmodules
    exact ⟨hmodules.options_eq, hmodules.calls⟩
  · rw [compile_eq_error hend] at hmodules
    exact hmodules

theorem keepsAnchored_aggregate (s : Session ε) :
    s.KeepsAnchored services (leaves ((aggregate services).run s)) :=
  ⟨rfl, (Session.KeepsAnchored.refl s).calls⟩

theorem keepsAnchored_index (hroot : services.host.root.Anchored)
    (hdestination : s.context.options.destination.Anchored) :
    s.KeepsAnchored services (leaves ((index services).run s)) := by
  have hcall (format : OutputFormat) (classpath : List ClasspathEntry) :
      ∀ event ∈ [indexCall services.host s.context format classpath], event.Anchored services := by
    intro event hevent
    rw [List.mem_singleton.1 hevent]
    exact anchored_indexRequest hroot hdestination format classpath
  rcases hend : (index services).run s with ⟨⟨⟩, after⟩ | ⟨failure, after⟩
  · obtain ⟨format, classpath, output, w, -, -, hbuild, rfl⟩ := index_eq_ok hend
    exact ⟨rfl, _, (buildIndex_eq_ok hbuild).2, hcall format classpath⟩
  · rcases index_eq_error hend with rfl | ⟨format, classpath, w, hbuild, rfl⟩
    · exact .refl _
    · rcases buildIndex_eq_error hbuild with ⟨-, hnothing⟩ | ⟨hcalls, -⟩
      · exact ⟨rfl, [], hnothing.calls_eq, fun _ h ↦ absurd h List.not_mem_nil⟩
      · exact ⟨rfl, _, hcalls, hcall format classpath⟩

end Phase

/-! ### Runs -/

/-- The steps of a pipeline that only adds silent hooks are silent, or they are built-in phases. -/
theorem Pipeline.Silent.step_of_mem_schedule {p : Pipeline ε} {services : Services ε}
    (hp : p.Silent)
    {step : SessionM ε Unit} (h : step ∈ (p.schedule services).map Prod.snd) :
    SessionM.Silent step ∨ ∃ phase ∈ Phase.builtin services, step = phase.run := by
  obtain ⟨⟨moment, step⟩, hmem, rfl⟩ := List.mem_map.1 h
  rw [schedule, allPhases, hp.phases, List.append_nil] at hmem
  obtain ⟨phase, hphase, hmem⟩ := List.mem_flatMap.1 hmem
  rw [phaseSchedule, List.mem_append, List.mem_append, List.mem_singleton] at hmem
  rcases hmem with (hbefore | hrun) | hafter
  · obtain ⟨hook, hhook, heq⟩ := List.mem_map.1 hbefore
    cases heq
    exact Or.inl ((hp.hooks hook hhook).before phase.name)
  · cases hrun
    exact Or.inr ⟨phase, hphase, rfl⟩
  · obtain ⟨hook, hhook, heq⟩ := List.mem_map.1 hafter
    cases heq
    exact Or.inl ((hp.hooks hook hhook).after phase.name)

/-- **All calls of a run over an anchored build are anchored**, if its destination is. -/
theorem Pipeline.Silent.keepsAnchored {p : Pipeline ε} {services : Services ε}
    {options : GenerateOptions} (hp : p.Silent) (hhost : services.host.Anchored)
    (hdestination : options.destination.Anchored) (world : World ε) :
    (start options world).KeepsAnchored services (leaves (p.run services options world)) := by
  rw [run_eq_all]
  refine SessionM.all_related (R := Session.KeepsAnchored services) .refl .trans ?_ (.refl _)
  intro step hstep s hs
  have hkept : s.context.options.destination.Anchored := by
    rw [hs.options_eq]
    exact hdestination
  -- the options are those of the start, as every step so far has kept them
  rcases hp.step_of_mem_schedule hstep with hsilent | ⟨phase, hphase, rfl⟩
  · exact .of_alike (hsilent s)
  · simp only [Phase.builtin, List.mem_cons, List.not_mem_nil, or_false] at hphase
    rcases hphase with rfl | rfl | rfl | rfl
    · exact Phase.keepsAnchored_resolveFormat s
    · exact Phase.keepsAnchored_compile hhost hkept
    · exact Phase.keepsAnchored_aggregate s
    · exact Phase.keepsAnchored_index hhost.root hkept

/-- The command line of an order to an indexer. -/
theorem Indexer.command_eq (program : String) (request : IndexRequest) :
    (command program request).directory = some request.workspaceRoot ∧
      ∃ flags : List OsText, (command program request).arguments =
        [.ofText "index-semanticdb", .ofText "--output", request.output.letters] ++ flags ++
          request.targetroots.map Path.letters :=
  ⟨rfl, (if request.parallel then [] else [.ofText "--no-parallel"]) ++
    if request.buildKind.isEmpty then []
      else [.ofText "--build-kind", .ofText request.buildKind], by
      rw [← List.append_assoc]
      rfl⟩

/-- **Every path of the workspace that a program is given starts at the root**, for a manifest that
was read from whatever path, and a run over its build that ends in whatever way.

The root and the destination are absolute. Each call of a compiler has an absolute root and
destination, absolute sources, and a classpath that is absolute but for jars that were fetched;
these are what the command line is made of. The order to the indexer has an absolute root, output
and directory. So none of these paths can be read as an option, and each leads to the same place
from the workspace root as from the working directory (`Path.Anchored`). -/
theorem GenerateReport.anchored_of_generate {store : FileStore} {path : Path} {file : ManifestFile}
    (hread : ManifestFile.read store path = .ok file) {asked : Option Path} {destination : Path}
    (hdestination : destinationFor store.workingPath file.root asked = .ok destination)
    {runtimeVersion : Option UInt32} {services : Services ε}
    (hhost : services.host = file.manifest.toGraph file.root runtimeVersion) (output : Path)
    (dedupClasspath visualize : Bool) (world : World ε) :
    file.root.Anchored ∧ destination.Anchored ∧
      ∃ calls, (generate services ⟨output, destination, dedupClasspath⟩ visualize world).2.calls =
          world.calls ++ calls ∧
        (∀ call, Event.compiled call ∈ calls → call.Anchored services ∧
          ∀ (programs : CompilerPrograms) (command : Command), programs.command call = .ok command →
            command.directory = some call.request.workspaceRoot ∧
            command.arguments = (CompilerPrograms.options call.request call.entry).map .ofText ++
              [.ofText "-d", call.request.destination.letters] ++
              CompilerPrograms.classpathArguments ([.char ':'].intercalate
                ((call.request.classpath ++ call.givenOutputs).map Path.letters)) ++
              call.request.sources.map Path.letters) ∧
        ∀ request classpathFile, Event.indexed request classpathFile ∈ calls →
          request.Anchored ∧ ∀ program : String,
            (Indexer.command program request).directory = some request.workspaceRoot ∧
            ∃ flags : List OsText, (Indexer.command program request).arguments =
              [.ofText "index-semanticdb", .ofText "--output", request.output.letters] ++ flags ++
                request.targetroots.map Path.letters := by
  have hroot := ManifestFile.isAbsolute_root hread
  have hplace := isAbsolute_of_destinationFor store.isAbsolute_workingPath hroot hdestination
  have hbuild : services.host.Anchored := by
    rw [hhost]
    exact Manifest.anchored_toGraph file.manifest hroot runtimeVersion
  set options : GenerateOptions := ⟨output, destination, dedupClasspath⟩
  set directory := snapshotDirectoryFor visualize options.destination
  have hworld : (generate services options visualize world).2 =
      (leaves ((pipeline directory).run services options world)).world := by
    rw [generate]
    rcases (pipeline directory).run services options world with ⟨⟨⟩, s⟩ | ⟨failure, s⟩ <;> rfl
  have hkept : (Pipeline.start options world).KeepsAnchored services
      (leaves ((pipeline directory).run services options world)) :=
    (silent_pipeline directory).keepsAnchored hbuild (Path.anchored_of_isAbsolute hplace) world
  obtain ⟨calls, hcalls, hall⟩ := hkept.calls
  refine ⟨Path.anchored_of_isAbsolute hroot, Path.anchored_of_isAbsolute hplace, calls, ?_,
    fun call hcall ↦ ⟨hall _ hcall, fun programs command hcommand ↦
      CompilerPrograms.command_eq_ok hcommand⟩,
    fun request _ hrequest ↦ ⟨hall _ hrequest, fun program ↦ Indexer.command_eq program request⟩⟩
  rw [hworld]
  exact hcalls

/-- A manifest below the root that it names. -/
def nestedSource : String :=
  "[workspace]\nroot = \"..\"\n" ++
    "[modules.core]\nvariant = \"scala3\"\nsources = [\"A.scala\"]\nclasspath = [\"a.jar\"]\n"

/-- The manifest of `nestedSource`, read by a path that goes to and fro. -/
def nestedFile : ManifestFile where
  path := ⟨"./sub/..//sub/semdex.toml"⟩
  directory := ⟨"/ws/sub/../sub"⟩
  manifest := {
    workspace := { root := some ⟨".."⟩ }
    modules :=
      [("core", { variant := .scala3, sources := [⟨"A.scala"⟩], classpath := [⟨"a.jar"⟩] })] }

/-- A workspace with `nestedSource` in it. -/
def nestedStore : FileStore :=
  ⟨[(["ws"], .directory), (["ws", "sub"], .directory),
    (["ws", "sub", "semdex.toml"], .file (.text nestedSource))], ["ws"]⟩

/-- Collaborators over the build of `nestedFile` that do what they are asked for. -/
def nestedServices : Services Unit :=
  .stateless (nestedFile.manifest.toGraph nestedFile.root none) (fun _ ↦ .ok []) (fun _ ↦ {})
    fun _ ↦ {}

/-- The calls of the run of `nestedServices`. -/
def nestedCalls : List Event :=
  (GenerateReport.generate nestedServices ⟨⟨"index.scip"⟩, ⟨"/ws/build/out"⟩, false⟩ false
    ⟨nestedStore, (), []⟩).2.calls

/-- All of a relative path, a relative root and a relative destination become absolute. -/
theorem GenerateReport.anchored_of_generate_nestedFile :
    ManifestFile.read nestedStore ⟨"./sub/..//sub/semdex.toml"⟩ = .ok nestedFile ∧
      destinationFor nestedStore.workingPath nestedFile.root (some ⟨"build//./out"⟩) =
        .ok ⟨"/ws/build/out"⟩ ∧
      nestedServices.host = nestedFile.manifest.toGraph nestedFile.root none ∧
      nestedFile.root.Anchored ∧
      (nestedCalls.filterMap Event.compileCall?).map (fun call ↦ call.request.sources) =
        [[⟨"/ws/sub/../sub/../A.scala"⟩]] ∧
      ∀ call, Event.compiled call ∈ nestedCalls → call.Anchored nestedServices := by
  have hread : ManifestFile.read nestedStore ⟨"./sub/..//sub/semdex.toml"⟩ = .ok nestedFile := by
    decide +kernel
  have hdestination : destinationFor nestedStore.workingPath nestedFile.root
      (some ⟨"build//./out"⟩) = .ok ⟨"/ws/build/out"⟩ := by
    decide +kernel
  have hhost : nestedServices.host = nestedFile.manifest.toGraph nestedFile.root none := rfl
  obtain ⟨hroot, -, calls, hcalls, hcompiled, -⟩ :=
    anchored_of_generate hread hdestination hhost ⟨"index.scip"⟩ false false ⟨nestedStore, (), []⟩
  have hsame : nestedCalls = calls := hcalls
  refine ⟨hread, hdestination, hhost, hroot, by decide +kernel, fun call hcall ↦ ?_⟩
  rw [hsame] at hcall
  exact (hcompiled call hcall).1

end WorkspaceIndex
