import WorkspaceIndex.Proofs.Pipeline.Stages
/-!
# Runs that end well

What a plain run has asked of its collaborators once it has ended well, read off the plans in its
context: the compiler exactly for the modules with a plan to compile and with sources, in build
order, and after all of them the indexer, once.

Everything rests on two facts from the stages. The context before the index is known from the plans
(`Pipeline.gathered`), and so are the calls (`Planned.calls`); what is left here is to read one off
the other. The language is the only place where that takes an argument: it is that of the compiled
modules, and a Scala module with sources is always compiled (`any_isScala_compiled`).
-/

namespace WorkspaceIndex

variable {ε : Type}

/-! ### Reading calls off plans -/

namespace Planned

theorem compileCall?_of_mem_fetches {host : HostGraph} {m : Module} :
    (Plan.fetches host m).filterMap Event.compileCall? = [] := by
  rw [Plan.fetches]
  rcases Plan.plugin? host m with - | plugin <;> rfl

/-- The compiler calls among the calls for a module are the one that its plan leads to. -/
theorem filterMap_compileCall?_calls (host : HostGraph) (p : Planned) :
    (p.calls host).filterMap Event.compileCall? = p.compileCall?.toList := by
  rw [calls, List.filterMap_append, compileCall?_of_mem_fetches, List.nil_append]
  rcases p.compileCall? with - | call <;> rfl

/-- No call for a module is one of the indexer. -/
theorem filterMap_indexRequest?_calls (host : HostGraph) (p : Planned) :
    (p.calls host).filterMap Event.indexRequest? = [] := by
  rw [calls, Plan.fetches, List.filterMap_append]
  rcases Plan.plugin? host p.1 with - | plugin <;> rcases p.compileCall? with - | call <;> rfl

theorem filterMap_compileCall?_flatMap (host : HostGraph) (planned : List Planned) :
    (planned.flatMap (calls host)).filterMap Event.compileCall? =
      planned.filterMap compileCall? := by
  induction planned with
  | nil => rfl
  | cons p rest ih =>
    rw [List.flatMap_cons, List.filterMap_append, ih, filterMap_compileCall?_calls]
    rcases hcall : p.compileCall? with - | call <;> simp [hcall]

theorem filterMap_indexRequest?_flatMap (host : HostGraph) (planned : List Planned) :
    (planned.flatMap (calls host)).filterMap Event.indexRequest? = [] := by
  induction planned with
  | nil => rfl
  | cons p rest ih =>
    rw [List.flatMap_cons, List.filterMap_append, ih, filterMap_indexRequest?_calls]
    rfl

end Planned

/-! ### Plans that fit -/

section Fits

variable {host : HostGraph} {destination : Path} {modules : List Module} {plans : List Plan}

/-- Plans that fit have the names of their modules, in order. -/
theorem map_module_of_fits (h : List.Forall₂ (Plan.Fits host destination) modules plans) :
    plans.map Plan.module = modules.map Module.name := by
  induction h with
  | nil => rfl
  | cons hfits _ ih => rw [List.map_cons, List.map_cons, hfits.module_eq, ih]

/-- What is listed as compiled is what the compiler was called for. -/
theorem compiled_of_fits (h : List.Forall₂ (Plan.Fits host destination) modules plans) :
    (modules.zip plans).filterMap Planned.compiled? =
      ((modules.zip plans).filterMap Planned.compileCall?).map fun call ↦
        ⟨call.request.module, call.request.variant⟩ := by
  induction h with
  | nil => rfl
  | @cons m plan rest plans' hfits _ ih =>
    rw [List.zip_cons_cons, List.filterMap_cons, List.filterMap_cons]
    cases hfits with
    | compile module_eq variant_eq =>
      by_cases hsources : m.sources.isEmpty <;>
        simp [Planned.compiled?, Planned.compileCall?, hsources, ih, module_eq, variant_eq]
    | skip => simpa [Planned.compiled?, Planned.compileCall?] using ih

/-- **A Scala module with sources is always compiled**, and nothing else makes the compiled modules
contain Scala: only Java modules are skipped. -/
theorem any_isScala_compiled (h : List.Forall₂ (Plan.Fits host destination) modules plans) :
    (((modules.zip plans).filterMap Planned.compiled?).any fun c ↦ c.variant.isScala) =
      modules.any fun m ↦ m.variant.isScala && !m.sources.isEmpty := by
  induction h with
  | nil => rfl
  | @cons m plan rest plans' hfits _ ih =>
    rw [List.zip_cons_cons, List.filterMap_cons, List.any_cons, ← ih]
    cases hfits with
    | compile =>
      by_cases hsources : m.sources.isEmpty <;>
        simp [Planned.compiled?, Planned.compileCall?, hsources]
    | skip variant_eq =>
      simp [Planned.compiled?, Planned.compileCall?, variant_eq, Variant.isScala]

end Fits

/-- The language of a context whose modules have gone through. -/
theorem language_gathered {services : Services ε} {options : GenerateOptions}
    {format : OutputFormat} {plans : List Plan} {files : FileStore}
    (h : List.Forall₂ (Plan.Fits services.host options.destination) services.host.modules plans) :
    (Pipeline.gathered services options format plans files).language = .scala ↔
      ∃ m ∈ services.host.modules, m.variant.isScala ∧ m.sources ≠ [] := by
  have hlanguage : (Pipeline.gathered services options format plans files).language =
      if services.host.modules.any fun m ↦ m.variant.isScala && !m.sources.isEmpty then .scala
      else .java := by
    rw [Context.language, SourceLanguage.ofVariants, List.any_map, ← any_isScala_compiled h]
    rfl
  have hany : (services.host.modules.any fun m ↦ m.variant.isScala && !m.sources.isEmpty) = true ↔
      ∃ m ∈ services.host.modules, m.variant.isScala ∧ m.sources ≠ [] := by
    simp
  rw [hlanguage, ← hany]
  split <;> simp [*]

namespace Pipeline

/-- **What a plain run that ended well has asked for.** Its calls are some `before` and then one of
the indexer. Among those before it none is of the indexer, and those of the compiler are the calls
that the plans in the context lead to, module after module; there is one plan for every module,
under its name. The modules listed as compiled are those the compiler was called for. The index goes
into the destination, and it is a Scala index if and only if some Scala module has sources. -/
theorem calls_of_run {services : Services ε} {options : GenerateOptions} {world : World ε}
    {s : Session ε} (h : ({} : Pipeline ε).run services options world = .ok () s) :
    ∃ before request file,
      s.world.calls = world.calls ++ before ++ [Event.indexed request file] ∧
      before.filterMap Event.indexRequest? = [] ∧
      before.filterMap Event.compileCall? =
        (services.host.modules.zip s.context.plans).filterMap Planned.compileCall? ∧
      s.context.plans.map Plan.module = services.host.modules.map Module.name ∧
      s.context.compiled = (before.filterMap Event.compileCall?).map (fun call ↦
        ⟨call.request.module, call.request.variant⟩) ∧
      request.targetroots = [options.destination] ∧
      request.output = options.destination.join options.output ∧
      s.context.index = some request.output ∧
      (request.language = .scala ↔
        ∃ m ∈ services.host.modules, m.variant.isScala ∧ m.sources ≠ []) := by
  obtain ⟨format, plans, after, output, -, hmodules, hindex, hcontext⟩ := run_eq_ok h
  obtain ⟨hfits, hadvances, -⟩ := Phase.processModules_eq_ok hmodules
  obtain ⟨rfl, hcalls⟩ := Phase.buildIndex_eq_ok hindex
  have hlanguage := @language_gathered _ _ _ format _ after.world.files hfits
  set c := gathered services options format plans after.world.files
  set classpath :=
    Classpath.aggregate after.world.files options.dedupClasspath services.host.modules
  rw [hcontext]
  refine ⟨(services.host.modules.zip plans).flatMap (Planned.calls services.host),
    Phase.indexRequest services.host c format classpath,
    some (IndexRequest.classpathText classpath), ?_, Planned.filterMap_indexRequest?_flatMap _ _,
    Planned.filterMap_compileCall?_flatMap _ _, map_module_of_fits hfits, ?_, rfl, rfl, rfl,
    hlanguage⟩
  · rw [hcalls, hadvances.calls_eq]
    rfl
  · rw [Planned.filterMap_compileCall?_flatMap]
    exact compiled_of_fits hfits

/-- A build with a module of each kind on a host that is too old for Java. -/
def mixedHost : HostGraph where
  root := ⟨"/ws"⟩
  hostVersion := some ⟨0, 10, 0⟩
  modules :=
    [{ name := "core", variant := .scala3, sources := [⟨"/ws/A.scala"⟩] },
      { name := "app", variant := .java, sources := [⟨"/ws/B.java"⟩] },
      { name := "gen", variant := .scala3 },
      { name := "old", variant := .scala2, scalaVersion := some ⟨2, 13, 12⟩,
        sources := [⟨"/ws/C.scala"⟩], prerequisites := some ⟨[⟨"/ws/out/core/classes"⟩]⟩ }]

/-- A world with an empty workspace directory. -/
def emptyWorkspace : World Unit where
  files := ⟨[(["ws"], .directory)], ["ws"]⟩
  outside := ()

/-- The run over `mixedHost` with collaborators that do what they are asked for. -/
def mixedRun : EStateM.Result Failure (Session Unit) Unit :=
  ({} : Pipeline Unit).run
    (.stateless mixedHost (fun _ ↦ .ok [⟨"/cache/plugin.jar"⟩]) (fun _ ↦ {}) fun _ ↦ {})
    ⟨⟨"index.scip"⟩, ⟨"/ws/out"⟩, false⟩ emptyWorkspace

/-- Of four modules the compiler is called for two: one is skipped, one has no sources. -/
theorem calls_of_mixedRun :
    mixedRun = .ok () (leaves mixedRun) ∧
      ∃ before request file,
        (leaves mixedRun).world.calls = before ++ [Event.indexed request file] ∧
        (before.filterMap Event.compileCall?).map (fun call ↦ call.request.module) =
          ["core", "old"] ∧
        request.language = .scala := by
  have hends : mixedRun = .ok () (leaves mixedRun) := eq_ok_of_endsWell (by decide +kernel)
  obtain ⟨before, request, file, hcalls, -, -, -, hcompiled, -, -, -, hlanguage⟩ :=
    calls_of_run hends
  have hlisted : (leaves mixedRun).context.compiled = [⟨"core", .scala3⟩, ⟨"old", .scala2⟩] := by
    decide +kernel
  have hnames := congrArg (List.map CompiledModule.name) (hlisted.symm.trans hcompiled)
  refine ⟨hends, before, request, file, by simpa [emptyWorkspace, World.calls] using hcalls, ?_,
    hlanguage.2 ⟨_, List.mem_cons_self, rfl, by simp⟩⟩
  rw [List.map_map] at hnames
  exact hnames.symm

end Pipeline

end WorkspaceIndex
