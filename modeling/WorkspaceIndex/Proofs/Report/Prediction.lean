import WorkspaceIndex.JavaRuntime
import WorkspaceIndex.Proofs.Manifest.Parsed
import WorkspaceIndex.Proofs.Pipeline.SilentHooks
import WorkspaceIndex.Report.Check
/-!
# Checks come true

A check speaks of what a run will do without looking at a plan: it has conditions of its own for the
modules that will be skipped, for those that have nothing to compile, and for whether the version of
the Java runtime is asked for. Here they are held against the places where these things are decided,
which are the planner, the compiling of a module and the opening of a build.

On the side of the run all that is needed of a plan is whether it skips its module
(`Plan.Built.skipped?_eq`), and this lifts to the lists of the report
(`skipped_of_built`, `compiled_of_built`).
-/

namespace WorkspaceIndex

/-! ### What a check foretells -/

/-- Whether a finding says that Java modules will be skipped. -/
def Finding.tellsOfSkips : Finding → Bool
  | .javaModulesSkipped _ => true
  | _ => false

/-- Whether a finding says that the version of the Java runtime will be asked for. -/
def Finding.tellsOfDetection : Finding → Bool
  | .javaVersionDetected _ => true
  | _ => false

namespace CheckReport

/-- Whether a check warns that Java modules will be skipped. -/
def foretellsSkips (r : CheckReport) : Bool := r.warnings.any Finding.tellsOfSkips

/-- Whether a check says that the version of the Java runtime will be asked for. -/
def foretellsDetection (r : CheckReport) : Bool := r.infos.any Finding.tellsOfDetection

variable (file : ManifestFile)

theorem any_tellsOfSkips_hostWarnings (m : Manifest) :
    (hostWarnings m).any Finding.tellsOfSkips = true ↔
      m.hasJavaModules = true ∧
        ∃ v, m.workspace.hostVersion = some v ∧ v.components < [0, 10, 6] := by
  rw [hostWarnings]
  rcases m.hasJavaModules with - | - <;> rcases m.workspace.hostVersion with - | version
  · simp
  · simp
  · simp
  · by_cases h : Plan.isTooOldForJava version = true
    · simpa [h, Finding.tellsOfSkips] using Plan.isTooOldForJava_iff.1 h
    · simpa [h] using mt Plan.isTooOldForJava_iff.2 h

theorem foretellsSkips_ofFile_iff :
    (ofFile file).foretellsSkips = true ↔
      file.manifest.hasJavaModules = true ∧
        ∃ v, file.manifest.workspace.hostVersion = some v ∧ v.components < [0, 10, 6] := by
  have hnone : (emptinessWarnings file.manifest ++ sourceWarnings file.manifest).any
      Finding.tellsOfSkips = false := by
    rw [emptinessWarnings, sourceWarnings, List.any_append]
    split <;> simp [Finding.tellsOfSkips]
  rw [foretellsSkips, ofFile, List.any_append, hnone, Bool.false_or, any_tellsOfSkips_hostWarnings]

theorem foretellsDetection_ofFile :
    (ofFile file).foretellsDetection = JavaRuntime.isNeeded file.manifest := by
  have hnone : (versionInfos file.manifest).any Finding.tellsOfDetection = false := by
    rw [versionInfos]
    simp [Finding.tellsOfDetection]
  rw [foretellsDetection, ofFile, List.any_append, hnone, Bool.false_or, runtimeInfos,
    JavaRuntime.isNeeded, Bool.and_comm]
  split <;> simp_all [Finding.tellsOfDetection]

/-- A module with a name of its own is warned about exactly if it has no sources. -/
theorem noSources_mem_warnings_iff {name : String} {config : ModuleConfig}
    (distinct : (file.manifest.modules.map Prod.fst).Nodup)
    (h : (name, config) ∈ file.manifest.modules) :
    Finding.noSources name ∈ (ofFile file).warnings ↔ config.sources = [] := by
  have hempty : Finding.noSources name ∉ emptinessWarnings file.manifest := by
    rw [emptinessWarnings]
    split <;> simp
  have hhost : Finding.noSources name ∉ hostWarnings file.manifest := by
    rw [hostWarnings]
    split
    · split <;> simp
    · simp
  have hsources : Finding.noSources name ∈ sourceWarnings file.manifest ↔ config.sources = [] := by
    rw [sourceWarnings, List.mem_map]
    constructor
    · rintro ⟨entry, hentry, hname⟩
      obtain ⟨hmem, hnone⟩ := List.mem_filter.1 hentry
      obtain rfl := List.inj_on_of_nodup_map distinct hmem h (Finding.noSources.inj hname)
      exact List.isEmpty_iff.1 hnone
    · exact fun hnone ↦ ⟨_, List.mem_filter.2 ⟨h, List.isEmpty_iff.2 hnone⟩, rfl⟩
  rw [ofFile, List.mem_append, List.mem_append, hsources]
  simp [hempty, hhost]

end CheckReport

/-! ### What a run reports -/

/-- Whether a plan for a module of a host skips it. -/
def Module.isSkippedBy (host : HostGraph) (m : Module) : Bool :=
  m.variant = .java && (Plan.javaSkipReason? host).isSome

section Built

variable {ε : Type} {services : Services ε} {destination : Path} {modules : List Module}
  {plans : List Plan}

/-- The modules that plans skip are the Java modules of a host that is too old. -/
theorem skipped_of_built (h : List.Forall₂ (Plan.Built services destination) modules plans) :
    (plans.filterMap Plan.skipped?).map Prod.fst =
      (modules.filter (Module.isSkippedBy services.host)).map Module.name := by
  induction h with
  | nil => rfl
  | @cons m plan rest others hbuilt _ ih =>
    rw [List.filterMap_cons, hbuilt.skipped?_eq, List.filter_cons, Module.isSkippedBy]
    by_cases hjava : m.variant = .java
    · rcases hold : Plan.javaSkipReason? services.host with - | reason <;> simp [hjava, ih]
    · simpa [hjava] using ih

/-- The modules that are compiled are those that have sources and are not skipped. -/
theorem compiled_of_built (h : List.Forall₂ (Plan.Built services destination) modules plans) :
    ((modules.zip plans).filterMap Planned.compiled?).map CompiledModule.name =
      (modules.filter fun m ↦ !m.sources.isEmpty && !m.isSkippedBy services.host).map
        Module.name := by
  have hcompiled {m : Module} {plan : Plan} (hbuilt : plan.Built services destination m) :
      (Planned.compiled? (m, plan)).map CompiledModule.name =
        if !m.sources.isEmpty && !m.isSkippedBy services.host then some m.name else none := by
    cases hbuilt with
    | scala3 variant_eq =>
      by_cases hsources : m.sources.isEmpty <;>
        simp [Planned.compiled?, Planned.compileCall?, Module.isSkippedBy, hsources, variant_eq]
    | scala2 variant_eq =>
      by_cases hsources : m.sources.isEmpty <;>
        simp [Planned.compiled?, Planned.compileCall?, Module.isSkippedBy, hsources, variant_eq]
    | java variant_eq young =>
      by_cases hsources : m.sources.isEmpty <;>
        simp [Planned.compiled?, Planned.compileCall?, Module.isSkippedBy, hsources, young]
    | skip variant_eq old =>
      simp [Planned.compiled?, Planned.compileCall?, Module.isSkippedBy, variant_eq, old]
  induction h with
  | nil => rfl
  | @cons m plan rest others hbuilt _ ih =>
    rw [List.zip_cons_cons, List.filterMap_cons, List.filter_cons]
    have hfirst := hcompiled hbuilt
    by_cases hlisted : (!m.sources.isEmpty && !m.isSkippedBy services.host) = true
    · rw [if_pos hlisted] at hfirst ⊢
      obtain ⟨compiled, hc, hname⟩ := Option.map_eq_some_iff.1 hfirst
      rw [hc, List.map_cons, List.map_cons, ih, hname]
    · rw [if_neg hlisted] at hfirst ⊢
      rw [Option.map_eq_none_iff.1 hfirst, ih]

end Built

namespace GenerateReport

variable {ε : Type} {services : Services ε} {options : GenerateOptions} {visualize : Bool}
  {world world' : World ε} {report : GenerateReport}

/-- What a run that ended well reports as skipped and as compiled. -/
theorem reported_of_generate
    (h : generate services options visualize world = (.ok report, world')) :
    report.skipped.map Prod.fst =
        (services.host.modules.filter (Module.isSkippedBy services.host)).map Module.name ∧
      report.compiled =
        (services.host.modules.filter fun m ↦
          !m.sources.isEmpty && !m.isSkippedBy services.host).map Module.name := by
  rw [generate] at h
  rcases hrun : (pipeline (snapshotDirectoryFor visualize options.destination)).run services
    options world with ⟨⟨⟩, s⟩ | ⟨failure, s⟩
  · simp only [hrun, Prod.mk.injEq, Except.ok.injEq] at h
    obtain ⟨rfl, -⟩ := h
    obtain ⟨format, plans, before, after, -, -, hmodules, ⟨files, output, hcontext⟩, -⟩ :=
      (silent_pipeline _).run_eq_ok hrun
    have hbuilt := Phase.built_of_processModules hmodules
    rw [hcontext]
    exact ⟨skipped_of_built hbuilt, compiled_of_built hbuilt⟩
  · simp only [hrun, Prod.mk.injEq, reduceCtorEq, false_and] at h

end GenerateReport

/-! ### The opening of a build -/

/-- A program that was started is on the record of the machine. -/
theorem Machine.calls_of_start {machine machine' : Machine} {files : FileStore}
    {command : Command} {run : ProgramRun} (hdirectory : command.directory = none)
    (h : machine.start files command = (.ok run, machine')) :
    machine'.calls =
      machine.calls ++ [⟨command.program, files.workingPath, command.arguments⟩] := by
  obtain ⟨location, hlocation, rfl⟩ := start_eq_ok h
  rw [Command.locateDirectory, hdirectory] at hlocation
  cases hlocation
  rfl

/-- A runtime whose version was found out was started once for it. -/
theorem JavaRuntime.calls_of_detect {machine machine' : Machine} {files : FileStore}
    {program : String} {major : UInt32}
    (h : detect machine files program = (.ok major, machine')) :
    machine'.calls = machine.calls ++ [⟨program, files.workingPath, ["-version"]⟩] := by
  rw [detect] at h
  rcases hstart : machine.start files ⟨program, none, ["-version"]⟩ with ⟨cause | run, started⟩
  · simp only [hstart] at h
    cases h
  · have hcalls := Machine.calls_of_start rfl hstart
    simp only [hstart] at h
    split at h <;> cases h
    exact hcalls

/-- A build that was opened is that of the manifest, and the Java runtime was started for it once or
not at all. -/
theorem ManifestFile.openGraph_eq_ok {file : ManifestFile} {machine machine' : Machine}
    {files : FileStore} {graph : HostGraph}
    (h : file.openGraph machine files = (.ok graph, machine')) :
    (∃ runtimeVersion, graph = file.manifest.toGraph file.root runtimeVersion) ∧
      machine'.calls = machine.calls ++
        if JavaRuntime.isNeeded file.manifest then
          [⟨file.manifest.tools.java, files.workingPath, ["-version"]⟩]
        else [] := by
  rw [openGraph] at h
  by_cases hneeded : JavaRuntime.isNeeded file.manifest = true
  · rw [if_pos hneeded] at h ⊢
    rcases hdetect : JavaRuntime.detect machine files file.manifest.tools.java
      with ⟨failure | major, asked⟩
    · simp only [hdetect] at h
      cases h
    · simp only [hdetect] at h
      cases h
      exact ⟨⟨_, rfl⟩, JavaRuntime.calls_of_detect hdetect⟩
  · rw [if_neg hneeded] at h ⊢
    cases h
    exact ⟨⟨_, rfl⟩, (List.append_nil _).symm⟩

/-- A manifest that was read from a file was parsed from a text. -/
theorem ManifestFile.parse_of_read {store : FileStore} {path : Path} {file : ManifestFile}
    (h : read store path = .ok file) : ∃ source, Manifest.parse source = .ok file.manifest := by
  rw [read] at h
  split at h
  · cases h
  · rename_i source _
    split at h
    · cases h
    · split at h
      · cases h
      · rename_i manifest hparse
        cases h
        exact ⟨source, hparse⟩

/-! ### The predictions -/

/-- What a check says of Java modules is what planning does to them. -/
theorem CheckReport.isSkippedBy_toModule (file : ManifestFile) (runtimeVersion : Option UInt32)
    {name : String} {config : ModuleConfig} (h : (name, config) ∈ file.manifest.modules) :
    (file.manifest.toModule file.root name config).isSkippedBy
        (file.manifest.toGraph file.root runtimeVersion) =
      (decide (config.variant = .java) && (ofFile file).foretellsSkips) := by
  show (decide (config.variant = .java) && _) = _
  by_cases hjava : config.variant = .java
  · have hmodules : file.manifest.hasJavaModules = true :=
      List.any_eq_true.2 ⟨_, h, decide_eq_true hjava⟩
    have hold : (Plan.javaSkipReason? (file.manifest.toGraph file.root runtimeVersion)).isSome =
        (ofFile file).foretellsSkips := by
      rw [Bool.eq_iff_iff, Plan.isSome_javaSkipReason?_iff, foretellsSkips_ofFile_iff]
      simp only [hmodules, true_and]
      rfl
    rw [hold]
  · rw [decide_eq_false hjava, Bool.false_and, Bool.false_and]

/-- **What a check foretells comes true**, for a manifest that was read and a run over its build
that ended well.

The check warns that Java modules will be skipped if and only if there are some and the version of
the host is below `0.10.6`; then the run has skipped just these, and else none. The modules that
were compiled are in order those for which there is no warning about sources, without the Java
modules if they are skipped. The check says that the version of the Java runtime will be asked for
if and only if the runtime was started when the build was opened, and then it was started once. -/
theorem CheckReport.ofFile_comes_true {ε : Type} {services : Services ε} {store : FileStore}
    {path : Path} {file : ManifestFile} (hread : ManifestFile.read store path = .ok file)
    {machine machine' : Machine} {files : FileStore}
    (hopen : file.openGraph machine files = (.ok services.host, machine'))
    {options : GenerateOptions} {visualize : Bool} {world world' : World ε}
    {report : GenerateReport}
    (hrun : GenerateReport.generate services options visualize world = (.ok report, world')) :
    ((ofFile file).foretellsSkips = true ↔
        file.manifest.hasJavaModules = true ∧
          ∃ v, file.manifest.workspace.hostVersion = some v ∧ v.components < [0, 10, 6]) ∧
      ((ofFile file).foretellsSkips = true ↔ report.skipped ≠ []) ∧
      ((ofFile file).foretellsSkips = true →
        report.skipped.map Prod.fst =
          (file.manifest.modules.filter fun entry ↦ entry.2.variant = .java).map Prod.fst) ∧
      report.compiled =
        (file.manifest.modules.filter fun entry ↦
          !(ofFile file).warnings.contains (.noSources entry.1) &&
            !(decide (entry.2.variant = .java) && (ofFile file).foretellsSkips)).map Prod.fst ∧
      ∃ started, machine'.calls = machine.calls ++ started ∧
        ((ofFile file).foretellsDetection = true ↔ started ≠ []) ∧
        (started ≠ [] →
          started = [⟨file.manifest.tools.java, files.workingPath, ["-version"]⟩]) := by
  obtain ⟨source, hparse⟩ := ManifestFile.parse_of_read hread
  obtain ⟨distinct, -⟩ := Manifest.nodup_and_inBuildOrder_of_parse hparse
  obtain ⟨⟨runtimeVersion, hhost⟩, hcalls⟩ := ManifestFile.openGraph_eq_ok hopen
  obtain ⟨hskipped, hcompiled⟩ := GenerateReport.reported_of_generate hrun
  rw [hhost] at hskipped hcompiled
  set graph := file.manifest.toGraph file.root runtimeVersion
  have hmodules : graph.modules = file.manifest.modules.map fun entry ↦
      file.manifest.toModule file.root entry.1 entry.2 := rfl
  have hjava : report.skipped.map Prod.fst = (file.manifest.modules.filter fun entry ↦
      decide (entry.2.variant = .java) && (ofFile file).foretellsSkips).map Prod.fst := by
    rw [hskipped, hmodules, List.filter_map, List.map_map]
    exact congrArg _ (List.filter_congr fun entry hentry ↦
      isSkippedBy_toModule file runtimeVersion hentry)
  have hlisted : report.compiled = (file.manifest.modules.filter fun entry ↦
      !(ofFile file).warnings.contains (.noSources entry.1) &&
        !(decide (entry.2.variant = .java) && (ofFile file).foretellsSkips)).map Prod.fst := by
    rw [hcompiled, hmodules, List.filter_map, List.map_map]
    refine congrArg _ (List.filter_congr fun entry hentry ↦ ?_)
    have hsources : (ofFile file).warnings.contains (.noSources entry.1) =
        entry.2.sources.isEmpty := by
      rw [Bool.eq_iff_iff, List.contains_iff_mem, noSources_mem_warnings_iff file distinct hentry,
        List.isEmpty_iff]
    rw [hsources, ← isSkippedBy_toModule file runtimeVersion hentry]
    show (!(entry.2.sources.map file.root.join).isEmpty && _) = _
    rw [List.isEmpty_map]
  have hexactly (hskips : (ofFile file).foretellsSkips = true) : report.skipped.map Prod.fst =
      (file.manifest.modules.filter fun entry ↦ entry.2.variant = .java).map Prod.fst := by
    simpa only [hskips, Bool.and_true] using hjava
  -- the warning speaks of the manifest alone; that something was skipped follows from there being
  -- Java modules at all
  refine ⟨foretellsSkips_ofFile_iff file, ⟨fun hskips hnone ↦ ?_, fun hsome ↦ ?_⟩, hexactly,
    hlisted, _, hcalls, ?_, ?_⟩
  · obtain ⟨entry, hentry, hvariant⟩ :=
      List.any_eq_true.1 ((foretellsSkips_ofFile_iff file).1 hskips).1
    have hmem : entry.1 ∈ (file.manifest.modules.filter fun entry ↦
        entry.2.variant = .java).map Prod.fst :=
      List.mem_map_of_mem (List.mem_filter.2 ⟨hentry, hvariant⟩)
    rw [← hexactly hskips, hnone] at hmem
    cases hmem
  · by_contra hskips
    rw [Bool.not_eq_true] at hskips
    simp only [hskips, Bool.and_false, List.filter_false, List.map_nil,
      List.map_eq_nil_iff] at hjava
    exact hsome hjava
  · rw [foretellsDetection_ofFile]
    split <;> simp_all
  · split <;> simp_all

/-- A manifest with a module of each kind on a host that is too old for Java. -/
def outdatedSource : String :=
  "[workspace]\nhost_version = \"0.10.0\"\n" ++
    "[modules.core]\nvariant = \"scala3\"\nsources = [\"A.scala\"]\n" ++
    "[modules.gen]\nvariant = \"scala3\"\n" ++
    "[modules.app]\nvariant = \"java\"\nsources = [\"B.java\"]\n"

/-- The manifest of `outdatedSource` in its file. -/
def outdatedFile : ManifestFile where
  path := ⟨"semdex.toml"⟩
  directory := ⟨"/ws"⟩
  manifest := {
    workspace := { hostVersion := some ⟨0, 10, 0⟩ }
    modules :=
      [("core", { variant := .scala3, sources := [⟨"A.scala"⟩] }),
        ("gen", { variant := .scala3 }),
        ("app", { variant := .java, sources := [⟨"B.java"⟩] })] }

/-- A workspace with `outdatedSource` in it. -/
def outdatedStore : FileStore :=
  ⟨[(["ws"], .directory), (["ws", "semdex.toml"], .file (.text outdatedSource))], ["ws"]⟩

/-- A machine with a Java runtime. -/
def javaMachine : Machine where
  programs := [("java", .runs [{ errors := .text "openjdk version \"17.0.2\"" }])]

/-- Collaborators over the build of `outdatedFile` that do what they are asked for. -/
def outdatedServices : Services Unit :=
  .stateless (outdatedFile.manifest.toGraph ⟨"/ws"⟩ (some 17)) (fun _ ↦ .ok []) (fun _ ↦ {})
    fun _ ↦ {}

/-- The report of a run of `outdatedServices`. -/
def outdatedReport : GenerateReport where
  index := ⟨"/ws/out/index.scip"⟩
  format := some .scip
  language := .scala
  compiled := ["core"]
  skipped := [("app", "Java modules require host version 0.10.6 or newer, found 0.10.0")]
  classpathEntries := 0
  packages := 0
  warnings := 1
  snapshotDirectory := none

/-- Of three modules one is compiled, one has no sources, and the Java module is skipped. The
version of the Java runtime was asked for all the same. -/
theorem CheckReport.ofFile_comes_true_outdatedFile :
    ManifestFile.read outdatedStore ⟨"semdex.toml"⟩ = .ok outdatedFile ∧
      (outdatedFile.openGraph javaMachine outdatedStore).1 = .ok outdatedServices.host ∧
      (GenerateReport.generate outdatedServices ⟨⟨"index.scip"⟩, ⟨"/ws/out"⟩, false⟩ false
        ⟨outdatedStore, (), []⟩).1 = .ok outdatedReport ∧
      (ofFile outdatedFile).foretellsSkips = true ∧
      (ofFile outdatedFile).foretellsDetection = true ∧
      (outdatedFile.openGraph javaMachine outdatedStore).2.calls =
        [⟨"java", ⟨"/ws"⟩, ["-version"]⟩] := by
  have hread : ManifestFile.read outdatedStore ⟨"semdex.toml"⟩ = .ok outdatedFile := by
    decide +kernel
  have hopen :
      (outdatedFile.openGraph javaMachine outdatedStore).1 = .ok outdatedServices.host := by
    decide +kernel
  have hrun : (GenerateReport.generate outdatedServices ⟨⟨"index.scip"⟩, ⟨"/ws/out"⟩, false⟩ false
      ⟨outdatedStore, (), []⟩).1 = .ok outdatedReport := by
    decide +kernel
  have hinfo : (ofFile outdatedFile).foretellsDetection = true := by decide +kernel
  have hplace : outdatedStore.workingPath = ⟨"/ws"⟩ := by decide +kernel
  have hsome : outdatedReport.skipped ≠ [] := List.cons_ne_nil _ _
  rcases hopened : outdatedFile.openGraph javaMachine outdatedStore with ⟨opened, asked⟩
  rcases hended :
      GenerateReport.generate outdatedServices ⟨⟨"index.scip"⟩, ⟨"/ws/out"⟩, false⟩ false
    ⟨outdatedStore, (), []⟩ with ⟨result, after⟩
  rw [hopened] at hopen
  rw [hended] at hrun
  obtain rfl : opened = _ := hopen
  obtain rfl : result = _ := hrun
  obtain ⟨-, hskips, -, -, started, hcalls, hstarted, hjava⟩ :=
    ofFile_comes_true hread hopened hended
  refine ⟨hread, rfl, rfl, hskips.2 hsome, hinfo, ?_⟩
  rw [hcalls, hjava (hstarted.1 hinfo), hplace]
  rfl

end WorkspaceIndex
