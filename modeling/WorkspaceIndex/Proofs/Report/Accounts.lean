import Mathlib.Algebra.GroupWithZero.Nat
import WorkspaceIndex.Proofs.Pipeline.Aggregate
import WorkspaceIndex.Proofs.Report.Prediction
/-!
# The accounts of a run

The numbers of a report are read off parts of the context that different phases have filled in:
plans and warnings by compiling, the classpath by aggregating, the index by the last phase. They
agree because every plan that skips its module comes with one warning (`length_warnings`) and
because the indexer is given the same classpath that the report counts
(`Pipeline.Silent.run_indexed`).

The modules of the build are shared out among those that are compiled, those that are skipped and
those that have nothing to compile (`HostGraph.SharedOut`).
-/

namespace WorkspaceIndex

/-! ### Modules that are shared out -/

/-- Three lists of modules that are those of a build, each in its order there: modules that are
compiled, modules that are skipped, and modules that are left since they have no sources. -/
structure HostGraph.SharedOut (host : HostGraph) (compiled skipped idle : List Module) : Prop where
  perm : (compiled ++ skipped ++ idle).Perm host.modules
  compiled_sublist : compiled.Sublist host.modules
  skipped_sublist : skipped.Sublist host.modules
  idle_sublist : idle.Sublist host.modules
  of_compiled : ∀ m ∈ compiled, m.isSkippedBy host = false ∧ m.sources ≠ []
  of_skipped : ∀ m ∈ skipped, m.isSkippedBy host = true
  of_idle : ∀ m ∈ idle, m.isSkippedBy host = false ∧ m.sources = []

/-- Whether a module is skipped, and whether it has sources, shares out the modules of a build. -/
theorem HostGraph.sharedOut_filter (host : HostGraph) :
    host.SharedOut (host.modules.filter fun m ↦ !m.sources.isEmpty && !m.isSkippedBy host)
      (host.modules.filter (Module.isSkippedBy host))
      (host.modules.filter fun m ↦ m.sources.isEmpty && !m.isSkippedBy host) where
  perm := by
    -- first by whether they are skipped, then the others by whether they have sources
    have hskipped := List.filter_append_perm (Module.isSkippedBy host) host.modules
    have hsources := List.filter_append_perm (fun m ↦ !m.sources.isEmpty)
      (host.modules.filter fun m ↦ !m.isSkippedBy host)
    simp only [List.filter_filter, Bool.not_not] at hsources
    refine (List.perm_append_comm.append_right _).trans ?_
    rw [List.append_assoc]
    exact (hsources.append_left _).trans hskipped
  compiled_sublist := List.filter_sublist
  skipped_sublist := List.filter_sublist
  idle_sublist := List.filter_sublist
  of_compiled := by simp +contextual [List.mem_filter]
  of_skipped := by simp [List.mem_filter]
  of_idle := by simp +contextual [List.mem_filter]

/-! ### Warnings and packages -/

/-- There is one warning for every plan that skips its module. -/
theorem Planned.length_warnings {modules : List Module} {plans : List Plan}
    (h : modules.length = plans.length) :
    ((modules.zip plans).filterMap Planned.warning?).countP Diagnostic.isWarning =
      (plans.filterMap Plan.skipped?).length := by
  induction modules generalizing plans with
  | nil =>
    obtain rfl := List.length_eq_zero_iff.1 h.symm
    rfl
  | cons m rest ih =>
    rcases plans with - | ⟨plan, others⟩
    · cases h
    · have hrest := ih (Nat.succ.inj h)
      cases plan with
      | compile request => exact hrest
      | skip module reason =>
        simpa [Planned.warning?, Plan.skipped?, Phase.skipWarning, Diagnostic.plain,
          Diagnostic.isWarning] using hrest

theorem Classpath.length_packages (entries : List ClasspathEntry) :
    (entries.filter fun entry ↦ entry.package.isSome).length =
      (entries.filterMap ClasspathEntry.package).length := by
  rw [List.length_filterMap_eq_countP, List.countP_eq_length_filter]

/-- A classpath has as many entries as the modules have dependencies, or fewer if it is to be
without duplicates. -/
theorem Classpath.length_aggregate (files : FileStore) (deduplicate : Bool)
    (modules : List Module) :
    (deduplicate = false → (aggregate files deduplicate modules).length =
        (modules.map fun m ↦ m.dependencies.length).sum) ∧
      (aggregate files deduplicate modules).length ≤
        (modules.map fun m ↦ m.dependencies.length).sum := by
  have hall : (dependencies modules).length = (modules.map fun m ↦ m.dependencies.length).sum :=
    List.length_flatMap
  rw [aggregate, List.length_map, ← hall]
  cases deduplicate with
  | false => exact ⟨fun _ ↦ rfl, le_rfl⟩
  | true => exact ⟨fun h ↦ (by cases h), (Path.firstSpellings_dedup _).sublist.length_le⟩

namespace GenerateReport

/-! ### Showing a report -/

/-- The warning about a module that was skipped. -/
def skipWarning (entry : String × String) : String := s!"skipped module '{entry.1}': {entry.2}"

/-- What is shown behind the warnings about skipped modules is no warning. -/
theorem exists_items_eq (r : GenerateReport) : ∃ shown,
    r.items = r.skipped.map (fun entry ↦ Report.Item.warning (skipWarning entry)) ++ shown ∧
      Report.warnings shown = [] := by
  have hcompiled : (r.compiled.map Report.Item.bullet).filterMap Report.Item.warning? = [] := by
    rw [List.filterMap_map]
    exact List.filterMap_eq_nil_iff.2 fun _ _ ↦ rfl
  have hplace : ((r.snapshotDirectory.map fun path ↦ Report.Item.indentedKeyValue "Snapshots"
      path.text).toList.filterMap Report.Item.warning?) = [] := by
    cases r.snapshotDirectory <;> rfl
  have hcount (text : String) :
      (if r.warnings = 0 then [] else [Report.Item.indentedKeyValue "Warnings" text]).filterMap
        Report.Item.warning? = [] := by
    split <;> rfl
  simp only [items, List.append_assoc]
  refine ⟨_, rfl, ?_⟩
  simp only [Report.warnings, List.filterMap_append, hcompiled, hplace, hcount, List.append_nil,
    List.filterMap_cons, List.filterMap_nil, Report.Item.warning?]

theorem warnings_prefix (r : GenerateReport) :
    r.skipped.map (fun entry ↦ Report.Item.warning (skipWarning entry)) <+: r.items := by
  obtain ⟨shown, hitems, -⟩ := r.exists_items_eq
  exact ⟨shown, hitems.symm⟩

theorem warnings_items (r : GenerateReport) :
    Report.warnings r.items = r.skipped.map skipWarning := by
  obtain ⟨shown, hitems, hshown⟩ := r.exists_items_eq
  have hskipped : (r.skipped.map fun entry ↦ Report.Item.warning (skipWarning entry)).filterMap
      Report.Item.warning? = r.skipped.map skipWarning := by
    rw [List.filterMap_map]
    exact congrFun (List.filterMap_eq_map (f := skipWarning)) r.skipped
  rw [hitems, Report.warnings, List.filterMap_append, hskipped, ← Report.warnings, hshown,
    List.append_nil]

theorem getLast?_items (r : GenerateReport) : r.items.getLast? = some (.text r.index.text) := by
  rw [items, List.getLast?_append]
  rfl

/-! ### All of it together -/

section

variable {ε : Type} {services : Services ε} {options : GenerateOptions} {visualize : Bool}
  {world world' : World ε} {report : GenerateReport}

/-- A run that ended well has called the indexer once, for as many packages as are reported, and the
index that is reported is the one that was ordered. -/
theorem indexed_of_generate
    (h : generate services options visualize world = (.ok report, world')) :
    report.warnings = report.skipped.length ∧
      ∃ files request file,
        report.classpathEntries = (Classpath.aggregate files options.dedupClasspath
          services.host.modules).length ∧
        world'.indexCalls = world.indexCalls ++ [.indexed request file] ∧
        request.packages = (Classpath.aggregate files options.dedupClasspath
          services.host.modules).filterMap ClasspathEntry.package ∧
        report.packages = request.packages.length ∧
        report.index = request.output := by
  rw [generate] at h
  rcases hrun : (pipeline (snapshotDirectoryFor visualize options.destination)).run services
    options world with ⟨⟨⟩, s⟩ | ⟨failure, s⟩
  · simp only [hrun, Prod.mk.injEq, Except.ok.injEq] at h
    obtain ⟨rfl, rfl⟩ := h
    obtain ⟨format, plans, before, after, files, -, hbefore, hmodules, hcontext, hcalls⟩ :=
      (silent_pipeline _).run_indexed hrun
    obtain ⟨hfits, hadvances, -⟩ := Phase.processModules_eq_ok hmodules
    have hindexed : s.world.indexCalls = world.indexCalls ++
        [Phase.indexCall services.host
          (Pipeline.gathered services options format plans files) format
          (Classpath.aggregate files options.dedupClasspath services.host.modules)] := by
      have hmodules : after.world.indexCalls = before.world.indexCalls :=
        World.indexCalls_of_calls hadvances.calls_eq (Planned.filterMap_indexRequest?_flatMap _ _)
      rw [World.indexCalls, hcalls, List.filter_append, ← World.indexCalls, hmodules,
        World.indexCalls, hbefore.calls_eq]
      rfl
    refine ⟨?_, files, _, _, ?_, hindexed, rfl, ?_, ?_⟩
    · rw [hcontext]
      exact Planned.length_warnings hfits.length_eq
    · rw [hcontext]
      rfl
    · rw [hcontext]
      exact Classpath.length_packages _
    · rw [hcontext]
      rfl
  · simp only [hrun, Prod.mk.injEq, reduceCtorEq, false_and] at h

/-- **The accounts of a run that ended well balance.**

The modules of the build are shared out among those that the report lists as compiled, those that it
lists as skipped, and those of the others that have no sources. There are as many warnings as
skipped modules. Without deduplication the classpath has an entry for every dependency of every
module, and with it at most as many. The indexer was called once: the report has the number of the
packages that it was given, which are no more than the entries of the classpath, and the output that
it was given.

When the report is shown, a warning for every skipped module comes before all else, there is no
other warning, and the index comes last. -/
theorem accounts_of_generate
    (h : generate services options visualize world = (.ok report, world')) :
    (∃ compiled skipped idle, services.host.SharedOut compiled skipped idle ∧
        report.compiled = compiled.map Module.name ∧
        report.skipped.map Prod.fst = skipped.map Module.name) ∧
      report.warnings = report.skipped.length ∧
      (options.dedupClasspath = false → report.classpathEntries =
        (services.host.modules.map fun m ↦ m.dependencies.length).sum) ∧
      report.classpathEntries ≤
        (services.host.modules.map fun m ↦ m.dependencies.length).sum ∧
      (∃ request file, world'.indexCalls = world.indexCalls ++ [.indexed request file] ∧
        report.packages = request.packages.length ∧
        report.packages ≤ report.classpathEntries ∧
        report.index = request.output) ∧
      report.skipped.map (fun entry ↦ Report.Item.warning (skipWarning entry)) <+: report.items ∧
      Report.warnings report.items = report.skipped.map skipWarning ∧
      report.items.getLast? = some (.text report.index.text) := by
  obtain ⟨hskipped, hcompiled⟩ := reported_of_generate h
  obtain ⟨hwarnings, files, request, file, hentries, hcalls, hrequest, hpackages, hindex⟩ :=
    indexed_of_generate h
  obtain ⟨hall, hmost⟩ :=
    Classpath.length_aggregate files options.dedupClasspath services.host.modules
  refine ⟨⟨_, _, _, services.host.sharedOut_filter, hcompiled, hskipped⟩, hwarnings,
    fun hkeep ↦ hentries.trans (hall hkeep), hentries.trans_le hmost,
    ⟨request, file, hcalls, hpackages, ?_, hindex⟩, warnings_prefix report, warnings_items report,
    getLast?_items report⟩
  rw [hpackages, hrequest, hentries]
  exact List.length_filterMap_le _ _

end

/-- Of three modules one is compiled, one is skipped with a warning, and one has nothing to
compile. -/
theorem accounts_of_generate_outdatedBuild :
    (generate outdatedServices ⟨⟨"index.scip"⟩, ⟨"/ws/out"⟩, false⟩ false
        ⟨outdatedStore, (), []⟩).1 = .ok outdatedReport ∧
      (∃ compiled skipped idle, outdatedServices.host.SharedOut compiled skipped idle ∧
        compiled.map Module.name = ["core"] ∧ skipped.map Module.name = ["app"] ∧
        idle.length = 1) ∧
      outdatedReport.warnings = 1 ∧
      outdatedReport.items.getLast? = some (.text "/ws/out/index.scip") := by
  have hrun : (generate outdatedServices ⟨⟨"index.scip"⟩, ⟨"/ws/out"⟩, false⟩ false
      ⟨outdatedStore, (), []⟩).1 = .ok outdatedReport := by
    decide +kernel
  rcases hended : generate outdatedServices ⟨⟨"index.scip"⟩, ⟨"/ws/out"⟩, false⟩ false
    ⟨outdatedStore, (), []⟩ with ⟨result, after⟩
  rw [hended] at hrun
  obtain rfl : result = _ := hrun
  obtain ⟨⟨compiled, skipped, idle, hshared, hcompiled, hskipped⟩,
    hwarnings, -, -, -, -, -, hlast⟩ :=
    accounts_of_generate hended
  have hlength : (compiled ++ skipped ++ idle).length = 3 := hshared.perm.length_eq
  have hone : compiled.length = 1 :=
    List.length_map Module.name ▸ congrArg List.length hcompiled.symm
  have hother : skipped.length = 1 :=
    List.length_map Module.name ▸ congrArg List.length hskipped.symm
  refine ⟨rfl, ⟨compiled, skipped, idle, hshared, hcompiled.symm, hskipped.symm, ?_⟩,
    hwarnings, hlast⟩
  rw [List.length_append, List.length_append, hone, hother] at hlength
  exact Nat.add_left_cancel hlength

end GenerateReport

end WorkspaceIndex
