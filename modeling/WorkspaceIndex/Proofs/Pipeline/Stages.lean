import WorkspaceIndex.Pipeline.Run
import WorkspaceIndex.Proofs.Pipeline.Modules
/-!
# The stages of a plain run

A plain run is that of a pipeline without hooks and without added phases. It has four stages, and
`run_eq` says in one place how they hang together: the format, the modules, the index, and the first
of these to fail is the end. Aggregating the classpath is the fourth stage and cannot fail. Between
the modules and the index everything is gathered in one context, which is known from the plans and
the files alone (`gathered`).
-/

namespace WorkspaceIndex

variable {ε : Type}

/-! ### Building the index -/

namespace Phase

variable {services : Services ε} {c : Context} {format : OutputFormat}
  {classpath : List ClasspathEntry} {w after : World ε}

/-- The call of the indexer for a context, when the classpath file holds `classpath`. -/
def indexCall (host : HostGraph) (c : Context) (format : OutputFormat)
    (classpath : List ClasspathEntry) : Event :=
  .indexed (indexRequest host c format classpath) (some (IndexRequest.classpathText classpath))

/-- The indexer finds the classpath file as it was written right before. -/
theorem classpathFileOf_indexRequest {files : FileStore}
    (h : files.readText (IndexRequest.classpathFile c.options.destination) =
      .ok (IndexRequest.classpathText classpath)) :
    Run.classpathFileOf files (indexRequest services.host c format classpath) =
      some (IndexRequest.classpathText classpath) := by
  show (files.readText (IndexRequest.classpathFile c.options.destination)).toOption = _
  rw [h]
  rfl

/-- An index that was built took one call, and the classpath file was written for it. -/
theorem buildIndex_eq_ok {output : Path}
    (h : buildIndex services c format classpath w = .ok output after) :
    output = c.options.destination.join c.options.output ∧
      after.calls = w.calls ++ [indexCall services.host c format classpath] := by
  obtain ⟨_, written, hwrite, hrest⟩ := bind_eq_ok.1 h
  obtain ⟨_, indexed, hindex, hend⟩ := bind_eq_ok.1 hrest
  cases hend
  obtain ⟨hcalls, hread⟩ := Run.writeFile_eq_ok w hwrite
  have hadvances :=
    Run.index_advances services written (indexRequest services.host c format classpath)
  rw [hindex, leaves_ok, classpathFileOf_indexRequest hread] at hadvances
  exact ⟨rfl, by rw [hadvances.calls_eq, hcalls, indexCall]⟩

/-- Where no index was built, either the classpath file could not be written, and the indexer was
not called, or it was written and the indexer was called and failed. -/
theorem buildIndex_eq_error {failure : Failure}
    (h : buildIndex services c format classpath w = .error failure after) :
    (Run.writeFile (IndexRequest.classpathFile c.options.destination)
          (IndexRequest.classpathText classpath) w = .error failure after ∧ w.Advances after []) ∨
      (after.calls = w.calls ++ [indexCall services.host c format classpath] ∧
        after.files.readText (IndexRequest.classpathFile c.options.destination) =
          .ok (IndexRequest.classpathText classpath) ∧
        ∃ outside, (services.index (indexRequest services.host c format classpath) after.files
          outside).1.result = .error failure) := by
  rcases bind_eq_error.1 h with hwrite | ⟨_, written, hwrite, hrest⟩
  · exact Or.inl ⟨hwrite, Run.writeFile_eq_error w hwrite⟩
  · rcases bind_eq_error.1 hrest with hindex | ⟨_, _, -, hend⟩
    · obtain ⟨hcalls, hread⟩ := Run.writeFile_eq_ok w hwrite
      have hadvances :=
        Run.index_advances services written (indexRequest services.host c format classpath)
      have hfiles :=
        Run.files_index services written (indexRequest services.host c format classpath)
      rw [hindex, leaves_error] at hadvances hfiles
      rw [classpathFileOf_indexRequest hread] at hadvances
      refine Or.inr ⟨by rw [hadvances.calls_eq, hcalls, indexCall], by rw [hfiles, hread],
        written.outside, ?_⟩
      rw [hfiles]
      exact Run.index_eq_error services written hindex
    · cases hend

/-- What the last phase comes to, by what it finds in the context. -/
theorem index_run (services : Services ε) (t : Session ε) :
    (index services).run t =
      match t.context.format, t.context.classpath with
      | none, _ => .error .formatNotSet t
      | some _, none => .error .classpathNotSet t
      | some format, some classpath =>
        match buildIndex services t.context format classpath t.world with
        | .error failure world => .error failure { t with world }
        | .ok output world =>
          .ok () { t with context := { t.context with index := some output }, world } := by
  simp only [index]
  rw [bind_of_ok (Session.currentContext_eq t)]
  rcases hformat : t.context.format with - | format
  · rfl
  · rcases hclasspath : t.context.classpath with - | classpath
    · rfl
    · show (Session.inWorld (buildIndex services t.context format classpath) >>= _) t = _
      rcases hbuild : buildIndex services t.context format classpath t.world
        with ⟨output, w⟩ | ⟨failure, w⟩
      · rw [bind_of_ok (Session.inWorld_eq_ok.2 ⟨w, hbuild, rfl⟩)]
        simp only [hbuild]
        rw [← hformat, ← hclasspath]
        rfl
      · rw [bind_of_error (Session.inWorld_eq_error.2 ⟨w, hbuild, rfl⟩)]
        simp only [hbuild]

end Phase

namespace Pipeline

/-! ### The four stages -/

/-- Without hooks a phase is just run. -/
theorem runPhase_plain (phase : Phase ε) : ({} : Pipeline ε).runPhase phase = phase.run := by
  show (pure () >>= fun _ ↦ phase.run >>= fun _ ↦ pure ()) = phase.run
  rw [pure_bind, bind_pure_unit]

/-- A plain run is its four phases. -/
theorem run_plain (services : Services ε) (options : GenerateOptions) (world : World ε) :
    ({} : Pipeline ε).run services options world =
      (Phase.resolveFormat.run >>= fun _ ↦ (Phase.compile services).run >>= fun _ ↦
        (Phase.aggregate services).run >>= fun _ ↦ (Phase.index services).run)
        (start options world) := by
  show ({} : Pipeline ε).runPhases (Phase.builtin services ++ []) (start options world) = _
  simp only [Phase.builtin, List.append_nil, runPhases, runPhase_plain, bind_pure_unit]

/-- The session after the format was resolved. -/
def resolved (options : GenerateOptions) (format : OutputFormat) (world : World ε) : Session ε :=
  { context := { options, format := some format }, world }

/-- The context from which the index is built, by the plans of the modules and the files that the
packages are read from. -/
def gathered (services : Services ε) (options : GenerateOptions) (format : OutputFormat)
    (plans : List Plan) (files : FileStore) : Context where
  options := options
  format := some format
  plans := plans
  compiled := (services.host.modules.zip plans).filterMap Planned.compiled?
  classpath := some (Classpath.aggregate files options.dedupClasspath services.host.modules)
  diagnostics := (services.host.modules.zip plans).filterMap Planned.warning?

theorem resolveFormat_run {options : GenerateOptions} {format : OutputFormat} (world : World ε)
    (h : Phase.resolvedFormat options.output = .ok format) :
    Phase.resolveFormat.run (start options world) = .ok () (resolved options format world) := by
  have hformat : Session.inWorld (Run.ofExcept (Phase.resolvedFormat options.output))
      (start options world) = .ok format (start options world) := by
    rw [h]
    rfl
  simp only [Phase.resolveFormat]
  rw [bind_of_ok (Session.currentContext_eq _)]
  simp only [start] at hformat ⊢
  rw [bind_of_ok hformat]
  rfl

theorem resolveFormat_run_error {options : GenerateOptions} {failure : Failure} (world : World ε)
    (h : Phase.resolvedFormat options.output = .error failure) :
    Phase.resolveFormat.run (start options world) = .error failure (start options world) := by
  have hformat : Session.inWorld (Run.ofExcept (Phase.resolvedFormat options.output))
      (start options world) = .error failure (start options world) := by
    rw [h]
    rfl
  simp only [Phase.resolveFormat]
  rw [bind_of_ok (Session.currentContext_eq _)]
  simp only [start] at hformat ⊢
  rw [bind_of_error hformat]

/-- Compiling and aggregating go together: when all modules have gone through, the context is
complete but for the index. -/
theorem compile_aggregate_run {services : Services ε} {options : GenerateOptions}
    {format : OutputFormat} {world : World ε} {plans : List Plan} {after : Session ε}
    (h : Phase.processModules services options.destination services.host.modules
      (resolved options format world) = .ok plans after) :
    ((Phase.compile services).run >>= fun _ ↦ (Phase.aggregate services).run)
        (resolved options format world) =
      .ok () { context := gathered services options format plans after.world.files
               world := after.world } := by
  have hcompile : (Phase.compile services).run (resolved options format world) =
      .ok () { after with context := after.context.addPlans plans } := by
    simp only [Phase.compile]
    rw [bind_of_ok (Session.currentContext_eq _)]
    simp only [resolved] at h ⊢
    rw [bind_of_ok h]
    rfl
  obtain ⟨-, -, hafter⟩ := Phase.processModules_eq_ok h
  rw [bind_of_ok hcompile, hafter]
  rfl

theorem compile_run_error {services : Services ε} {options : GenerateOptions}
    {format : OutputFormat} {world : World ε} {failure : Failure} {after : Session ε}
    (h : Phase.processModules services options.destination services.host.modules
      (resolved options format world) = .error failure after) :
    (Phase.compile services).run (resolved options format world) = .error failure after := by
  simp only [Phase.compile]
  rw [bind_of_ok (Session.currentContext_eq _)]
  simp only [resolved] at h ⊢
  rw [bind_of_error h]

theorem index_run (services : Services ε) (options : GenerateOptions) (format : OutputFormat)
    (plans : List Plan) (files : FileStore) (world : World ε) :
    (Phase.index services).run { context := gathered services options format plans files, world } =
      match Phase.buildIndex services (gathered services options format plans files) format
          (Classpath.aggregate files options.dedupClasspath services.host.modules) world with
      | .error failure w =>
        .error failure { context := gathered services options format plans files, world := w }
      | .ok output w =>
        .ok () { context := { gathered services options format plans files with
                              index := some output }
                 world := w } := by
  exact Phase.index_run services _

/-- **A plain run in one equation.** The stages are those of the phases; what one leaves is where
the next starts, and the first failure is that of the run. -/
theorem run_eq (services : Services ε) (options : GenerateOptions) (world : World ε) :
    ({} : Pipeline ε).run services options world =
      match Phase.resolvedFormat options.output with
      | .error failure => .error failure (start options world)
      | .ok format =>
        match Phase.processModules services options.destination services.host.modules
            (resolved options format world) with
        | .error failure after => .error failure after
        | .ok plans after =>
          let c := gathered services options format plans after.world.files
          let classpath :=
            Classpath.aggregate after.world.files options.dedupClasspath services.host.modules
          match Phase.buildIndex services c format classpath after.world with
          | .error failure w => .error failure { context := c, world := w }
          | .ok output w => .ok () { context := { c with index := some output }, world := w } := by
  rw [run_plain]
  rcases hformat : Phase.resolvedFormat options.output with failure | format
  · rw [bind_of_error (resolveFormat_run_error world hformat)]
  · rw [bind_of_ok (resolveFormat_run world hformat)]
    rcases hmodules : Phase.processModules services options.destination services.host.modules
      (resolved options format world) with ⟨plans, after⟩ | ⟨failure, after⟩
    · rw [← bind_assoc, bind_of_ok (compile_aggregate_run hmodules), index_run]
      simp only [hmodules]
    · rw [bind_of_error (compile_run_error hmodules)]
      simp only [hmodules]

/-- What a run that ended well consists of. -/
theorem run_eq_ok {services : Services ε} {options : GenerateOptions} {world : World ε}
    {s : Session ε} (h : ({} : Pipeline ε).run services options world = .ok () s) :
    ∃ format plans after output,
      Phase.resolvedFormat options.output = .ok format ∧
      Phase.processModules services options.destination services.host.modules
        (resolved options format world) = .ok plans after ∧
      Phase.buildIndex services (gathered services options format plans after.world.files) format
        (Classpath.aggregate after.world.files options.dedupClasspath services.host.modules)
        after.world = .ok output s.world ∧
      s.context = { gathered services options format plans after.world.files with
                    index := some output } := by
  rw [run_eq] at h
  split at h
  · cases h
  · rename_i format hformat
    split at h
    · cases h
    · rename_i plans after hmodules
      simp only at h
      split at h
      · cases h
      · rename_i output w hindex
        cases h
        exact ⟨format, plans, after, output, hformat, hmodules, hindex, rfl⟩

/-- The three places where a run can stop. -/
theorem run_eq_error {services : Services ε} {options : GenerateOptions} {world : World ε}
    {failure : Failure} {s : Session ε}
    (h : ({} : Pipeline ε).run services options world = .error failure s) :
    (Phase.resolvedFormat options.output = .error failure ∧ s = start options world) ∨
      ∃ format, Phase.resolvedFormat options.output = .ok format ∧
        (Phase.processModules services options.destination services.host.modules
            (resolved options format world) = .error failure s ∨
          ∃ plans after,
            Phase.processModules services options.destination services.host.modules
              (resolved options format world) = .ok plans after ∧
            Phase.buildIndex services (gathered services options format plans after.world.files)
              format (Classpath.aggregate after.world.files options.dedupClasspath
                services.host.modules) after.world = .error failure s.world) := by
  rw [run_eq] at h
  split at h
  · rename_i hformat
    cases h
    exact Or.inl ⟨hformat, rfl⟩
  · rename_i format hformat
    refine Or.inr ⟨format, hformat, ?_⟩
    split at h
    · rename_i hmodules
      cases h
      exact Or.inl hmodules
    · rename_i plans after hmodules
      simp only at h
      split at h
      · rename_i hindex
        cases h
        exact Or.inr ⟨plans, after, hmodules, hindex⟩
      · cases h

end Pipeline

end WorkspaceIndex
