import WorkspaceIndex.Proofs.Pipeline.SilentHooks
/-!
# Phases in any order

The built-in phases can be run one by one, in any order, again and again, and on after a failure.
All that one run of a phase tells another is in the session that it leaves. So whether a phase can
do without another one is the question of what it looks at there.

The last phase looks at two flags, the format and the classpath. A flag that one phase sets and
nothing else touches tells exactly whether that phase has ended well before (`flag_reached_iff`),
which makes the index need the format and the classpath, and nothing else (`endsWell_index_iff`).
That the modules were compiled leaves no flag: an index is built without (`index_without_compile`).
-/

namespace WorkspaceIndex

variable {ε : Type}

/-- A built-in phase. -/
inductive Stage where
  | resolveFormat
  | compile
  | aggregate
  | index
  deriving DecidableEq, Repr

namespace Stage

/-- The phase of a stage. -/
def phase (services : Services ε) : Stage → Phase ε
  | .resolveFormat => Phase.resolveFormat
  | .compile => Phase.compile services
  | .aggregate => Phase.aggregate services
  | .index => Phase.index services

/-- What is left by an attempt at a stage, whether it fails or not. -/
def leave (services : Services ε) (s : Session ε) (stage : Stage) : Session ε :=
  leaves ((stage.phase services).run s)

/-- The session that is reached by attempts in a row. -/
def reached (services : Services ε) (stages : List Stage) (s : Session ε) : Session ε :=
  stages.foldl (leave services) s

/-- A stage has ended well at some place in a row of attempts. -/
def EndedWell (services : Services ε) (stages : List Stage) (s : Session ε) (stage : Stage) :
    Prop :=
  ∃ before after, stages = before ++ stage :: after ∧
    endsWell ((stage.phase services).run (reached services before s)) = true

variable {services : Services ε} {s : Session ε}

theorem reached_concat (stages : List Stage) (stage : Stage) :
    reached services (stages ++ [stage]) s = leave services (reached services stages s) stage := by
  rw [reached, List.foldl_concat, reached]

theorem endedWell_concat_iff {stages : List Stage} {stage other : Stage} :
    EndedWell services (stages ++ [other]) s stage ↔
      EndedWell services stages s stage ∨
        (other = stage ∧
          endsWell ((stage.phase services).run (reached services stages s)) = true) := by
  constructor
  · rintro ⟨before, after, hsplit, hends⟩
    rcases List.eq_nil_or_concat after with rfl | ⟨front, last, rfl⟩
    · obtain ⟨rfl, hlast⟩ := List.append_inj' hsplit rfl
      cases hlast
      exact Or.inr ⟨rfl, hends⟩
    · rw [List.concat_eq_append, ← List.cons_append, ← List.append_assoc] at hsplit
      obtain ⟨rfl, -⟩ := List.append_inj' hsplit rfl
      exact Or.inl ⟨before, front, rfl, hends⟩
  · rintro (⟨before, after, rfl, hends⟩ | ⟨rfl, hends⟩)
    · exact ⟨before, after ++ [other], by simp, hends⟩
    · exact ⟨stages, [], rfl, hends⟩

/-- **A flag tells that a stage has ended well**, if that stage sets it whenever it does, and
nothing else sets it or takes it back. -/
theorem flag_reached_iff {flag : Session ε → Prop} {stage : Stage} (hstart : ¬ flag s)
    (hstep : ∀ (other : Stage) (t : Session ε), flag (leave services t other) ↔
      flag t ∨ (other = stage ∧ endsWell ((stage.phase services).run t) = true))
    (stages : List Stage) :
    flag (reached services stages s) ↔ EndedWell services stages s stage := by
  induction stages using List.reverseRecOn with
  | nil =>
    refine iff_of_false hstart ?_
    rintro ⟨before, after, hsplit, -⟩
    exact List.append_ne_nil_of_right_ne_nil _ (List.cons_ne_nil _ _) hsplit.symm
  | append_singleton stages other ih => rw [reached_concat, hstep, ih, endedWell_concat_iff]

/-! ### What the stages leave in the context -/

section Leave

variable (services) (t : Session ε)

/-- Compiling fills in what is known of the modules, however it ends. -/
theorem context_leave_compile :
    ∃ plans compiled diagnostics, (leave services t .compile).context =
      { t.context with plans, compiled, diagnostics } := by
  rw [leave, phase]
  rcases hend : (Phase.compile services).run t with ⟨⟨⟩, u⟩ | ⟨failure, u⟩
  · obtain ⟨plans, u, hmodules, rfl⟩ := Phase.compile_eq_ok hend
    obtain ⟨-, -, hu⟩ := Phase.processModules_eq_ok hmodules
    rw [leaves_ok, hu]
    exact ⟨_, _, _, rfl⟩
  · obtain ⟨done, m, rest, plans, between, -, hdone, hfails⟩ :=
      Phase.processModules_eq_error (Phase.compile_eq_error hend)
    obtain ⟨-, -, hbetween⟩ := Phase.processModules_eq_ok hdone
    -- the module that fails leaves the context as those in front of it have left it
    have hkept : u.context = between.context := by
      rcases Phase.processModule_eq_error hfails with ⟨w, -, rfl⟩ | ⟨_, _, _, -, -, rfl⟩ <;> rfl
    rw [leaves_error, hkept, hbetween]
    exact ⟨_, _, _, rfl⟩

/-- Building the index fills in the index, if it ends well. -/
theorem context_leave_index :
    ∃ index, (leave services t .index).context = { t.context with index } := by
  rw [leave, phase]
  rcases hend : (Phase.index services).run t with ⟨⟨⟩, u⟩ | ⟨failure, u⟩
  · obtain ⟨_, _, output, _, -, -, -, rfl⟩ := Phase.index_eq_ok hend
    exact ⟨some output, rfl⟩
  · rcases Phase.index_eq_error hend with rfl | ⟨_, _, _, -, rfl⟩ <;> exact ⟨_, rfl⟩

/-- Resolving the format fills it in if it ends well, and else leaves everything as it is. -/
theorem context_leave_resolveFormat :
    (endsWell ((resolveFormat.phase services).run t) = true ∧
        ∃ format, (leave services t .resolveFormat).context =
          { t.context with format := some format }) ∨
      (endsWell ((resolveFormat.phase services).run t) = false ∧
        (leave services t .resolveFormat).context = t.context) := by
  rw [leave, phase]
  rcases hend : Phase.resolveFormat.run t with ⟨⟨⟩, u⟩ | ⟨failure, u⟩
  · obtain ⟨format, -, rfl⟩ := Phase.resolveFormat_eq_ok hend
    exact Or.inl ⟨rfl, format, rfl⟩
  · rw [Phase.resolveFormat_eq_error hend]
    exact Or.inr ⟨rfl, rfl⟩

/-- Aggregating cannot fail, and fills in the classpath. -/
theorem aggregate_run :
    (aggregate.phase services).run t = .ok () { t with context := { t.context with
      classpath := some (Classpath.aggregate t.world.files t.context.options.dedupClasspath
        services.host.modules) } } := rfl

end Leave

/-! ### The two flags -/

section Flags

variable (services : Services ε) (options : GenerateOptions) (world : World ε)
  (stages : List Stage)

/-- A format is there exactly where it was resolved before. -/
theorem isSome_format_reached_iff :
    (reached services stages (Pipeline.start options world)).context.format.isSome = true ↔
      EndedWell services stages (Pipeline.start options world) .resolveFormat := by
  refine @flag_reached_iff _ services (Pipeline.start options world)
    (fun t ↦ t.context.format.isSome = true) _ Bool.false_ne_true (fun other t ↦ ?_) stages
  cases other with
  | resolveFormat =>
    rcases context_leave_resolveFormat services t with ⟨hends, format, hcontext⟩ | ⟨hends, hcontext⟩
      <;> simp [hcontext, hends]
  | compile =>
    obtain ⟨_, _, _, hcontext⟩ := context_leave_compile services t
    simp [hcontext]
  | aggregate => simp [leave, aggregate_run]
  | index =>
    obtain ⟨_, hcontext⟩ := context_leave_index services t
    simp [hcontext]

/-- A classpath is there exactly where it was aggregated before. -/
theorem isSome_classpath_reached_iff :
    (reached services stages (Pipeline.start options world)).context.classpath.isSome = true ↔
      EndedWell services stages (Pipeline.start options world) .aggregate := by
  refine @flag_reached_iff _ services (Pipeline.start options world)
    (fun t ↦ t.context.classpath.isSome = true) _ Bool.false_ne_true (fun other t ↦ ?_) stages
  cases other with
  | resolveFormat =>
    rcases context_leave_resolveFormat services t with ⟨-, format, hcontext⟩ | ⟨-, hcontext⟩
      <;> simp [hcontext]
  | compile =>
    obtain ⟨_, _, _, hcontext⟩ := context_leave_compile services t
    simp [hcontext]
  | aggregate => simp [leave, aggregate_run, endsWell]
  | index =>
    obtain ⟨_, hcontext⟩ := context_leave_index services t
    simp [hcontext]

end Flags

/-! ### The last phase -/

/-- **What the last phase needs of the others**: after any attempts at stages, in any order and
however they ended, it ends well exactly where the format was resolved, the classpath was aggregated
and the index can be built from what is there. Else it says which of the two is missing, and leaves
everything as it is. Whether the modules were compiled is not asked. -/
theorem endsWell_index_iff (services : Services ε) (options : GenerateOptions) (world : World ε)
    (stages : List Stage) :
    (endsWell ((index.phase services).run
          (reached services stages (Pipeline.start options world))) = true ↔
      EndedWell services stages (Pipeline.start options world) .resolveFormat ∧
        EndedWell services stages (Pipeline.start options world) .aggregate ∧
        ∃ format classpath,
          (reached services stages (Pipeline.start options world)).context.format = some format ∧
          (reached services stages (Pipeline.start options world)).context.classpath =
            some classpath ∧
          endsWell (Phase.buildIndex services
            (reached services stages (Pipeline.start options world)).context format classpath
            (reached services stages (Pipeline.start options world)).world) = true) ∧
      (¬ EndedWell services stages (Pipeline.start options world) .resolveFormat →
        (index.phase services).run (reached services stages (Pipeline.start options world)) =
          .error .formatNotSet (reached services stages (Pipeline.start options world))) ∧
      (EndedWell services stages (Pipeline.start options world) .resolveFormat →
        ¬ EndedWell services stages (Pipeline.start options world) .aggregate →
          (index.phase services).run (reached services stages (Pipeline.start options world)) =
            .error .classpathNotSet (reached services stages (Pipeline.start options world))) := by
  have hresolved := isSome_format_reached_iff services options world stages
  have haggregated := isSome_classpath_reached_iff services options world stages
  set t := reached services stages (Pipeline.start options world)
  rw [phase, Phase.index_run, ← hresolved, ← haggregated]
  rcases t.context.format with - | format
  · simp [endsWell]
  · rcases t.context.classpath with - | classpath
    · simp [endsWell]
    · rcases hbuild : Phase.buildIndex services t.context format classpath t.world
        with ⟨output, w⟩ | ⟨failure, w⟩ <;> simp [endsWell, hbuild]

/-- Over a build with Scala modules and with collaborators that never fail, an index is built before
anything was compiled. It is one for Java. -/
theorem index_without_compile :
    let services : Services Unit := .stateless Pipeline.mixedHost
      (fun _ ↦ .ok [⟨"/cache/plugin.jar"⟩]) (fun _ ↦ {}) fun _ ↦ {}
    let start := Pipeline.start ⟨⟨"index.scip"⟩, ⟨"/ws/out"⟩, false⟩ Pipeline.emptyWorkspace
    let t := reached services [.resolveFormat, .aggregate] start
    ¬ EndedWell services [.resolveFormat, .aggregate] start .compile ∧
      endsWell ((index.phase services).run t) = true ∧
      (leave services t .index).context.compiled = [] ∧
      ((leave services t .index).world.calls.filterMap Event.indexRequest?).map
        IndexRequest.language = [.java] := by
  refine ⟨?_, by decide +kernel, by decide +kernel, by decide +kernel⟩
  rintro ⟨before, after, hsplit, -⟩
  have hmem : Stage.compile ∈ [Stage.resolveFormat, .aggregate] := hsplit ▸ by simp
  exact absurd hmem (by decide)

end Stage

end WorkspaceIndex
