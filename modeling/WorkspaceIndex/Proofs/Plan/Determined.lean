import WorkspaceIndex.Proofs.Plan.Build
/-!
# What plans depend on

A fetcher may keep a state, so the plan of a module depends on what was fetched before. It depends
on nothing else that happens in a run, if the fetcher does not: `Services.FetchesBy view` says that
answers are determined by a part of the state of the collaborators, its *view*, which is moved by
fetches and by no compiler.

Two runs of one computation *agree* if they end in the same way and in the same view. Planning is
`Steady`: started in worlds with the same view it agrees, whatever else these worlds hold, and this
is put together from the steps that planning is made of (`steady_build`).
-/

namespace WorkspaceIndex

variable {ε φ α β : Type}

/-- Collaborators whose fetcher answers by a view of their state, which fetches move and compilers
leave as it is. So its answers depend on the view at the start and on the fetches made since. -/
structure Services.FetchesBy (services : Services ε) (view : ε → φ) : Prop where
  answer_eq : ∀ (plugin : Plugin) (files files' : FileStore) {e e' : ε}, view e = view e' →
    (services.fetch plugin files e).1 = (services.fetch plugin files' e').1
  view_fetch : ∀ (plugin : Plugin) (files files' : FileStore) {e e' : ε}, view e = view e' →
    view (services.fetch plugin files e).2 = view (services.fetch plugin files' e').2
  view_compile : ∀ (call : CompileCall) (files : FileStore) (e : ε),
    view (services.compile call files e).2 = view e

/-! ### Runs that agree -/

namespace Run

/-- Two ends of a computation are the same but for worlds, and these have the same view. -/
inductive Agree (view : ε → φ) :
    EStateM.Result Failure (World ε) α → EStateM.Result Failure (World ε) α → Prop
  | ok {a : α} {w w' : World ε} (h : view w.outside = view w'.outside) :
      Agree view (.ok a w) (.ok a w')
  | error {failure : Failure} {w w' : World ε} (h : view w.outside = view w'.outside) :
      Agree view (.error failure w) (.error failure w')

variable {view : ε → φ}

theorem Agree.exists_ok {result : EStateM.Result Failure (World ε) α} {a : α} {w : World ε}
    (h : Agree view (.ok a w) result) :
    ∃ w', result = .ok a w' ∧ view w.outside = view w'.outside := by
  cases h with
  | ok h => exact ⟨_, rfl, h⟩

theorem Agree.exists_error {result : EStateM.Result Failure (World ε) α} {failure : Failure}
    {w : World ε} (h : Agree view (.error failure w) result) :
    ∃ w', result = .error failure w' ∧ view w.outside = view w'.outside := by
  cases h with
  | error h => exact ⟨_, rfl, h⟩

/-- A computation that agrees with itself from any two worlds with the same view. -/
def Steady (view : ε → φ) (run : Run ε α) : Prop :=
  ∀ ⦃w w' : World ε⦄, view w.outside = view w'.outside → Agree view (run w) (run w')

theorem steady_pure (a : α) : Steady view (pure a : Run ε α) := fun _ _ h ↦ .ok h

theorem steady_throw (failure : Failure) : Steady view (throw failure : Run ε α) :=
  fun _ _ h ↦ .error h

theorem Steady.bind {x : Run ε α} {f : α → Run ε β} (hx : Steady view x)
    (hf : ∀ a, Steady view (f a)) : Steady view (x >>= f) := by
  intro w w' h
  have hagree := hx h
  rcases hend : x w with ⟨a, after⟩ | ⟨failure, after⟩
  · rw [hend] at hagree
    obtain ⟨after', hend', hafter⟩ := hagree.exists_ok
    rw [bind_of_ok hend, bind_of_ok hend']
    exact hf a hafter
  · rw [hend] at hagree
    obtain ⟨after', hend', hafter⟩ := hagree.exists_error
    rw [bind_of_error hend, bind_of_error hend']
    exact .error hafter

theorem steady_notice (n : Notice) : Steady view (notice n : Run ε Unit) := fun _ _ h ↦ .ok h

/-- A fetch agrees as the fetcher answers by the view. -/
theorem steady_fetch {services : Services ε} (hfetch : services.FetchesBy view)
    (plugin : Plugin) : Steady view (fetch services plugin) := by
  intro w w' h
  have hanswer := hfetch.answer_eq plugin w.files w'.files h
  have hview := hfetch.view_fetch plugin w.files w'.files h
  simp only [fetch, ← hanswer]
  rcases (services.fetch plugin w.files w.outside).1 with failure | jars
  · exact .error hview
  · exact .ok hview

end Run

namespace Plan

open Run (Steady)

variable {services : Services ε} {view : ε → φ} {destination : Path}

/-! ### One plan -/

theorem steady_buildScala2 (hfetch : services.FetchesBy view) (m : Module) :
    Steady view (buildScala2 services destination m) := by
  unfold buildScala2
  rcases m.scalaVersion with - | version
  · exact Run.steady_throw _
  · refine (Run.steady_fetch hfetch _).bind fun jars ↦ ?_
    rcases pluginJar? jars with - | plugin
    · exact Run.steady_throw _
    · exact Run.steady_pure _

theorem steady_buildJava (hfetch : services.FetchesBy view) (m : Module) :
    Steady view (buildJava services destination m) := by
  unfold buildJava
  rcases javaSkipReason? services.host with - | reason
  · refine (Run.steady_fetch hfetch _).bind fun jars ↦ ?_
    rcases services.host.runtimeVersion with - | release
    · exact (Run.steady_notice _).bind fun _ ↦ Run.steady_pure _
    · exact Run.steady_pure _
  · exact (Run.steady_notice _).bind fun _ ↦ Run.steady_pure _

/-- **A plan depends on the view of the fetcher and on nothing else in the world.** -/
theorem steady_build (hfetch : services.FetchesBy view) (m : Module) :
    Steady view (build services destination m) := by
  unfold build
  cases m.variant with
  | scala3 => exact Run.steady_pure _
  | scala2 => exact steady_buildScala2 hfetch m
  | java => exact steady_buildJava hfetch m

/-! ### All plans -/

/-- Plans modules one after the other. -/
def buildAll (services : Services ε) (destination : Path) : List Module → Run ε (List Plan)
  | [] => pure []
  | m :: rest => do
    let plan ← build services destination m
    let plans ← buildAll services destination rest
    return plan :: plans

theorem buildAll_cons_eq_ok {m : Module} {rest : List Module} {plans : List Plan}
    {w after : World ε} :
    buildAll services destination (m :: rest) w = .ok plans after ↔
      ∃ plan others between, build services destination m w = .ok plan between ∧
        buildAll services destination rest between = .ok others after ∧ plans = plan :: others := by
  constructor
  · intro h
    obtain ⟨plan, between, hplan, hrest⟩ := bind_eq_ok.1 h
    obtain ⟨others, _, hothers, hend⟩ := bind_eq_ok.1 hrest
    cases hend
    exact ⟨plan, others, between, hplan, hothers, rfl⟩
  · rintro ⟨plan, others, between, hplan, hothers, rfl⟩
    exact bind_eq_ok.2 ⟨plan, between, hplan, bind_eq_ok.2 ⟨others, after, hothers, rfl⟩⟩

/-- Where planning fails, the modules in front of the one that fails have plans. -/
theorem buildAll_eq_error {modules : List Module} {failure : Failure} {after : World ε} :
    ∀ {w : World ε}, buildAll services destination modules w = .error failure after →
      ∃ done m rest plans between, modules = done ++ m :: rest ∧
        buildAll services destination done w = .ok plans between ∧
        build services destination m between = .error failure after := by
  induction modules with
  | nil =>
    intro w h
    cases h
  | cons m rest ih =>
    intro w h
    rcases bind_eq_error.1 h with hfirst | ⟨plan, between, hfirst, hrest⟩
    · exact ⟨[], m, rest, [], w, rfl, rfl, hfirst⟩
    · rcases bind_eq_error.1 hrest with hothers | ⟨_, _, -, hend⟩
      · obtain ⟨done, k, behind, plans, reached, rfl, hdone, hfails⟩ := ih hothers
        exact ⟨m :: done, k, behind, plan :: plans, reached, rfl,
          buildAll_cons_eq_ok.2 ⟨plan, plans, between, hfirst, hdone, rfl⟩, hfails⟩
      · cases hend

/-- Planning modules fetches for each what it needs, in order, and does nothing else. -/
theorem buildAll_advances {modules : List Module} :
    ∀ {plans : List Plan} {w after : World ε},
      buildAll services destination modules w = .ok plans after →
        w.Advances after (modules.flatMap (fetches services.host)) := by
  induction modules with
  | nil =>
    intro plans w after h
    cases h
    exact .refl w
  | cons m rest ih =>
    intro plans w after h
    obtain ⟨plan, others, between, hplan, hothers, rfl⟩ := buildAll_cons_eq_ok.1 h
    have hfetches := build_advances services destination w m
    rw [hplan, leaves_ok] at hfetches
    exact hfetches.trans (ih hothers)

end Plan

end WorkspaceIndex
