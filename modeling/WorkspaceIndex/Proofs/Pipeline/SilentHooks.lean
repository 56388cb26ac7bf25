import WorkspaceIndex.Proofs.Pipeline.Schedule
import WorkspaceIndex.Report.Generate
/-!
# Hooks that only watch

A step is *silent* if it changes files and snapshots at most: what it leaves is `Alike` what it
found, with the same context, the same collaborators and nothing more on the trace. The hook that
takes snapshots is silent (`Hook.silent_snapshots`), so this is about every run that is made from
the command line, with snapshots or without.

A run with silent hooks is a plain one as far as anybody can tell but for the files. The stages
of a plain run are known as equations, which do not survive a hook in between; here they are
relations, up to `Alike`: `Pipeline.Silent.run_eq_ok` for a run that ends well, and
`Pipeline.Silent.run_eq_error` for one that stops before or among the modules.
-/

namespace WorkspaceIndex

variable {ε : Type}

/-! ### Silent steps -/

/-- Two sessions that differ in files and snapshots at most. -/
structure Session.Alike (s t : Session ε) : Prop where
  context_eq : t.context = s.context
  outside_eq : t.world.outside = s.world.outside
  trace_eq : t.world.trace = s.world.trace

namespace Session.Alike

variable {s t u : Session ε}

theorem refl (s : Session ε) : s.Alike s := ⟨rfl, rfl, rfl⟩

theorem trans (h : s.Alike t) (h' : t.Alike u) : s.Alike u where
  context_eq := h'.context_eq.trans h.context_eq
  outside_eq := h'.outside_eq.trans h.outside_eq
  trace_eq := h'.trace_eq.trans h.trace_eq

theorem calls_eq (h : s.Alike t) : t.world.calls = s.world.calls := by
  rw [World.calls, h.trace_eq, World.calls]

end Session.Alike

/-- A step that changes files and snapshots at most, however it ends. -/
def SessionM.Silent (step : SessionM ε Unit) : Prop :=
  ∀ s : Session ε, s.Alike (leaves (step s))

theorem SessionM.silent_all {steps : List (SessionM ε Unit)} (h : ∀ step ∈ steps, Silent step) :
    Silent (all steps) := fun s ↦
  all_related Session.Alike.refl Session.Alike.trans (fun step hstep t _ ↦ h step hstep t)
    (Session.Alike.refl s)

/-- A hook all of whose steps are silent. -/
structure Hook.Silent (hook : Hook ε) : Prop where
  before : ∀ phase, SessionM.Silent (hook.before phase)
  after : ∀ phase, SessionM.Silent (hook.after phase)

/-- A pipeline that adds silent hooks to the built-in phases, and nothing else. -/
structure Pipeline.Silent (p : Pipeline ε) : Prop where
  hooks : ∀ hook ∈ p.hooks, hook.Silent
  phases : p.phases = []

/-! ### Snapshots -/

namespace Hook

/-- To write a snapshot changes nothing but files. -/
theorem leaves_writeSnapshot (directory : Path) (snapshot : Snapshot) (w : World ε) :
    ∃ files, leaves (writeSnapshot directory snapshot w) = { w with files } := by
  unfold writeSnapshot
  have hmake : ∃ files, leaves (Run.makeDirectories (.createDirectory directory) directory w) =
      { w with files } := by
    simp only [Run.makeDirectories]
    split <;> exact ⟨_, rfl⟩
  obtain ⟨made, hmade⟩ := hmake
  rcases hend : Run.makeDirectories (.createDirectory directory) directory w
    with ⟨⟨⟩, between⟩ | ⟨failure, after⟩
  · rw [hend, leaves_ok] at hmade
    rw [bind_of_ok hend, hmade]
    rcases snapshot.text? with - | text
    · exact ⟨made, rfl⟩
    · unfold Run.overwriteFile
      simp only
      split <;> exact ⟨_, rfl⟩
  · rw [hend] at hmade
    rw [bind_of_error hend]
    exact ⟨made, hmade⟩

/-- **The hook that takes snapshots is silent.** -/
theorem silent_snapshots (directory : Option Path) : (snapshots directory : Hook ε).Silent where
  before := fun _ s ↦ .refl s
  after := fun phase s ↦ by
    let snapshot := Snapshot.ofContext phase s.context
    show s.Alike (leaves (takeSnapshot directory phase s))
    rcases directory with - | directory
    · exact ⟨rfl, rfl, rfl⟩
    · obtain ⟨files, hleaves⟩ := leaves_writeSnapshot directory snapshot s.world
      have hwrite : leaves (takeSnapshot (some directory) phase s) =
          { s with snapshots := s.snapshots ++ [snapshot]
                   world := leaves (writeSnapshot directory snapshot s.world) } := by
        show leaves (Session.inWorld (writeSnapshot directory snapshot)
          { s with snapshots := s.snapshots ++ [snapshot] }) = _
        unfold Session.inWorld
        simp only
        split <;> rename_i hend <;> rw [hend] <;> rfl
      rw [hwrite, hleaves]
      exact ⟨rfl, rfl, rfl⟩

end Hook

/-- Runs that are made from the command line have silent hooks. -/
theorem GenerateReport.silent_pipeline (directory : Option Path) :
    (pipeline directory : Pipeline ε).Silent where
  hooks := by
    rcases directory with - | directory
    · exact fun hook hhook ↦ absurd hhook List.not_mem_nil
    · intro hook hhook
      rw [pipeline, List.mem_singleton] at hhook
      exact hhook ▸ Hook.silent_snapshots _
  phases := rfl

/-! ### One phase between silent hooks -/

namespace Pipeline.Silent

variable {p : Pipeline ε} {phase : Phase ε} {s after : Session ε}

theorem silent_hooks (hp : p.Silent) {step : Hook ε → SessionM ε Unit}
    (hstep : ∀ hook : Hook ε, hook.Silent → SessionM.Silent (step hook)) :
    SessionM.Silent (SessionM.all (p.hooks.map step)) :=
  SessionM.silent_all (List.forall_mem_map.2 fun hook hhook ↦ hstep hook (hp.hooks hook hhook))

theorem silent_before (hp : p.Silent) (phase : String) :
    SessionM.Silent (SessionM.all (p.hooks.map fun hook ↦ hook.before phase)) :=
  hp.silent_hooks fun _ hhook ↦ hhook.before phase

theorem silent_after (hp : p.Silent) (phase : String) :
    SessionM.Silent (SessionM.all (p.hooks.map fun hook ↦ hook.after phase)) :=
  hp.silent_hooks fun _ hhook ↦ hhook.after phase

theorem runPhase_eq_ok (hp : p.Silent) (h : p.runPhase phase s = .ok () after) :
    ∃ t t', s.Alike t ∧ phase.run t = .ok () t' ∧ t'.Alike after := by
  obtain ⟨⟨⟩, t, hbefore, hrest⟩ := bind_eq_ok.1 h
  obtain ⟨⟨⟩, t', hphase, hafter⟩ := bind_eq_ok.1 hrest
  have hs := hp.silent_before phase.name s
  have ht := hp.silent_after phase.name t'
  rw [hbefore, leaves_ok] at hs
  rw [hafter, leaves_ok] at ht
  exact ⟨t, t', hs, hphase, ht⟩

/-- Between silent hooks something fails before the phase, in the phase or behind it. -/
theorem runPhase_eq_error {failure : Failure} (hp : p.Silent)
    (h : p.runPhase phase s = .error failure after) :
    s.Alike after ∨ (∃ t, s.Alike t ∧ phase.run t = .error failure after) ∨
      ∃ t t', s.Alike t ∧ phase.run t = .ok () t' ∧ t'.Alike after := by
  rcases bind_eq_error.1 h with hbefore | ⟨⟨⟩, t, hbefore, hrest⟩
  · have hs := hp.silent_before phase.name s
    rw [hbefore] at hs
    exact Or.inl hs
  · have hs := hp.silent_before phase.name s
    rw [hbefore, leaves_ok] at hs
    rcases bind_eq_error.1 hrest with hphase | ⟨⟨⟩, t', hphase, hafter⟩
    · exact Or.inr (Or.inl ⟨t, hs, hphase⟩)
    · have ht := hp.silent_after phase.name t'
      rw [hafter] at ht
      exact Or.inr (Or.inr ⟨t, t', hs, hphase, ht⟩)

end Pipeline.Silent

/-! ### The phases, from any session -/

namespace Phase

variable {services : Services ε} {s after : Session ε} {failure : Failure}

theorem resolveFormat_eq_ok (h : resolveFormat.run s = .ok () after) :
    ∃ format, resolvedFormat s.context.options.output = .ok format ∧
      after = { s with context := { s.context with format := some format } } := by
  obtain ⟨_, _, hcontext, hrest⟩ := bind_eq_ok.1 h
  cases hcontext
  obtain ⟨format, _, hformat, hend⟩ := bind_eq_ok.1 hrest
  obtain ⟨w, hw, rfl⟩ := Session.inWorld_eq_ok.1 hformat
  obtain ⟨hresolved, rfl⟩ := Run.ofExcept_eq_ok.1 hw
  cases hend
  exact ⟨format, hresolved, rfl⟩

theorem resolveFormat_eq_error (h : resolveFormat.run s = .error failure after) : after = s := by
  rcases bind_eq_error.1 h with hcontext | ⟨_, _, hcontext, hrest⟩
  · cases hcontext
  · cases hcontext
    rcases bind_eq_error.1 hrest with hformat | ⟨_, _, _, hend⟩
    · obtain ⟨w, hw, rfl⟩ := Session.inWorld_eq_error.1 hformat
      rw [(Run.ofExcept_eq_error.1 hw).2]
    · cases hend

theorem compile_eq_ok (h : (compile services).run s = .ok () after) :
    ∃ plans t, processModules services s.context.options.destination services.host.modules s =
        .ok plans t ∧
      after = { t with context := t.context.addPlans plans } := by
  obtain ⟨_, _, hcontext, hrest⟩ := bind_eq_ok.1 h
  cases hcontext
  obtain ⟨plans, t, hmodules, hend⟩ := bind_eq_ok.1 hrest
  cases hend
  exact ⟨plans, t, hmodules, rfl⟩

theorem compile_eq_error (h : (compile services).run s = .error failure after) :
    processModules services s.context.options.destination services.host.modules s =
      .error failure after := by
  rcases bind_eq_error.1 h with hcontext | ⟨_, _, hcontext, hrest⟩
  · cases hcontext
  · cases hcontext
    rcases bind_eq_error.1 hrest with hmodules | ⟨_, _, _, hend⟩
    · exact hmodules
    · cases hend

theorem aggregate_eq_ok (h : (aggregate services).run s = .ok () after) :
    after = { s with context := { s.context with
      classpath := some (Classpath.aggregate s.world.files s.context.options.dedupClasspath
        services.host.modules) } } := by
  cases h
  rfl

theorem index_eq_ok (h : (index services).run s = .ok () after) :
    ∃ format classpath output w, s.context.format = some format ∧
      s.context.classpath = some classpath ∧
      buildIndex services s.context format classpath s.world = .ok output w ∧
      after = { s with context := { s.context with index := some output }, world := w } := by
  rw [index_run] at h
  split at h
  · cases h
  · cases h
  · rename_i format classpath hformat hclasspath
    split at h
    · cases h
    · rename_i output w hbuild
      cases h
      exact ⟨format, classpath, output, w, hformat, hclasspath, hbuild, rfl⟩

theorem index_eq_error (h : (index services).run s = .error failure after) :
    after = s ∨ ∃ format classpath w, buildIndex services s.context format classpath s.world =
      .error failure w ∧ after = { s with world := w } := by
  rw [index_run] at h
  split at h
  · cases h
    exact Or.inl rfl
  · cases h
    exact Or.inl rfl
  · rename_i format classpath _ _
    split at h
    · rename_i w hbuild
      cases h
      exact Or.inr ⟨format, classpath, w, hbuild, rfl⟩
    · cases h

end Phase

/-! ### Runs -/

namespace Pipeline.Silent

variable {p : Pipeline ε} {services : Services ε} {options : GenerateOptions} {world : World ε}
  {s : Session ε}

theorem run_eq (hp : p.Silent) :
    p.run services options world =
      (p.runPhase Phase.resolveFormat >>= fun _ ↦ p.runPhase (Phase.compile services) >>= fun _ ↦
        p.runPhase (Phase.aggregate services) >>= fun _ ↦ p.runPhase (Phase.index services))
        (start options world) := by
  rw [run, allPhases, hp.phases, List.append_nil]
  simp only [Phase.builtin, runPhases, bind_pure_unit]

/-- After the format was resolved a session is like the one of a plain run. -/
theorem alike_resolved (hp : p.Silent)
    (h : p.runPhase Phase.resolveFormat (start options world) = .ok () s) :
    ∃ format, Phase.resolvedFormat options.output = .ok format ∧
      (resolved options format world).Alike s := by
  obtain ⟨t, t', hbefore, hphase, hafter⟩ := hp.runPhase_eq_ok h
  obtain ⟨format, hformat, rfl⟩ := Phase.resolveFormat_eq_ok hphase
  rw [hbefore.context_eq] at hformat
  have hresolved : (resolved options format world).Alike
      { t with context := { t.context with format := some format } } :=
    ⟨by rw [hbefore.context_eq]; rfl, hbefore.outside_eq, hbefore.trace_eq⟩
  exact ⟨format, hformat, hresolved.trans hafter⟩

/-- **What a run with silent hooks that ended well consists of.** The modules have gone through from
a session like the one of a plain run, and the context is that of a plain run, for the files that
there were when the classpath was aggregated. For that context one call of the indexer has followed
the calls for the modules. -/
theorem run_indexed (hp : p.Silent) (h : p.run services options world = .ok () s) :
    ∃ format plans before after files,
      Phase.resolvedFormat options.output = .ok format ∧
      (resolved options format world).Alike before ∧
      Phase.processModules services options.destination services.host.modules before =
        .ok plans after ∧
      s.context = { gathered services options format plans files with
        index := some (options.destination.join options.output) } ∧
      s.world.calls = after.world.calls ++
        [Phase.indexCall services.host (gathered services options format plans files) format
          (Classpath.aggregate files options.dedupClasspath services.host.modules)] := by
  rw [hp.run_eq] at h
  obtain ⟨⟨⟩, s₁, h₁, h⟩ := bind_eq_ok.1 h
  obtain ⟨⟨⟩, s₂, h₂, h⟩ := bind_eq_ok.1 h
  obtain ⟨⟨⟩, s₃, h₃, h₄⟩ := bind_eq_ok.1 h
  obtain ⟨format, hformat, hresolved⟩ := hp.alike_resolved h₁
  obtain ⟨before, _, hbefore, hcompile, hcompiled⟩ := hp.runPhase_eq_ok h₂
  obtain ⟨t₃, _, ht₃, haggregate, haggregated⟩ := hp.runPhase_eq_ok h₃
  obtain ⟨t₄, _, ht₄, hindex, hindexed⟩ := hp.runPhase_eq_ok h₄
  obtain ⟨plans, after, hmodules, rfl⟩ := Phase.compile_eq_ok hcompile
  obtain rfl := Phase.aggregate_eq_ok haggregate
  obtain ⟨_, _, output, w, hknown, hclasspath, hbuild, rfl⟩ := Phase.index_eq_ok hindex
  have hbefore := hresolved.trans hbefore
  rw [hbefore.context_eq] at hmodules
  obtain ⟨-, -, hafter⟩ := Phase.processModules_eq_ok hmodules
  have hgathered : t₄.context = gathered services options format plans t₃.world.files := by
    rw [ht₄.context_eq, haggregated.context_eq, ht₃.context_eq, hcompiled.context_eq, hafter,
      hbefore.context_eq]
    rfl
  have hcalls : t₄.world.calls = after.world.calls :=
    ht₄.calls_eq.trans (haggregated.calls_eq.trans (ht₃.calls_eq.trans hcompiled.calls_eq))
  -- the last phase finds the format and the classpath of that context
  rw [hgathered] at hknown hclasspath hbuild
  cases hknown
  cases hclasspath
  obtain ⟨rfl, hcall⟩ := Phase.buildIndex_eq_ok hbuild
  rw [hcalls] at hcall
  exact ⟨format, plans, before, after, t₃.world.files, hformat, hbefore, hmodules,
    by rw [hindexed.context_eq, hgathered]; rfl, hindexed.calls_eq.trans hcall⟩

theorem run_eq_ok (hp : p.Silent) (h : p.run services options world = .ok () s) :
    ∃ format plans before after,
      Phase.resolvedFormat options.output = .ok format ∧
      (resolved options format world).Alike before ∧
      Phase.processModules services options.destination services.host.modules before =
        .ok plans after ∧
      (∃ files output, s.context =
        { gathered services options format plans files with index := some output }) ∧
      ∃ request file, s.world.calls = after.world.calls ++ [.indexed request file] := by
  obtain ⟨format, plans, before, after, files, hformat, hbefore, hmodules, hcontext, hcalls⟩ :=
    hp.run_indexed h
  exact ⟨format, plans, before, after, hformat, hbefore, hmodules, ⟨files, _, hcontext⟩, _, _,
    hcalls⟩

/-- Where a run with silent hooks fails, it has called nobody yet, or it has got to the modules from
a session like the one of a plain run. There it may have stopped, or they have all gone through. -/
theorem run_eq_error {failure : Failure} (hp : p.Silent)
    (h : p.run services options world = .error failure s) :
    s.world.calls = world.calls ∨
      ∃ format before, (resolved options format world).Alike before ∧
        (Phase.processModules services options.destination services.host.modules before =
            .error failure s ∨
          ∃ plans after, Phase.processModules services options.destination services.host.modules
            before = .ok plans after) := by
  rw [hp.run_eq] at h
  rcases bind_eq_error.1 h with h₁ | ⟨⟨⟩, s₁, h₁, h⟩
  · left
    rcases hp.runPhase_eq_error h₁ with hs | ⟨t, ht, hphase⟩ | ⟨t, t', ht, hphase, ht'⟩
    · exact hs.calls_eq
    · rw [Phase.resolveFormat_eq_error hphase]
      exact ht.calls_eq
    · obtain ⟨format, -, rfl⟩ := Phase.resolveFormat_eq_ok hphase
      exact ht'.calls_eq.trans ht.calls_eq
  · obtain ⟨format, -, hresolved⟩ := hp.alike_resolved h₁
    rcases bind_eq_error.1 h with h₂ | ⟨⟨⟩, s₂, h₂, -⟩
    · rcases hp.runPhase_eq_error h₂ with hs | ⟨t, ht, hphase⟩ | ⟨t, t', ht, hphase, -⟩
      · exact Or.inl (hresolved.trans hs).calls_eq
      · have hbefore := hresolved.trans ht
        have hmodules := Phase.compile_eq_error hphase
        rw [hbefore.context_eq] at hmodules
        exact Or.inr ⟨format, t, hbefore, Or.inl hmodules⟩
      · have hbefore := hresolved.trans ht
        obtain ⟨plans, after, hmodules, -⟩ := Phase.compile_eq_ok hphase
        rw [hbefore.context_eq] at hmodules
        exact Or.inr ⟨format, t, hbefore, Or.inr ⟨plans, after, hmodules⟩⟩
    · obtain ⟨t, _, ht, hphase, -⟩ := hp.runPhase_eq_ok h₂
      have hbefore := hresolved.trans ht
      obtain ⟨plans, after, hmodules, -⟩ := Phase.compile_eq_ok hphase
      rw [hbefore.context_eq] at hmodules
      exact Or.inr ⟨format, t, hbefore, Or.inr ⟨plans, after, hmodules⟩⟩

end Pipeline.Silent

end WorkspaceIndex
