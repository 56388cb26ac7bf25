import WorkspaceIndex.Proofs.Plan.Build
/-!
# The final options of Scala modules

A Scala compiler gets the options of its module in their order, without those that the plan
replaces or cannot have, and then the options of the plan. What a compiler is asked for twice is
therefore a matter of what is left out. Options that name a phase to stop after are left out for
both compilers, so the one of the plan is the only one and the last (`StopsOnce`). The option for
the extraction of Scala 3 is left out too, so it is there once, and a module with its final options
is planned as before (`scala3Options_scala3Options`).

The option that loads the plugin of Scala 2 is not left out. It is there once more than in the
module (`count_scala2Options`), so a module that loads that very jar by itself has its plugin
loaded twice (`plugin_loaded_twice`).
-/

namespace WorkspaceIndex.Plan

/-! ### Options that begin with a text -/

theorem isStopAfter_iff {option : String} :
    isStopAfter option = true ↔ "-Ystop-after:".toList <+: option.toList :=
  List.isPrefixOf_iff_prefix

/-- A text that begins in one way does not begin in another. -/
theorem not_prefix_append {start head rest : List Char} (h : ¬start <+: head)
    (h' : ¬head <+: start) : ¬start <+: head ++ rest := fun hstart ↦
  (List.prefix_or_prefix_of_prefix hstart (List.prefix_append head rest)).elim h h'

/-- An option with an argument does not begin as another one does. -/
theorem not_prefix_option {start head : String} (argument : String)
    (h : ¬start.toList <+: head.toList) (h' : ¬head.toList <+: start.toList) :
    ¬start.toList <+: (head ++ argument).toList := by
  rw [String.toList_append]
  exact not_prefix_append h h'

/-- An option with an argument is not an option that begins otherwise. -/
theorem option_ne {option head : String} (argument : String) (h : ¬head.toList <+: option.toList) :
    head ++ argument ≠ option := by
  rintro rfl
  rw [String.toList_append] at h
  exact h (List.prefix_append _ _)

/-- The option that loads a plugin of Scala 2. -/
def pluginOption (plugin : Path) : String := "-Xplugin:" ++ plugin.text

/-- The option that tells the plugin of Scala 2 the root of the sources. -/
def sourceRootOption (root : Path) : String := "-P:semanticdb:sourceroot:" ++ root.text

/-! ### What is left out -/

/-- The options of a module that its plan leaves out. -/
def leavesOut : Variant → String → Bool
  | .scala3, option => option = "-Xsemanticdb" || isStopAfter option
  | .scala2, option => option = "-Xfatal-warnings" || option = "-Werror" || isStopAfter option
  | .java, _ => false

/-- The options of a module that its plan keeps, in their order. -/
def keptOptions (variant : Variant) (options : List String) : List String :=
  options.filter fun option ↦ !leavesOut variant option

theorem mem_keptOptions {variant : Variant} {options : List String} {option : String} :
    option ∈ keptOptions variant options ↔ option ∈ options ∧ leavesOut variant option = false := by
  simp [keptOptions]

/-- Exactly one option names a phase to stop after, and it is the last one. -/
def StopsOnce (options : List String) : Prop :=
  ∃ others last, options = others ++ [last] ∧ "-Ystop-after:".toList <+: last.toList ∧
    ∀ option ∈ others, ¬"-Ystop-after:".toList <+: option.toList

theorem not_stopAfter_of_mem_keptOptions {variant : Variant} {options : List String}
    {option : String} (hvariant : variant.isScala = true)
    (h : option ∈ keptOptions variant options) :
    ¬"-Ystop-after:".toList <+: option.toList := by
  have hkept := (mem_keptOptions.1 h).2
  rw [← isStopAfter_iff, Bool.not_eq_true]
  cases variant with
  | scala3 => exact (Bool.or_eq_false_iff.1 hkept).2
  | scala2 => exact (Bool.or_eq_false_iff.1 hkept).2
  | java => cases hvariant

/-- Options that are kept may be followed by any that do not stop and one that does. -/
theorem stopsOnce_append {variant : Variant} {options added : List String} {last : String}
    (hvariant : variant.isScala = true)
    (hadded : ∀ option ∈ added, ¬"-Ystop-after:".toList <+: option.toList)
    (hlast : "-Ystop-after:".toList <+: last.toList) :
    StopsOnce (keptOptions variant options ++ (added ++ [last])) := by
  refine ⟨keptOptions variant options ++ added, last, (List.append_assoc _ _ _).symm, hlast, ?_⟩
  intro option hmem
  rcases List.mem_append.1 hmem with hkept | hmem
  · exact not_stopAfter_of_mem_keptOptions hvariant hkept
  · exact hadded option hmem

/-! ### Scala 3 -/

theorem scala3Options_eq (options : List String) :
    scala3Options options = keptOptions .scala3 options ++
      (["-Xsemanticdb"] ++ ["-Ystop-after:extractSemanticDB"]) := by
  have hkeeps : (fun option ↦ decide (option ≠ extractOption) && !isStopAfter option) =
      fun option ↦ !leavesOut .scala3 option := by
    funext option
    rw [leavesOut, Bool.not_or, decide_not]
    rfl
  rw [scala3Options, keptOptions, hkeeps]
  rfl

theorem stopsOnce_scala3Options (options : List String) : StopsOnce (scala3Options options) := by
  rw [scala3Options_eq]
  exact stopsOnce_append rfl (by decide) (by decide)

/-- The extraction is asked for once, whatever the module asks for. -/
theorem count_scala3Options (options : List String) :
    (scala3Options options).count "-Xsemanticdb" = 1 := by
  have hkept : "-Xsemanticdb" ∉ keptOptions .scala3 options := fun h ↦ by
    simpa [leavesOut] using (mem_keptOptions.1 h).2
  rw [scala3Options_eq, List.count_append, List.count_eq_zero.2 hkept]
  decide

/-- **The final options of a Scala 3 module are final.** -/
theorem scala3Options_scala3Options (options : List String) :
    scala3Options (scala3Options options) = scala3Options options := by
  have hadded :
      keptOptions .scala3 (["-Xsemanticdb"] ++ ["-Ystop-after:extractSemanticDB"]) = [] := by
    decide
  rw [scala3Options_eq, scala3Options_eq options]
  congr 1
  rw [keptOptions, List.filter_append, ← keptOptions, ← keptOptions, hadded, List.append_nil,
    keptOptions, keptOptions, List.filter_filter]
  simp

/-! ### Scala 2 -/

variable {options : List String} {plugin root : Path}

theorem scala2Options_eq (options : List String) (plugin root : Path) :
    scala2Options options plugin root = keptOptions .scala2 options ++
      ([pluginOption plugin, "-Yrangepos", sourceRootOption root] ++
        ["-Ystop-after:semanticdb-typer"]) := by
  have hkeeps : (fun option ↦ !fatalWarningOptions.contains option && !isStopAfter option) =
      fun option ↦ !leavesOut .scala2 option := by
    funext option
    rw [leavesOut, Bool.not_or, fatalWarningOptions]
    simp
  rw [scala2Options, keptOptions, hkeeps]
  rfl

theorem stopsOnce_scala2Options : StopsOnce (scala2Options options plugin root) := by
  rw [scala2Options_eq]
  refine stopsOnce_append rfl ?_ (by decide)
  simp only [List.forall_mem_cons, List.not_mem_nil, IsEmpty.forall_iff, implies_true, and_true]
  exact ⟨not_prefix_option _ (by decide) (by decide), by decide,
    not_prefix_option _ (by decide) (by decide)⟩

/-- No warning is turned into an error. -/
theorem notMem_scala2Options {flag : String}
    (hflag : flag = "-Xfatal-warnings" ∨ flag = "-Werror") :
    flag ∉ scala2Options options plugin root := by
  rw [scala2Options_eq, List.mem_append, not_or]
  constructor
  · intro h
    have hkept := (mem_keptOptions.1 h).2
    rcases hflag with rfl | rfl <;> simp [leavesOut] at hkept
  · have hplugin : pluginOption plugin ≠ flag :=
      option_ne _ (by rcases hflag with rfl | rfl <;> decide)
    have hroot : sourceRootOption root ≠ flag :=
      option_ne _ (by rcases hflag with rfl | rfl <;> decide)
    have hothers : flag ∉ ["-Yrangepos", "-Ystop-after:semanticdb-typer"] := by
      rcases hflag with rfl | rfl <;> decide
    simpa [hplugin.symm, hroot.symm] using hothers

theorem leavesOut_pluginOption : leavesOut .scala2 (pluginOption plugin) = false := by
  have hfatal : pluginOption plugin ≠ "-Xfatal-warnings" := option_ne _ (by decide)
  have herror : pluginOption plugin ≠ "-Werror" := option_ne _ (by decide)
  have hstop : isStopAfter (pluginOption plugin) = false :=
    Bool.eq_false_iff.2 (mt isStopAfter_iff.1 (not_prefix_option _ (by decide) (by decide)))
  simp [leavesOut, hfatal, herror, hstop]

/-- **The plugin is loaded once more than the module loads it by itself.** -/
theorem count_scala2Options :
    (scala2Options options plugin root).count (pluginOption plugin) =
      options.count (pluginOption plugin) + 1 := by
  have hkept : (keptOptions .scala2 options).count (pluginOption plugin) =
      options.count (pluginOption plugin) :=
    List.count_filter (by rw [leavesOut_pluginOption]; rfl)
  have hroot : pluginOption plugin ≠ sourceRootOption root :=
    option_ne _ (not_prefix_option _ (by decide) (by decide))
  have hrange : pluginOption plugin ≠ "-Yrangepos" := option_ne _ (by decide)
  have hstop : pluginOption plugin ≠ "-Ystop-after:semanticdb-typer" := option_ne _ (by decide)
  have hothers : pluginOption plugin ∉
      ["-Yrangepos", sourceRootOption root, "-Ystop-after:semanticdb-typer"] := by
    simp [hroot, hrange, hstop]
  rw [scala2Options_eq, List.count_append, hkept, List.cons_append, List.count_cons_self]
  exact congrArg _ (congrArg (· + 1) (List.count_eq_zero.2 hothers))

variable {ε : Type} {services : Services ε} {destination : Path} {m : Module} {w : World ε}
  {version : Version} {jars : List Path}

/-- **How often a Scala 2 module loads its plugin.** Whatever the options of the module are, a
fetch that brings jars leads to a plan, and the plan loads the jar that is taken for the plugin
once more than the module does. So it is loaded once exactly if the module does not load that jar
by itself. -/
theorem count_pluginOption_of_fetch (hvariant : m.variant = .scala2)
    (hversion : m.scalaVersion = some version)
    (hanswer : (services.fetch (.scalac version) w.files w.outside).1 = .ok jars)
    (hjars : jars ≠ []) :
    ∃ plugin request after, IsPluginAmong jars plugin ∧
      build services destination m w = .ok (.compile request) after ∧
      request.options.count (pluginOption plugin) = m.options.count (pluginOption plugin) + 1 ∧
      (request.options.count (pluginOption plugin) = 1 ↔ pluginOption plugin ∉ m.options) := by
  obtain ⟨plugin, hplugin⟩ := Option.ne_none_iff_exists'.1 (mt pluginJar?_eq_none_iff.1 hjars)
  obtain ⟨after, hbuild⟩ := build_eq_ok_iff.2 (Planned.scala2 hvariant hversion hanswer hplugin)
  have hcount := @count_scala2Options m.options plugin services.host.root
  refine ⟨plugin, _, after, isPluginAmong_of_pluginJar? hplugin, hbuild, hcount, ?_⟩
  rw [show (scala2Request services.host destination m plugin jars).options =
    scala2Options m.options plugin services.host.root from rfl, hcount, ← List.count_eq_zero]
  omega

/-- What is fetched for `legacyModule`: a library, and after it the plugin. -/
def scalacJars : List Path :=
  [⟨"/cache/scala-library.jar"⟩, ⟨"/cache/semanticdb-scalac_2.13.12.jar"⟩]

/-- A fetcher that brings `scalacJars`. -/
def scalacServices : Services Unit :=
  .stateless { root := ⟨"/ws"⟩ } (fun _ ↦ .ok scalacJars) (fun _ ↦ {}) fun _ ↦ {}

/-- A Scala 2 module that loads a plugin of its own. -/
def legacyModule : Module where
  name := "legacy"
  variant := .scala2
  scalaVersion := some ⟨2, 13, 12⟩
  options := ["-Xfatal-warnings", "-Xplugin:/own.jar", "-Ystop-after:typer", "-feature"]

/-- A world in which nothing has happened. -/
def emptyWorld : World Unit := ⟨⟨[], []⟩, (), []⟩

theorem count_pluginOption_legacyModule :
    scalacJars ≠ [] ∧ ∃ plugin request after, IsPluginAmong scalacJars plugin ∧
      build scalacServices ⟨"/ws/out"⟩ legacyModule emptyWorld = .ok (.compile request) after ∧
      (request.options.count (pluginOption plugin) = 1 ↔
        pluginOption plugin ∉ legacyModule.options) := by
  obtain ⟨plugin, request, after, hplugin, hbuild, -, hone⟩ :=
    @count_pluginOption_of_fetch _ scalacServices ⟨"/ws/out"⟩ legacyModule emptyWorld ⟨2, 13, 12⟩
      scalacJars rfl rfl rfl (by decide)
  exact ⟨by decide, plugin, request, after, hplugin, hbuild, hone⟩

/-- A Scala 2 module that loads the jar that is fetched for it. -/
def eagerModule : Module :=
  { legacyModule with options := ["-Xplugin:/cache/semanticdb-scalac_2.13.12.jar"] }

/-- **The plugin of a module that loads the fetched jar by itself is loaded twice.** -/
theorem plugin_loaded_twice :
    ∃ request after, IsPluginAmong scalacJars ⟨"/cache/semanticdb-scalac_2.13.12.jar"⟩ ∧
      build scalacServices ⟨"/ws/out"⟩ eagerModule emptyWorld = .ok (.compile request) after ∧
      request.options.count (pluginOption ⟨"/cache/semanticdb-scalac_2.13.12.jar"⟩) = 2 :=
  ⟨_, _, isPluginAmong_of_pluginJar? (by decide), rfl, by decide⟩

end WorkspaceIndex.Plan
