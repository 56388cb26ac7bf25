import WorkspaceIndex.Proofs.Plan.Options
/-!
# Laws of plans

A user reads a plan through a few rules. Whether a module is skipped, and which plugin is fetched
for it, is known without planning it (`HostGraph.IsOld`, `Needs`). A request says of its module
what the module says of itself; what a plan may change are the options and, with a plugin, where
the plugin is found. `Lawful` lists this for each variant.

All of it holds for any options that the module may have, and it is one theorem, `build_lawful`:
the plans that there are come from `build_eq_ok_iff`, and what the options of a Scala module become
from the laws of `scala3Options` and `scala2Options`.
-/

namespace WorkspaceIndex

variable {ε : Type}

/-- A host that declares a version below `0.10.6`. -/
def HostGraph.IsOld (host : HostGraph) : Prop :=
  ∃ v, host.hostVersion = some v ∧ v.components < [0, 10, 6]

namespace Plan

/-! ### Which plugin is fetched -/

/-- The plugin that a module needs. -/
inductive Needs (host : HostGraph) (m : Module) : Plugin → Prop
  | scalac {version : Version} (variant_eq : m.variant = .scala2)
      (given : m.scalaVersion = some version) : Needs host m (.scalac version)
  | javac (variant_eq : m.variant = .java) (young : ¬host.IsOld) : Needs host m .javac

variable {host : HostGraph} {m : Module} {plugin : Plugin}

theorem javaSkipReason?_eq_none_iff : javaSkipReason? host = none ↔ ¬host.IsOld := by
  rw [HostGraph.IsOld, ← isSome_javaSkipReason?_iff, Bool.not_eq_true,
    Option.isSome_eq_false_iff, Option.isNone_iff_eq_none]

theorem plugin?_eq_some_iff : plugin? host m = some plugin ↔ Needs host m plugin := by
  rw [plugin?]
  constructor
  · intro h
    split at h
    · cases h
    · rename_i hm
      obtain ⟨version, hversion, rfl⟩ := Option.map_eq_some_iff.1 h
      exact .scalac hm hversion
    · rename_i hm
      split at h
      · cases h
      · rename_i hyoung
        cases h
        exact .javac hm (mt isSome_javaSkipReason?_iff.2 hyoung)
  · intro h
    cases h with
    | scalac variant_eq given => simp [variant_eq, given]
    | javac variant_eq young => simp [variant_eq, javaSkipReason?_eq_none_iff.2 young]

/-! ### What requests say -/

/-- What the request for a Scala module keeps of it. Its options are those of the module but for
the ones that are left out, and then others, of which the last is the only one to stop the
compiler. -/
structure KeepsScala (m : Module) (request : CompileRequest) : Prop where
  classpath_eq : request.classpath = m.classpath
  javacOptions_eq : request.javacOptions = m.javacOptions
  keptOptions_prefix : keptOptions m.variant m.options <+: request.options
  stopsOnce : StopsOnce request.options

/-- The options that open the packages of the Java compiler to its plugin: five from Java 17 on,
none before, and none where the release is not known. -/
inductive OpensCompiler : Option UInt32 → List String → Prop
  | unknown : OpensCompiler none []
  | open_already {release : UInt32} (early : release < 17) : OpensCompiler (some release) []
  | opened {release : UInt32} (late : 17 ≤ release) : OpensCompiler (some release)
      ["-J--add-exports=jdk.compiler/com.sun.tools.javac.api=ALL-UNNAMED",
        "-J--add-exports=jdk.compiler/com.sun.tools.javac.code=ALL-UNNAMED",
        "-J--add-exports=jdk.compiler/com.sun.tools.javac.model=ALL-UNNAMED",
        "-J--add-exports=jdk.compiler/com.sun.tools.javac.tree=ALL-UNNAMED",
        "-J--add-exports=jdk.compiler/com.sun.tools.javac.util=ALL-UNNAMED"]

theorem opensCompiler (release : Option UInt32) :
    OpensCompiler release ((release.map exportOptions).getD []) := by
  rcases release with - | release
  · exact .unknown
  · rw [Option.map_some, Option.getD_some, exportOptions]
    split
    · exact .open_already ‹_›
    · exact .opened (UInt32.not_lt.1 ‹_›)

/-- What a request says, variant by variant. -/
inductive Lawful (services : Services ε) (destination : Path) (m : Module) (w : World ε)
    (request : CompileRequest) : Prop
  | scala3 (variant_eq : m.variant = .scala3) (keeps : KeepsScala m request)
      (extracts_once : request.options.count "-Xsemanticdb" = 1)
      (pluginClasspath_eq : request.pluginClasspath = [])
      (again : ∀ later : World ε,
        build services destination { m with options := request.options } later =
          .ok (.compile request) later)
  | scala2 (variant_eq : m.variant = .scala2) (keeps : KeepsScala m request)
      (never_fatal : "-Xfatal-warnings" ∉ request.options ∧ "-Werror" ∉ request.options)
      {version : Version} (given : m.scalaVersion = some version) {jars : List Path}
      (answer : (services.fetch (.scalac version) w.files w.outside).1 = .ok jars) {plugin : Path}
      (chosen : IsPluginAmong jars plugin)
      (options_eq : request.options = keptOptions .scala2 m.options ++
        [pluginOption plugin, "-Yrangepos", sourceRootOption services.host.root,
          "-Ystop-after:semanticdb-typer"])
      (pluginClasspath_eq : request.pluginClasspath = jars)
  | java (variant_eq : m.variant = .java) (options_eq : request.options = m.options)
      {jars : List Path} (answer : (services.fetch .javac w.files w.outside).1 = .ok jars)
      (classpath_eq : request.classpath = m.classpath ++ jars)
      {opening : List String} (opens : OpensCompiler services.host.runtimeVersion opening)
      (javacOptions_eq : request.javacOptions = m.javacOptions ++
        ("-Xplugin:semanticdb -sourceroot:" ++ services.host.root.text ++ " -targetroot:" ++
          destination.text ++ " -build-tool:" ++ services.host.buildTool) :: opening)
      (pluginClasspath_eq : request.pluginClasspath = jars)

variable {services : Services ε} {destination : Path} {w : World ε}

theorem build_of_scala3 (hm : m.variant = .scala3) (w : World ε) :
    build services destination m w =
      .ok (.compile (scala3Request services.host destination m)) w := by
  simp only [build, hm]
  rfl

/-- A Scala 3 module with its final options has the request that it had before. -/
theorem scala3Request_again :
    scala3Request host destination
        { m with options := (scala3Request host destination m).options } =
      scala3Request host destination m := by
  have hoptions := scala3Options_scala3Options m.options
  simp only [scala3Request, hoptions]
  rfl

theorem lawful_scala3Request (hm : m.variant = .scala3) :
    Lawful services destination m w (scala3Request services.host destination m) := by
  refine .scala3 hm ⟨rfl, rfl, ?_, stopsOnce_scala3Options _⟩ (count_scala3Options _) rfl
    fun later ↦ ?_
  · rw [hm]
    exact ⟨_, (scala3Options_eq m.options).symm⟩
  · refine (build_of_scala3 ?_ later).trans ?_
    · exact hm
    · rw [scala3Request_again]

theorem lawful_scala2Request (hm : m.variant = .scala2) {version : Version}
    (hversion : m.scalaVersion = some version) {jars : List Path}
    (hanswer : (services.fetch (.scalac version) w.files w.outside).1 = .ok jars) {jar : Path}
    (hjar : pluginJar? jars = some jar) :
    Lawful services destination m w (scala2Request services.host destination m jar jars) := by
  refine .scala2 hm ⟨rfl, rfl, ?_, stopsOnce_scala2Options⟩
    ⟨notMem_scala2Options (Or.inl rfl), notMem_scala2Options (Or.inr rfl)⟩ hversion hanswer
    (isPluginAmong_of_pluginJar? hjar) (scala2Options_eq _ _ _) rfl
  rw [hm]
  exact ⟨_, (scala2Options_eq m.options jar services.host.root).symm⟩

theorem lawful_javaRequest (hm : m.variant = .java) {jars : List Path}
    (hanswer : (services.fetch .javac w.files w.outside).1 = .ok jars) :
    Lawful services destination m w (javaRequest services.host destination m jars) :=
  .java hm rfl hanswer rfl (opensCompiler _) (List.append_assoc _ _ _) rfl

theorem lawful_of_planned {request : CompileRequest}
    (h : (Plan.compile request).Planned services destination m w) :
    Lawful services destination m w request := by
  cases h with
  | scala3 variant_eq => exact lawful_scala3Request variant_eq
  | scala2 variant_eq given answer chosen =>
    exact lawful_scala2Request variant_eq given answer chosen
  | java variant_eq _ answer => exact lawful_javaRequest variant_eq answer

/-! ### All laws -/

theorem calls_of_build (services : Services ε) (destination : Path) (m : Module) (w : World ε) :
    (leaves (build services destination m w)).calls = w.calls ++ fetches services.host m :=
  (build_advances services destination w m).calls_eq

theorem fetches_of_needs (h : Needs host m plugin) : fetches host m = [.fetched plugin] := by
  rw [fetches, plugin?_eq_some_iff.2 h]
  rfl

/-- Modules of Scala 3 need no plugin, nor do those that are skipped, and for a Scala 2 module
without a version there is none. -/
theorem fetches_of_not_needs (h : m.variant = .scala3 ∨ m.variant = .java ∧ host.IsOld ∨
    m.variant = .scala2 ∧ m.scalaVersion = none) : fetches host m = [] := by
  have hnone : plugin? host m = none := by
    refine Option.eq_none_iff_forall_ne_some.2 fun plugin hplugin ↦ ?_
    cases plugin?_eq_some_iff.1 hplugin with
    | scalac variant_eq given => simp [variant_eq, given] at h
    | javac variant_eq young => simp [variant_eq, young] at h
  rw [fetches, hnone]
  rfl

/-- A module is skipped exactly if it is a Java module of an old host. -/
theorem exists_skip_iff :
    (∃ name reason after, build services destination m w = .ok (.skip name reason) after) ↔
      m.variant = .java ∧ services.host.IsOld := by
  constructor
  · rintro ⟨name, reason, after, h⟩
    have hplanned := build_eq_ok_iff.1 ⟨after, h⟩
    cases hplanned with
    | skip variant_eq old =>
      exact ⟨variant_eq, isSome_javaSkipReason?_iff.1 (Option.isSome_of_eq_some old)⟩
  · rintro ⟨hm, hold⟩
    obtain ⟨reason, hreason⟩ := Option.isSome_iff_exists.1 (isSome_javaSkipReason?_iff.2 hold)
    obtain ⟨after, h⟩ := build_eq_ok_iff.2 (Planned.skip hm hreason)
    exact ⟨m.name, reason, after, h⟩

/-- **The laws of plans.** A module is skipped if and only if it is a Java module and the host
declares a version below `0.10.6`. A module that needs a plugin has it fetched once. For a module
of Scala 3, for one that is skipped and for one that lacks the version of its compiler nothing is
fetched. A request names the module, its variant and sources, the destination and the workspace
root, and what it says besides is lawful. -/
theorem build_lawful (services : Services ε) (destination : Path) (m : Module) (w : World ε) :
    let result := build services destination m w
    ((∃ name reason after, result = .ok (.skip name reason) after) ↔
        m.variant = .java ∧ services.host.IsOld) ∧
      (∀ plugin, Needs services.host m plugin →
        (leaves result).calls = w.calls ++ [.fetched plugin]) ∧
      (m.variant = .scala3 ∨ m.variant = .java ∧ services.host.IsOld ∨
          m.variant = .scala2 ∧ m.scalaVersion = none →
        (leaves result).calls = w.calls) ∧
      ∀ request after, result = .ok (.compile request) after →
        Fits services.host destination m (.compile request) ∧
          Lawful services destination m w request := by
  intro result
  refine ⟨exists_skip_iff, fun plugin hneeds ↦ ?_, fun hnone ↦ ?_, fun request after h ↦ ?_⟩
  · rw [calls_of_build, fetches_of_needs hneeds]
  · rw [calls_of_build, fetches_of_not_needs hnone, List.append_nil]
  · exact ⟨fits_of_build h, lawful_of_planned (build_eq_ok_iff.1 ⟨after, h⟩)⟩

/-- One plugin is fetched for `legacyModule`, and its request is lawful. -/
theorem build_lawful_legacyModule :
    Needs scalacServices.host legacyModule (.scalac ⟨2, 13, 12⟩) ∧ ∃ request after,
      build scalacServices ⟨"/ws/out"⟩ legacyModule emptyWorld = .ok (.compile request) after ∧
        after.calls = [.fetched (.scalac ⟨2, 13, 12⟩)] ∧
        Lawful scalacServices ⟨"/ws/out"⟩ legacyModule emptyWorld request := by
  have hneeds : Needs scalacServices.host legacyModule (.scalac ⟨2, 13, 12⟩) := .scalac rfl rfl
  obtain ⟨-, hfetched, -, hrequest⟩ :=
    build_lawful scalacServices ⟨"/ws/out"⟩ legacyModule emptyWorld
  exact ⟨hneeds, _, _, rfl, hfetched _ hneeds, (hrequest _ _ rfl).2⟩

end Plan

end WorkspaceIndex
