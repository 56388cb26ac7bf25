import WorkspaceIndex.Plan
import WorkspaceIndex.Proofs.OsText
import WorkspaceIndex.Proofs.Run.Calls
/-!
# What planning does

Planning a module asks for at most one plugin, and for which one is known from the host and the
module alone (`plugin?`). Whether the fetch is answered, refused or useless, that is the whole of
what planning does to its world (`build_advances`). The plans that can come out of it are four, and
which of them does is decided by the module, the host and the answer to the fetch
(`build_eq_ok_iff`). Every one of them keeps of its module what `Fits` lists (`fits_of_build`).
-/

namespace WorkspaceIndex

variable {ε : Type}

/-! ### Old hosts -/

/-- The numbers of a version. -/
def Version.components (v : Version) : List Nat := [v.major.toNat, v.minor.toNat, v.patch.toNat]

/-- Versions are compared number by number. -/
theorem Version.compare_eq_lt_iff {v w : Version} :
    compare v w = .lt ↔ v.components < w.components := by
  show (compare v.major w.major).then
    ((compare v.minor w.minor).then (compare v.patch w.patch)) = .lt ↔ _
  simp only [components, Ordering.then_eq_lt, Std.compare_eq_iff_eq, Std.compare_eq_lt,
    List.cons_lt_cons_iff, UInt32.lt_iff_toNat_lt, UInt32.toNat_inj, List.not_lt_nil, and_false,
    or_false]

theorem Plan.isTooOldForJava_iff {v : Version} :
    isTooOldForJava v = true ↔ v.components < [0, 10, 6] := by
  rw [isTooOldForJava, beq_iff_eq, Version.compare_eq_lt_iff]
  rfl

/-- The modules of a host are skipped, if they are Java modules, exactly if its version is below
`0.10.6`. -/
theorem Plan.isSome_javaSkipReason?_iff {host : HostGraph} :
    (javaSkipReason? host).isSome = true ↔
      ∃ v, host.hostVersion = some v ∧ v.components < [0, 10, 6] := by
  rw [javaSkipReason?]
  rcases host.hostVersion with - | version
  · simp
  · by_cases h : isTooOldForJava version = true
    · simpa [h] using isTooOldForJava_iff.1 h
    · simpa [h] using mt isTooOldForJava_iff.2 h

/-! ### What is fetched and what is kept -/

/-- The fetcher answers some request for a plugin with these jars. -/
def Services.Answers (services : Services ε) (jars : List Path) : Prop :=
  ∃ plugin files outside, (services.fetch plugin files outside).1 = .ok jars

namespace Plan

/-- The plugin that is fetched for a module, if one is. -/
def plugin? (host : HostGraph) (m : Module) : Option Plugin :=
  match m.variant with
  | .scala3 => none
  | .scala2 => m.scalaVersion.map .scalac
  | .java => if (javaSkipReason? host).isSome then none else some .javac

/-- The calls that planning a module makes. -/
def fetches (host : HostGraph) (m : Module) : List Event :=
  (plugin? host m).toList.map .fetched

/-- What a plan keeps of the module it is for, of the host and of the destination. Only modules of
Java hosts that are too old are skipped. -/
inductive Fits (host : HostGraph) (destination : Path) (m : Module) : Plan → Prop
  | compile {request : CompileRequest} (module_eq : request.module = m.name)
      (variant_eq : request.variant = m.variant) (sources_eq : request.sources = m.sources)
      (destination_eq : request.destination = destination)
      (workspaceRoot_eq : request.workspaceRoot = host.root) : Fits host destination m
      (.compile request)
  | skip {reason : String} (variant_eq : m.variant = .java)
      (old : javaSkipReason? host = some reason) : Fits host destination m (.skip m.name reason)

theorem Fits.module_eq {host : HostGraph} {destination : Path} {m : Module} {plan : Plan}
    (h : Fits host destination m plan) : plan.module = m.name := by
  cases h with
  | compile module_eq => exact module_eq
  | skip => rfl

/-! ### The jar of the plugin -/

theorem pluginJar?_eq_none_iff {jars : List Path} : pluginJar? jars = none ↔ jars = [] := by
  rw [pluginJar?]
  rcases jars with - | ⟨jar, rest⟩
  · simp
  · rcases List.find? isScalacPlugin (jar :: rest) with - | plugin <;> simp

/-- Whether a jar is named after the plugin of Scala 2. -/
def IsNamedAfterPlugin (jar : Path) : Prop :=
  ∃ name, jar.fileName? = some (.ofText name) ∧ "semanticdb-scalac".toList <+: name.toList

theorem isScalacPlugin_iff {jar : Path} : isScalacPlugin jar = true ↔ IsNamedAfterPlugin jar := by
  rw [isScalacPlugin, IsNamedAfterPlugin]
  rcases jar.fileName? with - | spelling
  · simp
  · simp only [Option.bind_some, Option.some.injEq, ← OsText.text?_eq_some_iff]
    rcases spelling.text? with - | name
    · simp
    · simp [List.isPrefixOf_iff_prefix]

/-- A jar is the plugin among others if it is the first that is named after it, or the first of all
where none is. -/
inductive IsPluginAmong : List Path → Path → Prop
  | named {earlier later : List Path} {plugin : Path} (named : IsNamedAfterPlugin plugin)
      (first : ∀ jar ∈ earlier, ¬IsNamedAfterPlugin jar) :
      IsPluginAmong (earlier ++ plugin :: later) plugin
  | unnamed {plugin : Path} {later : List Path}
      (none_named : ∀ jar ∈ plugin :: later, ¬IsNamedAfterPlugin jar) :
      IsPluginAmong (plugin :: later) plugin

theorem isPluginAmong_of_pluginJar? {jars : List Path} {plugin : Path}
    (h : pluginJar? jars = some plugin) : IsPluginAmong jars plugin := by
  rw [pluginJar?] at h
  rcases hfind : jars.find? isScalacPlugin with - | found
  · have hnone : ∀ jar ∈ jars, ¬IsNamedAfterPlugin jar := fun jar hjar ↦
      mt isScalacPlugin_iff.2 (List.find?_eq_none.1 hfind jar hjar)
    rw [hfind] at h
    rcases jars with - | ⟨first, later⟩
    · cases h
    · cases h
      exact .unnamed hnone
  · rw [hfind] at h
    cases h
    obtain ⟨hnamed, earlier, later, rfl, hearlier⟩ := List.find?_eq_some_iff_append.1 hfind
    exact .named (isScalacPlugin_iff.1 hnamed) fun jar hjar ↦
      mt isScalacPlugin_iff.2 (by simpa using hearlier jar hjar)

/-! ### Planning, variant by variant -/

variable (services : Services ε) (destination : Path) {m : Module} (w : World ε)

theorem buildScala2_advances (hm : m.variant = .scala2) :
    w.Advances (leaves (buildScala2 services destination m w)) (fetches services.host m) := by
  rcases hv : m.scalaVersion with - | version
  · simp only [buildScala2, hv, fetches, plugin?, hm]
    exact .refl w
  · have hfetches : fetches services.host m = [.fetched (.scalac version)] := by
      simp [fetches, plugin?, hm, hv]
    simp only [buildScala2, hv, hfetches]
    refine advances_bind (Run.fetch_advances services w (.scalac version)) fun jars after ↦ ?_
    rcases pluginJar? jars with - | plugin <;> exact .refl after

theorem buildJava_advances (hm : m.variant = .java) :
    w.Advances (leaves (buildJava services destination m w)) (fetches services.host m) := by
  rcases hold : javaSkipReason? services.host with - | reason
  · have hfetches : fetches services.host m = [.fetched .javac] := by
      simp [fetches, plugin?, hm, hold]
    simp only [buildJava, hold, hfetches]
    refine advances_bind (Run.fetch_advances services w .javac) fun jars after ↦ ?_
    rcases services.host.runtimeVersion with - | release
    · exact Run.notice_advances after _
    · exact .refl after
  · have hfetches : fetches services.host m = [] := by
      simp [fetches, plugin?, hm, hold]
    simp only [buildJava, hold, hfetches]
    exact Run.notice_advances w _

/-- **Planning a module fetches what `plugin?` names and does nothing else** to its world but
notices, whether it ends in a plan or not. -/
theorem build_advances (m : Module) :
    w.Advances (leaves (build services destination m w)) (fetches services.host m) := by
  unfold build
  cases hm : m.variant with
  | scala3 =>
    simp only [fetches, plugin?, hm]
    exact .refl w
  | scala2 => exact buildScala2_advances services destination w hm
  | java => exact buildJava_advances services destination w hm

/-! ### Plans -/

/-- What planning a module comes to, where it comes to a plan: the module and the host decide
between the variants, and the answer to the fetch gives the jars. -/
inductive Planned (services : Services ε) (destination : Path) (m : Module) (w : World ε) :
    Plan → Prop
  | scala3 (variant_eq : m.variant = .scala3) :
      Planned services destination m w (.compile (scala3Request services.host destination m))
  | scala2 (variant_eq : m.variant = .scala2) {version : Version}
      (given : m.scalaVersion = some version) {jars : List Path}
      (answer : (services.fetch (.scalac version) w.files w.outside).1 = .ok jars) {plugin : Path}
      (chosen : pluginJar? jars = some plugin) :
      Planned services destination m w
        (.compile (scala2Request services.host destination m plugin jars))
  | java (variant_eq : m.variant = .java) (young : javaSkipReason? services.host = none)
      {jars : List Path} (answer : (services.fetch .javac w.files w.outside).1 = .ok jars) :
      Planned services destination m w (.compile (javaRequest services.host destination m jars))
  | skip {reason : String} (variant_eq : m.variant = .java)
      (old : javaSkipReason? services.host = some reason) :
      Planned services destination m w (.skip m.name reason)

variable {services destination w} {plan : Plan} {after : World ε}

theorem exists_fetch_eq_ok {plugin : Plugin} {jars : List Path}
    (h : (services.fetch plugin w.files w.outside).1 = .ok jars) :
    ∃ after, Run.fetch services plugin w = .ok jars after :=
  ⟨_, Run.ofExcept_eq_ok.2 ⟨h, rfl⟩⟩

theorem planned_of_buildScala2 (hm : m.variant = .scala2)
    (h : buildScala2 services destination m w = .ok plan after) :
    plan.Planned services destination m w := by
  unfold buildScala2 at h
  rcases hv : m.scalaVersion with - | version
  · simp only [hv] at h
    cases h
  · simp only [hv] at h
    obtain ⟨jars, between, hfetch, hrest⟩ := bind_eq_ok.1 h
    rcases hp : pluginJar? jars with - | plugin
    · simp only [hp] at hrest
      cases hrest
    · simp only [hp] at hrest
      cases hrest
      exact .scala2 hm hv (Run.ofExcept_eq_ok.1 hfetch).1 hp

theorem planned_of_buildJava (hm : m.variant = .java)
    (h : buildJava services destination m w = .ok plan after) :
    plan.Planned services destination m w := by
  unfold buildJava at h
  rcases hold : javaSkipReason? services.host with - | reason
  · simp only [hold] at h
    obtain ⟨jars, between, hfetch, hrest⟩ := bind_eq_ok.1 h
    have hanswer := (Run.ofExcept_eq_ok.1 hfetch).1
    -- the notice about an unknown runtime leaves the plan as it is
    split at hrest <;> cases hrest <;> exact .java hm hold hanswer
  · simp only [hold] at h
    obtain ⟨-, noticed, -, hplan⟩ := bind_eq_ok.1 h
    cases hplan
    exact .skip hm hold

/-- **What planning a module comes to**, and that it does. -/
theorem build_eq_ok_iff :
    (∃ after, build services destination m w = .ok plan after) ↔
      plan.Planned services destination m w := by
  constructor
  · rintro ⟨after, h⟩
    unfold build at h
    cases hm : m.variant with
    | scala3 =>
      simp only [hm] at h
      cases h
      exact .scala3 hm
    | scala2 =>
      simp only [hm] at h
      exact planned_of_buildScala2 hm h
    | java =>
      simp only [hm] at h
      exact planned_of_buildJava hm h
  · intro h
    cases h with
    | scala3 variant_eq =>
      simp only [build, variant_eq]
      exact ⟨w, rfl⟩
    | scala2 variant_eq given answer chosen =>
      obtain ⟨between, hfetch⟩ := exists_fetch_eq_ok answer
      simp only [build, variant_eq, buildScala2, given]
      rw [bind_of_ok hfetch]
      simp only [chosen]
      exact ⟨between, rfl⟩
    | java variant_eq young answer =>
      obtain ⟨between, hfetch⟩ := exists_fetch_eq_ok answer
      simp only [build, variant_eq, buildJava, young]
      rw [bind_of_ok hfetch]
      split
      · exact ⟨_, rfl⟩
      · exact ⟨between, rfl⟩
    | skip variant_eq old =>
      simp only [build, variant_eq, buildJava, old]
      exact ⟨_, rfl⟩

/-- The plans that can come out of planning a module, whenever it is planned. -/
inductive Built (services : Services ε) (destination : Path) (m : Module) : Plan → Prop
  | scala3 (variant_eq : m.variant = .scala3) :
      Built services destination m (.compile (scala3Request services.host destination m))
  | scala2 (variant_eq : m.variant = .scala2) (plugin : Path) {jars : List Path}
      (answers : services.Answers jars) :
      Built services destination m
        (.compile (scala2Request services.host destination m plugin jars))
  | java (variant_eq : m.variant = .java) (young : javaSkipReason? services.host = none)
      {jars : List Path} (answers : services.Answers jars) :
      Built services destination m (.compile (javaRequest services.host destination m jars))
  | skip {reason : String} (variant_eq : m.variant = .java)
      (old : javaSkipReason? services.host = some reason) :
      Built services destination m (.skip m.name reason)

theorem Planned.built (h : plan.Planned services destination m w) :
    plan.Built services destination m := by
  cases h with
  | scala3 variant_eq => exact .scala3 variant_eq
  | scala2 variant_eq _ answer => exact .scala2 variant_eq _ ⟨_, _, _, answer⟩
  | java variant_eq young answer => exact .java variant_eq young ⟨_, _, _, answer⟩
  | skip variant_eq old => exact .skip variant_eq old

theorem built_of_build (h : build services destination m w = .ok plan after) :
    plan.Built services destination m :=
  (build_eq_ok_iff.1 ⟨after, h⟩).built

theorem Built.fits (h : plan.Built services destination m) :
    plan.Fits services.host destination m := by
  cases h with
  | scala3 => exact .compile rfl rfl rfl rfl rfl
  | scala2 => exact .compile rfl rfl rfl rfl rfl
  | java => exact .compile rfl rfl rfl rfl rfl
  | skip variant_eq old => exact .skip variant_eq old

/-- **A plan fits the module it was built for.** -/
theorem fits_of_build (h : build services destination m w = .ok plan after) :
    plan.Fits services.host destination m :=
  (built_of_build h).fits

/-- A plan skips its module if and only if that is a Java module on a host that is too old. -/
theorem Built.skipped?_eq (h : plan.Built services destination m) :
    plan.skipped? =
      if m.variant = .java then (javaSkipReason? services.host).map fun reason ↦ (m.name, reason)
      else none := by
  cases h with
  | scala3 variant_eq => rw [if_neg (by simp [variant_eq])]; rfl
  | scala2 variant_eq => rw [if_neg (by simp [variant_eq])]; rfl
  | java variant_eq young => rw [if_pos variant_eq, young]; rfl
  | skip variant_eq old => rw [if_pos variant_eq, old]; rfl

end Plan

end WorkspaceIndex
