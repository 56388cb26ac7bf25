import WorkspaceIndex.ExternalTools
import WorkspaceIndex.Proofs.Manifest.Parsed
import WorkspaceIndex.Proofs.Plan.Build
/-!
# Why there is no plan

Planning a module can fail in three ways. The fetch of its plugin can fail, a Scala 2 module can be
without the version of its compiler, and a fetch can come back without a jar. The last two are there
because a planner takes any build and any fetcher (`build_eq_error_iff`). Over the build of a
manifest and with a fetcher that starts a program they are never taken: validation has asked for the
version, and output without a path counts as a failed fetch (`artifacts_of_fetch`).
-/

namespace WorkspaceIndex

variable {ε : Type}

/-! ### What a program fetches -/

namespace Text

/-- What is left of a text that was trimmed is not blank, unless nothing is left. -/
theorem isAllBlank_trim {s : List Char} (h : trim s ≠ []) : isAllBlank (trim s) = false := by
  have hkept : (trimFront s).reverse.dropWhile isBlank ≠ [] := by
    simpa [trim, trimBack, dropBack] using h
  -- what the second trimming drops ends at a character that is not blank
  have hlast := List.head_dropWhile_not isBlank hkept
  rw [isAllBlank, List.all_eq_false]
  refine ⟨_, ?_, by simpa using hlast⟩
  rw [trim, trimBack, dropBack, List.mem_reverse]
  exact List.head_mem hkept

end Text

namespace PluginFetch

variable {program : String} {plugin : Plugin} {files : FileStore} {machine : Machine}

/-- No path that is read off an output is blank. -/
theorem isAllBlank_of_mem_artifacts {output : List Char} {jar : Path} (h : jar ∈ artifacts output) :
    Text.isAllBlank jar.text.toList = false := by
  obtain ⟨line, hline, rfl⟩ := List.mem_map.1 h
  obtain ⟨hmem, hkept⟩ := List.mem_filter.1 hline
  obtain ⟨whole, -, rfl⟩ := List.mem_map.1 hmem
  rw [Path.text_mk, String.toList_ofList]
  exact Text.isAllBlank_trim (by simpa using hkept)

/-- **A fetch that is answered brings jars, and none of them is blank.** -/
theorem artifacts_of_fetch {jars : List Path}
    (h : (fetch program plugin files machine).1 = .ok jars) :
    jars ≠ [] ∧ ∀ jar ∈ jars, Text.isAllBlank jar.text.toList = false := by
  rw [fetch] at h
  split at h
  · cases h
  · rename_i run _ _
    split at h
    · cases h
    · rename_i found hanswer
      cases h
      rw [answer] at hanswer
      split at hanswer
      · cases hanswer
      · split at hanswer
        · cases hanswer
        · rename_i hsome
          cases hanswer
          exact ⟨hsome, fun _ ↦ isAllBlank_of_mem_artifacts⟩

/-- A fetch that is not answered tells of the plugin. -/
theorem pluginResolution_of_fetch {failure : Failure}
    (h : (fetch program plugin files machine).1 = .error failure) :
    ∃ fault, failure = .pluginResolution plugin fault := by
  rw [fetch] at h
  split at h
  · cases h
    exact ⟨_, rfl⟩
  · split at h <;> cases h
    exact ⟨_, rfl⟩

end PluginFetch

/-! ### Planning -/

namespace Plan

variable {services : Services ε} {destination : Path} {m : Module} {w : World ε} {failure : Failure}

/-- Why a module has no plan. -/
inductive Refused (services : Services ε) (m : Module) (w : World ε) : Failure → Prop
  | fetch {plugin : Plugin} {failure : Failure} (needed : plugin? services.host m = some plugin)
      (refused : (services.fetch plugin w.files w.outside).1 = .error failure) :
      Refused services m w failure
  | missingVersion (variant_eq : m.variant = .scala2) (missing : m.scalaVersion = none) :
      Refused services m w (.missingScalaVersion m.name)
  | missingJar {version : Version} (variant_eq : m.variant = .scala2)
      (given : m.scalaVersion = some version)
      (nothing : (services.fetch (.scalac version) w.files w.outside).1 = .ok []) :
      Refused services m w (.missingPluginJar version)

section Variants

variable {after : World ε}

theorem refused_of_buildScala2 (hm : m.variant = .scala2)
    (h : buildScala2 services destination m w = .error failure after) :
    Refused services m w failure := by
  unfold buildScala2 at h
  rcases hv : m.scalaVersion with - | version
  · simp only [hv] at h
    cases h
    exact .missingVersion hm hv
  · have hneeded : plugin? services.host m = some (.scalac version) := by simp [plugin?, hm, hv]
    simp only [hv] at h
    rcases bind_eq_error.1 h with hfetch | ⟨jars, between, hfetch, hrest⟩
    · exact .fetch hneeded (Run.ofExcept_eq_error.1 hfetch).1
    · have hanswer := (Run.ofExcept_eq_ok.1 hfetch).1
      rcases hp : pluginJar? jars with - | plugin
      · simp only [hp] at hrest
        cases hrest
        rw [pluginJar?_eq_none_iff.1 hp] at hanswer
        exact .missingJar hm hv hanswer
      · simp only [hp] at hrest
        cases hrest

theorem refused_of_buildJava (hm : m.variant = .java)
    (h : buildJava services destination m w = .error failure after) :
    Refused services m w failure := by
  unfold buildJava at h
  rcases hold : javaSkipReason? services.host with - | reason
  · simp only [hold] at h
    rcases bind_eq_error.1 h with hfetch | ⟨jars, between, -, hrest⟩
    · exact .fetch (by simp [plugin?, hm, hold]) (Run.ofExcept_eq_error.1 hfetch).1
    · -- a notice about the runtime cannot fail
      split at hrest <;> cases hrest
  · simp only [hold] at h
    cases h

end Variants

/-- A module whose plugin is refused has no plan. -/
theorem build_of_fetch_eq_error {plugin : Plugin} (needed : plugin? services.host m = some plugin)
    (refused : (services.fetch plugin w.files w.outside).1 = .error failure) :
    ∃ after, build services destination m w = .error failure after := by
  have hfetch : Run.fetch services plugin w = .error failure
      { w.record (.fetched plugin) with outside := (services.fetch plugin w.files w.outside).2 } :=
    Run.ofExcept_eq_error.2 ⟨refused, rfl⟩
  cases hm : m.variant with
  | scala3 => simp [plugin?, hm] at needed
  | scala2 =>
    simp only [plugin?, hm] at needed
    obtain ⟨version, hv, rfl⟩ := Option.map_eq_some_iff.1 needed
    simp only [build, hm, buildScala2, hv]
    exact ⟨_, bind_of_error hfetch⟩
  | java =>
    simp only [plugin?, hm] at needed
    split at needed
    · cases needed
    · rename_i hold
      rw [Bool.not_eq_true, Option.isSome_eq_false_iff, Option.isNone_iff_eq_none] at hold
      cases needed
      simp only [build, hm, buildJava, hold]
      exact ⟨_, bind_of_error hfetch⟩

/-- **Planning a module fails for one of three reasons**, whatever the build and the fetcher. -/
theorem build_eq_error_iff :
    (∃ after, build services destination m w = .error failure after) ↔
      Refused services m w failure := by
  constructor
  · rintro ⟨after, h⟩
    unfold build at h
    cases hm : m.variant with
    | scala3 =>
      simp only [hm] at h
      cases h
    | scala2 =>
      simp only [hm] at h
      exact refused_of_buildScala2 hm h
    | java =>
      simp only [hm] at h
      exact refused_of_buildJava hm h
  · intro h
    cases h with
    | fetch needed refused => exact build_of_fetch_eq_error needed refused
    | missingVersion variant_eq missing =>
      simp only [build, variant_eq, buildScala2, missing]
      exact ⟨w, rfl⟩
    | missingJar variant_eq given nothing =>
      simp only [build, variant_eq, buildScala2, given]
      exact ⟨_, bind_eq_error.2 (Or.inr ⟨[], _, Run.ofExcept_eq_ok.2 ⟨nothing, rfl⟩, rfl⟩)⟩

end Plan

/-! ### Modules of a manifest -/

/-- A Scala 2 module of a manifest that was read has a version. -/
theorem Manifest.scalaVersion_ne_none_of_parse {source : String} {manifest : Manifest}
    (parsed : Manifest.parse source = .ok manifest) {root : Path} {runtimeVersion : Option UInt32}
    {m : Module} (hm : m ∈ (manifest.toGraph root runtimeVersion).modules)
    (scala2 : m.variant = .scala2) : m.scalaVersion ≠ none := by
  obtain ⟨⟨name, config⟩, hentry, rfl⟩ := List.mem_map.1 hm
  obtain ⟨before, after, hsplit⟩ := List.append_of_mem hentry
  exact ((nodup_and_inBuildOrder_of_parse parsed).2 before name config after hsplit).version_given
    scala2

/-- **With a fetcher that starts a program, no module of a manifest that was read lacks anything but
its plugin.** Planning it fails exactly where its plugin is fetched and the program does not bring
it, and then with the failure of the fetch, which tells of that plugin. A fetch that is answered
brings jars, and none of their paths is blank. -/
theorem Plan.build_eq_error_iff_of_parse {source : String} {manifest : Manifest}
    (parsed : Manifest.parse source = .ok manifest) (root : Path) (runtimeVersion : Option UInt32)
    (destination : Path) (program : String) {services : Services Machine}
    (hhost : services.host = manifest.toGraph root runtimeVersion)
    (hfetch : services.fetch = PluginFetch.fetch program) :
    (∀ m ∈ services.host.modules, ∀ (w : World Machine) (failure : Failure),
        (∃ after, build services destination m w = .error failure after) ↔
          ∃ plugin fault, plugin? services.host m = some plugin ∧
            failure = .pluginResolution plugin fault ∧
            (services.fetch plugin w.files w.outside).1 = .error failure) ∧
      ∀ (plugin : Plugin) (files : FileStore) (machine : Machine) (jars : List Path),
        (services.fetch plugin files machine).1 = .ok jars →
          jars ≠ [] ∧ ∀ jar ∈ jars, Text.isAllBlank jar.text.toList = false := by
  refine ⟨fun m hm w failure ↦ ?_, fun plugin files machine jars h ↦ ?_⟩
  · rw [build_eq_error_iff]
    constructor
    · intro h
      cases h with
      | @fetch plugin _ needed refused =>
        obtain ⟨fault, rfl⟩ := PluginFetch.pluginResolution_of_fetch (hfetch ▸ refused)
        exact ⟨plugin, fault, needed, rfl, refused⟩
      | missingVersion variant_eq missing =>
        rw [hhost] at hm
        exact absurd missing (Manifest.scalaVersion_ne_none_of_parse parsed hm variant_eq)
      | missingJar _ _ nothing =>
        exact absurd rfl (PluginFetch.artifacts_of_fetch (hfetch ▸ nothing)).1
    · rintro ⟨plugin, _, needed, -, refused⟩
      exact .fetch needed refused
  · rw [hfetch] at h
    exact PluginFetch.artifacts_of_fetch h

/-- A manifest with a module of each variant that needs a plugin. -/
def pluginsSource : String :=
  "[modules.old]\nvariant = \"scala2\"\nscala_version = \"2.13.12\"\n" ++
    "[modules.app]\nvariant = \"java\"\n"

/-- What `pluginsSource` declares. -/
def pluginsManifest : Manifest where
  modules :=
    [("old", { variant := .scala2, scalaVersion := some ⟨2, 13, 12⟩ }),
      ("app", { variant := .java })]

/-- A program that ends well but prints blank lines at its first start, and two paths at the second.
-/
def blankFetcher : Machine where
  programs :=
    [("cs", .runs [{ output := .text "\n \t\n" }, { output := .text " a.jar \n\nb.jar" }])]

/-- The collaborators of `pluginsManifest`. -/
def pluginsServices : Services Machine :=
  pluginsManifest.tools.services (pluginsManifest.toGraph ⟨"/ws"⟩ none)

/-- The world in which `blankFetcher` was not started yet. -/
def pluginsWorld : World Machine := ⟨⟨[(["ws"], .directory)], ["ws"]⟩, blankFetcher, []⟩

/-- The Scala 2 module fails by its plugin, and the second fetch would bring two jars. -/
theorem Plan.build_pluginsManifest :
    Manifest.parse pluginsSource = .ok pluginsManifest ∧
      pluginsServices.host = pluginsManifest.toGraph ⟨"/ws"⟩ none ∧
      pluginsServices.fetch = PluginFetch.fetch "cs" ∧
      ∃ m ∈ pluginsServices.host.modules, m.variant = .scala2 ∧
        (∃ after, build pluginsServices ⟨"/ws/out"⟩ m pluginsWorld =
          .error (.pluginResolution (.scalac ⟨2, 13, 12⟩) .noArtifacts) after) ∧
        ∃ machine, (pluginsServices.fetch .javac pluginsWorld.files machine).1 =
            .ok [⟨"a.jar"⟩, ⟨"b.jar"⟩] ∧
          Text.isAllBlank (⟨"b.jar"⟩ : Path).text.toList = false := by
  have hparsed : Manifest.parse pluginsSource = .ok pluginsManifest := by decide +kernel
  obtain ⟨hplans, hjars⟩ :=
    @build_eq_error_iff_of_parse _ _ hparsed ⟨"/ws"⟩ none ⟨"/ws/out"⟩ "cs" pluginsServices rfl rfl
  have hrefused : (pluginsServices.fetch (.scalac ⟨2, 13, 12⟩) pluginsWorld.files blankFetcher).1 =
      .error (.pluginResolution (.scalac ⟨2, 13, 12⟩) .noArtifacts) := by decide +kernel
  have hbrought : (pluginsServices.fetch .javac pluginsWorld.files
      (pluginsServices.fetch (.scalac ⟨2, 13, 12⟩) pluginsWorld.files blankFetcher).2).1 =
      .ok [⟨"a.jar"⟩, ⟨"b.jar"⟩] := by decide +kernel
  refine ⟨hparsed, rfl, rfl, _, List.mem_cons_self, rfl,
    (hplans _ List.mem_cons_self pluginsWorld _).2 ⟨_, _, rfl, rfl, hrefused⟩, _, hbrought, ?_⟩
  exact (hjars _ _ _ _ hbrought).2 _ (List.mem_cons_of_mem _ List.mem_cons_self)

end WorkspaceIndex
