import WorkspaceIndex.ExternalTools
import WorkspaceIndex.Proofs.Plan.Build
import WorkspaceIndex.Proofs.Text.Words
/-!
# What the plugin of the Java compiler is told

The plugin is told the root of the sources, the directory for its output and the name of the build
tool, all three in one option. The option is a text, in which a path stands as it is shown, and the
compiler takes it apart at white space; there is no way to write a blank that does not separate. So
a letter arrives if and only if it is a character that is no white space, and the option is read
back if and only if this holds for all letters of the three (`javacPluginOption_of_build`). Nothing
keeps white space out of them: below a directory with a space in its name the plugin is told the
beginning of the root, and words that it does not know (`sourceroot_cut_at_blank`).

Which characters count as white space is left open. It is enough that the space does and that all
others that do are blank.
-/

namespace WorkspaceIndex.Plan

/-- The words that the plugin of the Java compiler has to see: its name, and after it the root of
the sources, the destination and the build tool. -/
def pluginWords (root destination : Path) (buildTool : String) : List OsText :=
  ["-Xplugin:semanticdb", OsText.ofText "-sourceroot:" ++ root.letters,
    OsText.ofText "-targetroot:" ++ destination.letters,
    OsText.ofText "-build-tool:" ++ OsText.ofText buildTool]

/-- The option is its words as they are shown, with a space between each and the next. -/
theorem toList_javacPluginOption (root destination : Path) (buildTool : String) :
    (javacPluginOption root destination buildTool).toList =
      [' '].intercalate ((pluginWords root destination buildTool).map (·.text.toList)) := by
  have hoption : javacPluginOption root destination buildTool =
      "-Xplugin:semanticdb" ++ " -sourceroot:" ++ root.text ++ " -targetroot:" ++
        destination.text ++ " -build-tool:" ++ buildTool := rfl
  rw [hoption]
  simp only [String.toList_append, pluginWords, List.map_cons, List.map_nil, OsText.text_append,
    OsText.text_ofText, List.intercalate_cons_cons, List.intercalate_singleton, List.append_assoc]
  rfl

variable {isSeparator : Char → Bool} {root destination : Path} {buildTool : String}

/-- A letter that is seen as it is where a text is taken apart at separators. -/
def Arrives (isSeparator : Char → Bool) : Letter → Prop
  | .char c => isSeparator c = false
  | .stray _ => False

theorem forall_arrives_map_char_iff {chars : List Char} :
    (∀ letter ∈ chars.map .char, Arrives isSeparator letter) ↔
      ∀ c ∈ chars, isSeparator c = false :=
  List.forall_mem_map

/-- Letters that all arrive are characters, and so they are shown as they are. -/
theorem map_char_text {letters : OsText} (h : ∀ letter ∈ letters, Arrives isSeparator letter) :
    letters.text.toList.map .char = letters := by
  rw [OsText.toList_text, List.map_map]
  refine (List.map_congr_left fun letter hletter ↦ ?_).trans (List.map_id _)
  rcases letter with c | bytes
  · rfl
  · exact (h _ hletter).elim

/-- A text arrives where none of its characters is blank. -/
theorem arrives_of_any_isBlank (hblank : ∀ c, isSeparator c = true → Text.isBlank c = true)
    {text : String} (h : text.toList.any Text.isBlank = false) :
    ∀ letter ∈ OsText.ofText text, Arrives isSeparator letter :=
  forall_arrives_map_char_iff.2 fun c hc ↦
    Bool.eq_false_iff.2 (mt (hblank c) (List.any_eq_false.1 h c hc))

/-- Letters that are introduced by a text without blanks arrive as they do by themselves. -/
theorem forall_arrives_append_iff (hblank : ∀ c, isSeparator c = true → Text.isBlank c = true)
    {head : String} {letters : OsText} (hhead : head.toList.any Text.isBlank = false) :
    (∀ letter ∈ OsText.ofText head ++ letters, Arrives isSeparator letter) ↔
      ∀ letter ∈ letters, Arrives isSeparator letter := by
  rw [List.forall_mem_append]
  exact and_iff_right (arrives_of_any_isBlank hblank hhead)

/-- The words arrive exactly if what they are made of does. -/
theorem forall_mem_pluginWords_iff
    (hblank : ∀ c, isSeparator c = true → Text.isBlank c = true) :
    (∀ word ∈ pluginWords root destination buildTool, ∀ letter ∈ word,
        Arrives isSeparator letter) ↔
      ∀ letters ∈ [root.letters, destination.letters, .ofText buildTool], ∀ letter ∈ letters,
        Arrives isSeparator letter := by
  simp only [pluginWords, List.forall_mem_cons]
  rw [forall_arrives_append_iff hblank (by decide), forall_arrives_append_iff hblank (by decide),
    forall_arrives_append_iff hblank (by decide)]
  exact and_iff_right (arrives_of_any_isBlank hblank (by decide))

theorem ne_nil_of_mem_pluginWords :
    ∀ word ∈ (pluginWords root destination buildTool).map (·.text.toList), word ≠ [] := by
  simp only [pluginWords, List.map_cons, List.map_nil, OsText.text_append, OsText.text_ofText,
    String.toList_append, List.forall_mem_cons]
  simp

/-- What is seen of the option by a reader who takes it apart at separators. -/
def seenWords (isSeparator : Char → Bool) (option : String) : List OsText :=
  (Text.words isSeparator option.toList).map (·.map .char)

/-- **A word is seen exactly if all its letters arrive.** -/
theorem mem_seenWords_iff (hspace : isSeparator ' ' = true) {word : OsText}
    (hword : word ∈ pluginWords root destination buildTool) :
    word ∈ seenWords isSeparator (javacPluginOption root destination buildTool) ↔
      ∀ letter ∈ word, Arrives isSeparator letter := by
  rw [seenWords, List.mem_map]
  constructor
  · rintro ⟨chars, hchars, rfl⟩
    exact forall_arrives_map_char_iff.2 (Text.eq_false_of_mem_words hchars)
  · intro h
    have hshown := map_char_text h
    refine ⟨word.text.toList, ?_, hshown⟩
    have hmem := List.mem_map_of_mem (f := fun word : OsText ↦ word.text.toList) hword
    rw [toList_javacPluginOption,
      Text.mem_words_intercalate_iff hspace hmem (ne_nil_of_mem_pluginWords _ hmem)]
    exact forall_arrives_map_char_iff.1 (hshown.symm ▸ h)

/-- All words are seen, and nothing else, exactly if all letters arrive. -/
theorem seenWords_eq_iff (hspace : isSeparator ' ' = true) :
    seenWords isSeparator (javacPluginOption root destination buildTool) =
        pluginWords root destination buildTool ↔
      ∀ word ∈ pluginWords root destination buildTool, ∀ letter ∈ word,
        Arrives isSeparator letter := by
  constructor
  · intro hseen word hword
    exact (mem_seenWords_iff hspace hword).1 (hseen ▸ hword)
  · intro h
    have hclear : ∀ word ∈ (pluginWords root destination buildTool).map (·.text.toList),
        ∀ c ∈ word, isSeparator c = false := by
      rw [List.forall_mem_map]
      intro word hword
      exact forall_arrives_map_char_iff.1 ((map_char_text (h word hword)).symm ▸ h word hword)
    rw [seenWords, toList_javacPluginOption,
      (Text.words_intercalate_eq_iff hspace ne_nil_of_mem_pluginWords).2 hclear, List.map_map]
    exact (List.map_congr_left fun word hword ↦ map_char_text (h word hword)).trans
      (List.map_id _)

variable {ε : Type} {services : Services ε} {m : Module} {w after : World ε}
  {request : CompileRequest}

/-- **What the plugin of the Java compiler is told.** The plan of a Java module adds one option for
the plugin to those of the module, and to it the options of the release. Of the words that the
plugin has to see it sees those of which all letters arrive: they are characters, and none is white
space. So it sees the root, the destination and the build tool of the plan, and nothing else, if and
only if all letters of the three arrive. -/
theorem javacPluginOption_of_build (hvariant : m.variant = .java)
    (hbuild : build services destination m w = .ok (.compile request) after)
    (hspace : isSeparator ' ' = true)
    (hblank : ∀ c, isSeparator c = true → Text.isBlank c = true) :
    ∃ option, request.javacOptions = m.javacOptions ++
        option :: (services.host.runtimeVersion.map exportOptions).getD [] ∧
      let told := pluginWords request.workspaceRoot request.destination services.host.buildTool
      let seen := seenWords isSeparator option
      (∀ word ∈ told, word ∈ seen ↔ ∀ letter ∈ word, Arrives isSeparator letter) ∧
        (seen = told ↔ ∀ letters ∈ [request.workspaceRoot.letters, request.destination.letters,
          .ofText services.host.buildTool], ∀ letter ∈ letters, Arrives isSeparator letter) := by
  cases build_eq_ok_iff.1 ⟨after, hbuild⟩ with
  | scala3 variant_eq => rw [hvariant] at variant_eq; cases variant_eq
  | scala2 variant_eq => rw [hvariant] at variant_eq; cases variant_eq
  | java variant_eq young answer =>
    refine ⟨javacPluginOption services.host.root destination services.host.buildTool,
      List.append_assoc _ _ _, fun word hword ↦ mem_seenWords_iff hspace hword, ?_⟩
    exact (seenWords_eq_iff hspace).trans (forall_mem_pluginWords_iff hblank)

/-- The white space of ASCII, at which the Java compiler takes an option apart. -/
def isAsciiSpace (c : Char) : Bool := c.toNat == 32 || (9 ≤ c.toNat && c.toNat ≤ 13)

theorem isBlank_of_isAsciiSpace {c : Char} (h : isAsciiSpace c = true) : Text.isBlank c = true := by
  rw [isAsciiSpace, Bool.or_eq_true] at h
  rcases h with h | h <;> simp [Text.isBlank, h]

/-- A manifest with a Java module, below a root whose name has a space in it. -/
def spacedSource : String :=
  "[workspace]\nroot = \"my app\"\njava_version = 11\n[modules.app]\nvariant = \"java\"\n"

/-- The manifest of `spacedSource` as it is read in `/ws`. -/
def spacedFile : ManifestFile where
  path := ⟨"semdex.toml"⟩
  directory := ⟨"/ws"⟩
  manifest := {
    workspace := { root := some ⟨"my app"⟩, javaVersion := some 11 }
    modules := [("app", { variant := .java })] }

/-- A workspace with `spacedSource` in it. -/
def spacedStore : FileStore :=
  ⟨[(["ws"], .directory), (["ws", "semdex.toml"], .file (.text spacedSource))], ["ws"]⟩

/-- The build of the manifest of `spacedFile` under a root, with a fetcher that brings a plugin. -/
def appServices (root : Path) : Services Unit :=
  .stateless (spacedFile.manifest.toGraph root (some 11))
    (fun _ ↦ .ok [⟨"/cache/semanticdb-javac.jar"⟩]) (fun _ ↦ {}) fun _ ↦ {}

/-- The module of `spacedFile`. -/
def appModule : Module where
  name := "app"
  variant := .java

/-- The world in which `spacedFile` is read. -/
def spacedWorld : World Unit := ⟨spacedStore, (), []⟩

/-- Below a root without white space the plugin is told everything. -/
theorem javacPluginOption_of_appModule :
    ∃ request after option,
      build (appServices ⟨"/ws"⟩) ⟨"/ws/out"⟩ appModule spacedWorld = .ok (.compile request) after ∧
        request.javacOptions = [option] ∧
        seenWords isAsciiSpace option = pluginWords ⟨"/ws"⟩ ⟨"/ws/out"⟩ "semdex" := by
  obtain ⟨option, hoptions, -, hseen⟩ :=
    @javacPluginOption_of_build isAsciiSpace ⟨"/ws/out"⟩ _ (appServices ⟨"/ws"⟩) appModule
      spacedWorld _ _ rfl rfl (by decide) fun _ ↦ isBlank_of_isAsciiSpace
  have hnone : ∀ text ∈ ["/ws", "/ws/out", "semdex"], text.toList.any Text.isBlank = false := by
    decide
  have hall : ∀ letters ∈ ["/ws", "/ws/out", "semdex"].map OsText.ofText, ∀ letter ∈ letters,
      Arrives isAsciiSpace letter := List.forall_mem_map.2 fun text htext ↦
    arrives_of_any_isBlank (fun _ ↦ isBlank_of_isAsciiSpace) (hnone text htext)
  exact ⟨_, _, option, rfl, hoptions, hseen.2 hall⟩

/-- Below a root with a space in its name the plugin is told the beginning of the root, and a word
that it does not know. -/
theorem sourceroot_cut_at_blank :
    ManifestFile.read spacedStore ⟨"semdex.toml"⟩ = .ok spacedFile ∧
      destinationFor ⟨"/ws"⟩ spacedFile.root (some ⟨"out"⟩) = .ok ⟨"/ws/out"⟩ ∧
      appModule ∈ (appServices spacedFile.root).host.modules ∧
      ∃ request after option,
        build (appServices spacedFile.root) ⟨"/ws/out"⟩ appModule spacedWorld =
            .ok (.compile request) after ∧
          request.javacOptions = [option] ∧
          seenWords isAsciiSpace option =
            (["-Xplugin:semanticdb", "-sourceroot:/ws/my", "app", "-targetroot:/ws/out",
              "-build-tool:semdex"] : List OsText) ∧
          seenWords isAsciiSpace option ≠ pluginWords spacedFile.root ⟨"/ws/out"⟩ "semdex" := by
  refine ⟨by decide +kernel, by decide +kernel, by decide, _, _, _, rfl, rfl, ?_, ?_⟩
  · decide +kernel
  · decide +kernel

end WorkspaceIndex.Plan
