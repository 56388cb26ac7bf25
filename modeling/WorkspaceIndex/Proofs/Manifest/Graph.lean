import Mathlib.Data.List.Forall2
import Mathlib.Logic.Relation
import WorkspaceIndex.HostGraph
import WorkspaceIndex.Proofs.Manifest.Parsed
import WorkspaceIndex.Proofs.Path.Dedup
/-!
# The build of a manifest

A manifest becomes a build module by module, and a reference to another module becomes the path of
its output. The lookup behind a reference has a fallback for names that it does not find, so that
every reference means a declared module is not to be seen in the lookup: it is the validator that
grants it, and the distinct names that make the lookup find the declaration in front.

The order is also why no module is compiled against itself over others. Along the relation positions
decrease, and from one step to a chain of steps this is an induction over the chain.
-/

namespace WorkspaceIndex

/-! ### Positions -/

/-- A module of the list names another as one that it is compiled against. -/
def Lists (modules : List (String × ModuleConfig)) (name prerequisite : String) : Prop :=
  ∃ config, (name, config) ∈ modules ∧ prerequisite ∈ config.prerequisites

section Positions

variable {modules : List (String × ModuleConfig)} {name p : String} {config : ModuleConfig}

/-- What a module is compiled against stands at a smaller position. -/
theorem InBuildOrder.exists_earlier (order : InBuildOrder modules) {i : Nat}
    (h : modules[i]? = some (name, config)) (hp : p ∈ config.prerequisites) :
    ∃ j < i, ∃ earlier, modules[j]? = some (p, earlier) := by
  obtain ⟨hi, hget⟩ := List.getElem?_eq_some_iff.1 h
  have hsplit : modules = modules.take i ++ (name, config) :: modules.drop (i + 1) := by
    rw [← hget, ← List.drop_eq_getElem_cons hi, List.take_append_drop]
  obtain ⟨⟨p', earlier⟩, hmem, rfl⟩ :=
    List.mem_map.1 ((order _ _ _ _ hsplit).prerequisites_earlier p hp)
  obtain ⟨j, hj, hfound⟩ := List.mem_iff_getElem.1 hmem
  rw [List.length_take] at hj
  rw [List.getElem_take] at hfound
  exact ⟨j, by omega, earlier, List.getElem?_eq_some_iff.2 ⟨by omega, hfound⟩⟩

theorem idxOf_of_getElem? (distinct : (modules.map Prod.fst).Nodup) {i : Nat}
    (h : modules[i]? = some (name, config)) : (modules.map Prod.fst).idxOf name = i := by
  obtain ⟨hi, hget⟩ := List.getElem?_eq_some_iff.1 h
  have hlength : i < (modules.map Prod.fst).length := by
    rw [List.length_map]
    exact hi
  have hname : (modules.map Prod.fst)[i] = name := by
    rw [List.getElem_map, hget]
  rw [← hname]
  exact distinct.idxOf_getElem i hlength

/-- **The order of declaration is a topological one.** -/
theorem InBuildOrder.idxOf_lt (order : InBuildOrder modules)
    (distinct : (modules.map Prod.fst).Nodup) (h : Lists modules name p) :
    (modules.map Prod.fst).idxOf p < (modules.map Prod.fst).idxOf name := by
  obtain ⟨config, hmem, hp⟩ := h
  obtain ⟨i, hi⟩ := List.mem_iff_getElem?.1 hmem
  obtain ⟨j, hj, earlier, hearlier⟩ := order.exists_earlier hi hp
  rw [idxOf_of_getElem? distinct hi, idxOf_of_getElem? distinct hearlier]
  exact hj

/-- **No module is compiled against itself, be it over others.** -/
theorem InBuildOrder.acyclic (order : InBuildOrder modules)
    (distinct : (modules.map Prod.fst).Nodup) : ¬ Relation.TransGen (Lists modules) name name := by
  have hdecreases : ∀ other, Relation.TransGen (Lists modules) name other →
      (modules.map Prod.fst).idxOf other < (modules.map Prod.fst).idxOf name := by
    intro other hchain
    induction hchain with
    | single hstep => exact order.idxOf_lt distinct hstep
    | tail _ hstep ih => exact Nat.lt_trans (order.idxOf_lt distinct hstep) ih
  exact fun hcycle ↦ Nat.lt_irrefl _ (hdecreases name hcycle)

/-- A lookup finds the declaration at any position, as names are distinct. -/
theorem lookup_of_getElem? (distinct : (modules.map Prod.fst).Nodup) {i : Nat}
    (h : modules[i]? = some (name, config)) : modules.lookup name = some config := by
  obtain ⟨before, after, rfl⟩ := List.append_of_mem (List.mem_of_getElem? h)
  rw [List.map_append, List.map_cons] at distinct
  refine List.lookup_eq_some_iff.2 ⟨before, after, rfl, fun entry hentry ↦ ?_⟩
  have hother := (List.nodup_append.1 distinct).2.2 entry.1 (List.mem_map_of_mem hentry) name
    List.mem_cons_self
  simpa using hother.symm

end Positions

/-! ### Modules -/

/-- The output of a declared module under a workspace root. -/
def ModuleConfig.outputUnder (root : Path) (name : String) (config : ModuleConfig) : Path :=
  match config.output with
  | some output => root.join output
  | none => ((root.join ⟨"out"⟩).join ⟨name⟩).join ⟨"classes"⟩

/-- A module of a build is the one that the declaration at position `i` describes: its data are
those of the declaration with the paths seen from the root, and it carries a token exactly if it is
compiled against other modules, with one output for each of them, which stands in front of it. -/
structure Describes (root : Path) (declared : List (String × ModuleConfig)) (built : List Module)
    (i : Nat) (name : String) (config : ModuleConfig) (m : Module) : Prop where
  name_eq : m.name = name
  variant_eq : m.variant = config.variant
  scalaVersion_eq : m.scalaVersion = config.scalaVersion
  sources_eq : m.sources = config.sources.map root.join
  classpath_eq : m.classpath = Path.firstOccurrences (config.classpath.map root.join)
  options_eq : m.options = config.options
  javacOptions_eq : m.javacOptions = config.javacOptions
  dependencies_eq : m.dependencies = config.dependencies.map root.join
  prerequisites_eq_none_iff : m.prerequisites = none ↔ config.prerequisites = []
  outputs : ∀ token, m.prerequisites = some token →
    List.Forall₂ (fun p output ↦ ∃ j < i, ∃ earlier, declared[j]? = some (p, earlier) ∧
      (built[j]?).map Module.name = some p ∧ output = earlier.outputUnder root p)
      config.prerequisites token.outputs

namespace Manifest

variable {m : Manifest} {root : Path}

theorem moduleOutput_eq (distinct : (m.modules.map Prod.fst).Nodup) {i : Nat} {name : String}
    {config : ModuleConfig} (h : m.modules[i]? = some (name, config)) :
    m.moduleOutput root name = config.outputUnder root name := by
  rw [moduleOutput, module?, lookup_of_getElem? distinct h]
  rfl

theorem prerequisiteOutput?_eq_none_iff {config : ModuleConfig} :
    m.prerequisiteOutput? root config = none ↔ config.prerequisites = [] := by
  simp [prerequisiteOutput?]

theorem map_name_toGraph (m : Manifest) (root : Path) (runtimeVersion : Option UInt32) :
    (m.toGraph root runtimeVersion).modules.map Module.name = m.modules.map Prod.fst := by
  show (m.modules.map _).map Module.name = _
  rw [List.map_map]
  rfl

theorem getElem?_toGraph {runtimeVersion : Option UInt32} {i : Nat} {name : String}
    {config : ModuleConfig} (h : m.modules[i]? = some (name, config)) :
    (m.toGraph root runtimeVersion).modules[i]? = some (m.toModule root name config) := by
  show (m.modules.map _)[i]? = _
  rw [List.getElem?_map, h]
  rfl

/-- The module of a declaration in a list in build order. -/
theorem describes_toModule (distinct : (m.modules.map Prod.fst).Nodup)
    (order : InBuildOrder m.modules) (runtimeVersion : Option UInt32) {i : Nat} {name : String}
    {config : ModuleConfig} (h : m.modules[i]? = some (name, config)) :
    Describes root m.modules (m.toGraph root runtimeVersion).modules i name config
      (m.toModule root name config) where
  name_eq := rfl
  variant_eq := rfl
  scalaVersion_eq := rfl
  sources_eq := rfl
  classpath_eq := Path.dedup_eq_firstOccurrences _
  options_eq := rfl
  javacOptions_eq := rfl
  dependencies_eq := rfl
  prerequisites_eq_none_iff := prerequisiteOutput?_eq_none_iff
  outputs := by
    intro token htoken
    have houtputs : token.outputs = config.prerequisites.map (m.moduleOutput root) := by
      change m.prerequisiteOutput? root config = some token at htoken
      rw [prerequisiteOutput?] at htoken
      split at htoken
      · cases htoken
      · cases htoken
        rfl
    rw [houtputs, List.forall₂_map_right_iff, List.forall₂_same]
    intro p hp
    -- the declaration stands in front, so the lookup finds it and its fallback is not taken
    obtain ⟨j, hj, earlier, hearlier⟩ := order.exists_earlier h hp
    refine ⟨j, hj, earlier, hearlier, ?_, moduleOutput_eq distinct hearlier⟩
    rw [getElem?_toGraph hearlier]
    rfl

/-- **The build of a manifest that was read has its modules, in a topological order.** The names are
those of the declarations, each once and in the order of declaration, and every module is the one
that its declaration describes. -/
theorem toGraph_of_parse {source : String} (parsed : Manifest.parse source = .ok m) (root : Path)
    (runtimeVersion : Option UInt32) :
    (m.toGraph root runtimeVersion).modules.map Module.name = m.modules.map Prod.fst ∧
      (m.modules.map Prod.fst).Nodup ∧
      (∀ name p, Lists m.modules name p →
        (m.modules.map Prod.fst).idxOf p < (m.modules.map Prod.fst).idxOf name) ∧
      (∀ name, ¬ Relation.TransGen (Lists m.modules) name name) ∧
      ∀ i name config, m.modules[i]? = some (name, config) →
        ∃ built, (m.toGraph root runtimeVersion).modules[i]? = some built ∧
          Describes root m.modules (m.toGraph root runtimeVersion).modules i name config built := by
  obtain ⟨distinct, order⟩ := nodup_and_inBuildOrder_of_parse parsed
  refine ⟨map_name_toGraph m root runtimeVersion, distinct,
    fun name p hlists ↦ order.idxOf_lt distinct hlists, fun name ↦ order.acyclic distinct,
    fun i name config h ↦ ?_⟩
  exact ⟨_, getElem?_toGraph h, describes_toModule distinct order runtimeVersion h⟩

/-- A manifest of three modules, the last of which is compiled against the others. -/
def layeredSource : String :=
  "[modules.core]\nvariant = \"scala3\"\noutput = \"build/core\"\n" ++
    "[modules.util]\nvariant = \"scala3\"\n" ++
    "[modules.app]\nvariant = \"java\"\nupstream = [\"util\", \"core\"]\n"

/-- What `layeredSource` declares. -/
def layered : Manifest where
  modules :=
    [("core", { variant := .scala3, output := some ⟨"build/core"⟩ }),
      ("util", { variant := .scala3 }),
      ("app", { variant := .java, prerequisites := ["util", "core"] })]

/-- The last module gets one default output and one that was declared. -/
theorem toGraph_of_layered :
    Manifest.parse layeredSource = .ok layered ∧
      ¬ Relation.TransGen (Lists layered.modules) "app" "app" ∧
      ∃ app, (layered.toGraph ⟨"/ws"⟩ none).modules[2]? = some app ∧
        Describes ⟨"/ws"⟩ layered.modules (layered.toGraph ⟨"/ws"⟩ none).modules 2 "app"
          { variant := .java, prerequisites := ["util", "core"] } app ∧
        app.prerequisites = some ⟨[⟨"/ws/out/util/classes"⟩, ⟨"/ws/build/core"⟩]⟩ := by
  have hparsed : Manifest.parse layeredSource = .ok layered := by decide +kernel
  obtain ⟨-, -, -, hacyclic, hmodules⟩ := toGraph_of_parse hparsed ⟨"/ws"⟩ none
  obtain ⟨app, happ, hdescribes⟩ := hmodules 2 "app" _ rfl
  have htoken : ((layered.toGraph ⟨"/ws"⟩ none).modules[2]?).map Module.prerequisites =
      some (some ⟨[⟨"/ws/out/util/classes"⟩, ⟨"/ws/build/core"⟩]⟩) := by decide +kernel
  rw [happ] at htoken
  exact ⟨hparsed, hacyclic "app", app, happ, hdescribes, Option.some.inj htoken⟩

end Manifest

end WorkspaceIndex
