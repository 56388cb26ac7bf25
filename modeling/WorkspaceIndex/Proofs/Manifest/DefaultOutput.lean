import WorkspaceIndex.Proofs.Manifest.Graph
import WorkspaceIndex.Proofs.Path.Below
/-!
# Default outputs

A module without a declared output is put into `out/<name>/classes` under the workspace root, and
the name is one that a user has chosen. With a separator in it, or as `..`, it could lead out of
that directory or to the output of another module. The grammar of names excludes this: a valid name
is the name of an entry (`ValidName.fileName`), so it adds one step to the path and can be read off
it again.
-/

namespace WorkspaceIndex

variable {name : String}

/-! ### Names as steps of a path -/

/-- **A valid name is the name of an entry of a directory.** -/
theorem ValidName.fileName (h : ValidName name) : FileName name := by
  obtain ⟨first, rest, hname, hfirst, hrest⟩ := h
  have hstart : isNameStart first = true := isNameStart_iff.2 hfirst
  rw [FileName, hname]
  refine ⟨List.cons_ne_nil _ _, fun hdot ↦ ?_, fun hdots ↦ ?_, fun hmem ↦ ?_⟩
  · rw [(List.cons.inj hdot).1] at hstart
    exact absurd hstart (by decide)
  · rw [(List.cons.inj hdots).1] at hstart
    exact absurd hstart (by decide)
  · rcases List.mem_cons.1 hmem with rfl | hmem
    · exact absurd hstart (by decide)
    · exact absurd (isNameChar_iff.2 (hrest _ hmem)) (by decide)

theorem InBuildOrder.name_valid {modules : List (String × ModuleConfig)} {config : ModuleConfig}
    (order : InBuildOrder modules) (h : (name, config) ∈ modules) : ValidName name := by
  obtain ⟨before, after, hsplit⟩ := List.append_of_mem h
  exact (order before name config after hsplit).name_valid

/-! ### Default outputs as paths -/

namespace Manifest

variable {source : String} {m : Manifest} {config : ModuleConfig}

theorem components_outputUnder (root : Path) (hname : ValidName name)
    (houtput : config.output = none) :
    (config.outputUnder root name).components =
      (root.join ⟨"out"⟩).components ++ [.name name, .name "classes"] := by
  rw [ModuleConfig.outputUnder, houtput]
  show (((root.join ⟨"out"⟩).join ⟨name⟩).join ⟨"classes"⟩).components = _
  rw [Path.components_join_fileName (by decide), Path.components_join_fileName hname.fileName,
    List.append_assoc, List.singleton_append]

/-- The default output of the module at a position. -/
theorem components_moduleOutput (parsed : Manifest.parse source = .ok m) (root : Path) {i : Nat}
    (hmodule : m.modules[i]? = some (name, config)) (houtput : config.output = none) :
    (m.moduleOutput root name).components =
      (root.join ⟨"out"⟩).components ++ [.name name, .name "classes"] := by
  obtain ⟨distinct, order⟩ := nodup_and_inBuildOrder_of_parse parsed
  rw [moduleOutput_eq distinct hmodule]
  exact components_outputUnder root (order.name_valid (List.mem_of_getElem? hmodule)) houtput

/-- **The default outputs of a manifest that was read**, under any root. Each of them is two steps
below the directory `out`, the first of which is the name of the module, and those of two modules
are never the same path. -/
theorem moduleOutput_of_parse (parsed : Manifest.parse source = .ok m) (root : Path) :
    (root.join ⟨"out"⟩).components = root.components ++ [.name "out"] ∧
      (∀ name config, (name, config) ∈ m.modules → config.output = none →
        (m.moduleOutput root name).components =
            (root.join ⟨"out"⟩).components ++ [.name name, .name "classes"] ∧
          (m.moduleOutput root name).Below (root.join ⟨"out"⟩)) ∧
      ∀ (i j : Nat) (name other : String) (config otherConfig : ModuleConfig),
        m.modules[i]? = some (name, config) → m.modules[j]? = some (other, otherConfig) →
        config.output = none → otherConfig.output = none → i ≠ j →
        ¬Path.Same (m.moduleOutput root name) (m.moduleOutput root other) := by
  refine ⟨Path.components_join_fileName (by decide), fun name config hmem houtput ↦ ?_, ?_⟩
  · obtain ⟨i, hmodule⟩ := List.mem_iff_getElem?.1 hmem
    have hcomponents := components_moduleOutput parsed root hmodule houtput
    exact ⟨hcomponents, [name, "classes"], List.cons_ne_nil _ _, hcomponents⟩
  · intro i j name other config otherConfig hmodule hother houtput hotherOutput hne hsame
    rw [Path.Same, components_moduleOutput parsed root hmodule houtput,
      components_moduleOutput parsed root hother hotherOutput, List.append_cancel_left_eq] at hsame
    -- the name is a step of the path, and no two modules have one name
    obtain rfl : name = other :=
      OsText.ofText_injective (Component.name.inj (List.cons.inj hsame).1)
    have distinct := (nodup_and_inBuildOrder_of_parse parsed).1
    exact hne ((idxOf_of_getElem? distinct hmodule).symm.trans (idxOf_of_getElem? distinct hother))

/-- A manifest of three modules with dots and dashes in their names, one of which declares its
output. -/
def dottedSource : String :=
  "[modules.\"a..b\"]\nvariant = \"scala3\"\n" ++
    "[modules.out]\nvariant = \"java\"\noutput = \"out/_-/classes\"\n" ++
    "[modules._-]\nvariant = \"java\"\n"

/-- What `dottedSource` declares. -/
def dotted : Manifest where
  modules :=
    [("a..b", { variant := .scala3 }),
      ("out", { variant := .java, output := some ⟨"out/_-/classes"⟩ }),
      ("_-", { variant := .java })]

/-- The two default outputs under a root that ends in a separator and a dot. -/
theorem moduleOutput_of_dotted :
    Manifest.parse dottedSource = .ok dotted ∧
      (dotted.moduleOutput ⟨"/ws/."⟩ "a..b").components =
        [.root, .name "ws", .name "out", .name "a..b", .name "classes"] ∧
      (dotted.moduleOutput ⟨"/ws/."⟩ "_-").Below ⟨"/ws/./out"⟩ ∧
      ¬Path.Same (dotted.moduleOutput ⟨"/ws/."⟩ "a..b")
        (dotted.moduleOutput ⟨"/ws/."⟩ "_-") := by
  have hparsed : Manifest.parse dottedSource = .ok dotted := by decide +kernel
  obtain ⟨-, hdefault, hapart⟩ := moduleOutput_of_parse hparsed ⟨"/ws/."⟩
  have hout : (Path.join ⟨"/ws/."⟩ ⟨"out"⟩) = ⟨"/ws/./out"⟩ := by decide
  rw [hout] at hdefault
  have hcomponents : (⟨"/ws/./out"⟩ : Path).components = [.root, .name "ws", .name "out"] := by
    decide
  have hfirst := (hdefault _ _ (List.mem_of_getElem? (i := 0) rfl) rfl).1
  rw [hcomponents] at hfirst
  exact ⟨hparsed, hfirst, (hdefault _ _ (List.mem_of_getElem? (i := 2) rfl) rfl).2,
    hapart 0 2 _ _ _ _ rfl rfl rfl rfl (by decide)⟩

end Manifest

end WorkspaceIndex
