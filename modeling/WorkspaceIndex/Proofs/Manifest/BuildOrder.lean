import Mathlib.Data.List.Nodup
import WorkspaceIndex.Manifest.Validation
/-!
# Validation and build order

Validation is a scan that stops at the first fault. Here it is compared with two things that are
said without a scan:

* `InBuildOrder`: every module is `InOrder` after those declared before it, which is a property of
  the list as a whole;
* `Offends`: what is wrong with one module, with the precedence of the four faults in the premises
  of the constructors.

The names of a list are distinct, and this is needed. A module that lists itself is refused even
where an earlier one of its name would make the reference good; with distinct names there is none.
-/

namespace WorkspaceIndex

/-! ### Names -/

/-- A letter of the alphabet, in either case. -/
def IsLetter (c : Char) : Prop := ('A' ≤ c ∧ c ≤ 'Z') ∨ ('a' ≤ c ∧ c ≤ 'z')

/-- A decimal digit. -/
def IsDigit (c : Char) : Prop := '0' ≤ c ∧ c ≤ '9'

/-- A name: a letter or an underscore, and then letters, digits, underscores, dots and dashes. -/
def ValidName (name : String) : Prop :=
  ∃ first rest, name.toList = first :: rest ∧ (IsLetter first ∨ first = '_') ∧
    ∀ c ∈ rest, IsLetter c ∨ IsDigit c ∨ c = '_' ∨ c = '.' ∨ c = '-'

theorem isAlpha_iff {c : Char} : c.isAlpha = true ↔ IsLetter c := by
  have hupper : c.isUpper = true ↔ 'A' ≤ c ∧ c ≤ 'Z' := decide_eq_true_iff
  have hlower : c.isLower = true ↔ 'a' ≤ c ∧ c ≤ 'z' := by
    show (decide _ && decide _) = true ↔ _
    rw [Bool.and_eq_true, decide_eq_true_iff, decide_eq_true_iff]
    rfl
  show (c.isUpper || c.isLower) = true ↔ IsLetter c
  rw [Bool.or_eq_true, hupper, hlower]
  rfl

theorem isDigit_iff {c : Char} : c.isDigit = true ↔ IsDigit c := by
  show (decide _ && decide _) = true ↔ IsDigit c
  rw [Bool.and_eq_true, decide_eq_true_iff, decide_eq_true_iff]
  rfl

theorem isNameStart_iff {c : Char} : isNameStart c = true ↔ IsLetter c ∨ c = '_' := by
  simp [isNameStart, isAlpha_iff]

theorem isNameChar_iff {c : Char} :
    isNameChar c = true ↔ IsLetter c ∨ IsDigit c ∨ c = '_' ∨ c = '.' ∨ c = '-' := by
  simp [isNameChar, Char.isAlphanum, isAlpha_iff, isDigit_iff]
  tauto

/-- A name without a fault is a valid one. -/
theorem nameFault?_eq_none_iff {name : String} : nameFault? name = none ↔ ValidName name := by
  unfold nameFault? ValidName
  rcases name.toList with - | ⟨first, rest⟩
  · simp
  · have hall : rest.all isNameChar = true ↔
        ∀ c ∈ rest, IsLetter c ∨ IsDigit c ∨ c = '_' ∨ c = '.' ∨ c = '-' := by
      simp [List.all_eq_true, isNameChar_iff]
    by_cases hstart : isNameStart first = true <;> by_cases hrest : rest.all isNameChar = true
    · simpa [hstart, hrest] using ⟨isNameStart_iff.1 hstart, hall.1 hrest⟩
    · simpa [hstart, hrest] using fun _ ↦ mt hall.2 hrest
    · simpa [hstart] using fun h ↦ absurd (isNameStart_iff.2 h) hstart
    · simpa [hstart] using fun h ↦ absurd (isNameStart_iff.2 h) hstart

/-! ### Modules after those declared before them -/

/-- A declaration that is in order after modules of the given names. -/
structure InOrder (earlier : List String) (name : String) (config : ModuleConfig) : Prop where
  name_valid : ValidName name
  version_given : config.variant = .scala2 → config.scalaVersion ≠ none
  prerequisites_earlier : ∀ p ∈ config.prerequisites, p ∈ earlier

/-- A list of declarations each of which is in order after those before it. -/
def InBuildOrder (modules : List (String × ModuleConfig)) : Prop :=
  ∀ before name config after, modules = before ++ (name, config) :: after →
    InOrder (before.map Prod.fst) name config

/-- What is wrong with a declaration after modules of the given names. A later constructor asks that
no earlier one applies. -/
inductive Offends (earlier : List String) (name : String) (config : ModuleConfig) :
    ModuleFault → Prop
  | invalidName {reason : NameFault} (invalid : ¬ ValidName name)
      (reason_eq : nameFault? name = some reason) :
      Offends earlier name config (.invalidName reason)
  | missingScalaVersion (valid : ValidName name) (scala2 : config.variant = .scala2)
      (missing : config.scalaVersion = none) : Offends earlier name config .missingScalaVersion
  | selfPrerequisite (valid : ValidName name)
      (given : config.variant = .scala2 → config.scalaVersion ≠ none)
      (lists : name ∈ config.prerequisites) : Offends earlier name config .selfPrerequisite
  | unknownPrerequisite {p : String} {front back : List String} (valid : ValidName name)
      (given : config.variant = .scala2 → config.scalaVersion ≠ none)
      (lists : name ∉ config.prerequisites) (split : config.prerequisites = front ++ p :: back)
      (known : ∀ q ∈ front, q ∈ earlier) (unknown : p ∉ earlier) :
      Offends earlier name config (.unknownPrerequisite p)

section OneModule

variable {earlier : List String} {name : String} {config : ModuleConfig}

theorem not_missing_iff :
    (config.variant = .scala2 && config.scalaVersion.isNone) = false ↔
      (config.variant = .scala2 → config.scalaVersion ≠ none) := by
  rcases config.scalaVersion with - | version <;> simp

theorem moduleFault?_of_valid (hvalid : ValidName name) :
    moduleFault? earlier name config =
      if config.variant = .scala2 && config.scalaVersion.isNone then some .missingScalaVersion
      else if config.prerequisites.contains name then some .selfPrerequisite
      else (config.prerequisites.find? fun p ↦ !earlier.contains p).map .unknownPrerequisite := by
  rw [moduleFault?, nameFault?_eq_none_iff.2 hvalid]

theorem offends_of_moduleFault? {fault : ModuleFault}
    (h : moduleFault? earlier name config = some fault) : Offends earlier name config fault := by
  by_cases hvalid : ValidName name
  · rw [moduleFault?_of_valid hvalid] at h
    split at h
    · rename_i hmissing
      cases h
      simp only [Bool.and_eq_true, decide_eq_true_eq, Option.isNone_iff_eq_none] at hmissing
      exact .missingScalaVersion hvalid hmissing.1 hmissing.2
    · rename_i hgiven
      rw [Bool.not_eq_true, not_missing_iff] at hgiven
      split at h
      · rename_i hlists
        cases h
        exact .selfPrerequisite hvalid hgiven (by simpa using hlists)
      · rename_i hlists
        obtain ⟨p, hfound, rfl⟩ := Option.map_eq_some_iff.1 h
        obtain ⟨hunknown, front, back, hsplit, hknown⟩ := List.find?_eq_some_iff_append.1 hfound
        exact .unknownPrerequisite hvalid hgiven (by simpa using hlists) hsplit
          (by simpa using hknown) (by simpa using hunknown)
  · obtain ⟨reason, hreason⟩ : ∃ reason, nameFault? name = some reason :=
      Option.ne_none_iff_exists'.1 (mt nameFault?_eq_none_iff.1 hvalid)
    rw [moduleFault?, hreason] at h
    cases h
    exact .invalidName hvalid hreason

theorem moduleFault?_of_offends {fault : ModuleFault} (h : Offends earlier name config fault) :
    moduleFault? earlier name config = some fault := by
  cases h with
  | invalidName _ reason_eq => rw [moduleFault?, reason_eq]
  | missingScalaVersion valid scala2 missing =>
    rw [moduleFault?_of_valid valid, if_pos (by simp [scala2, missing])]
  | selfPrerequisite valid given lists =>
    rw [moduleFault?_of_valid valid, not_missing_iff.2 given, if_neg (by simp),
      if_pos (by simpa using lists)]
  | @unknownPrerequisite p front back valid given lists split known unknown =>
    have hfound : (config.prerequisites.find? fun q ↦ !earlier.contains q) = some p :=
      List.find?_eq_some_iff_append.2
        ⟨by simpa using unknown, front, back, split, by simpa using known⟩
    rw [moduleFault?_of_valid valid, not_missing_iff.2 given, if_neg (by simp),
      if_neg (by simpa using lists), hfound, Option.map_some]

/-- A module without a fault is in order and does not list itself. -/
theorem moduleFault?_eq_none_iff :
    moduleFault? earlier name config = none ↔
      InOrder earlier name config ∧ name ∉ config.prerequisites := by
  by_cases hvalid : ValidName name
  · rw [moduleFault?_of_valid hvalid]
    have hfind : (config.prerequisites.find? fun p ↦ !earlier.contains p) = none ↔
        ∀ p ∈ config.prerequisites, p ∈ earlier := by simp
    by_cases hgiven : config.variant = .scala2 → config.scalaVersion ≠ none
    · rw [not_missing_iff.2 hgiven, if_neg (by simp)]
      by_cases hlists : name ∈ config.prerequisites
      · simp [hlists]
      · rw [if_neg (by simpa using hlists), Option.map_eq_none_iff, hfind]
        exact ⟨fun h ↦ ⟨⟨hvalid, hgiven, h⟩, hlists⟩, fun h ↦ h.1.prerequisites_earlier⟩
    · rw [if_pos (by simpa using mt not_missing_iff.1 hgiven)]
      simpa using fun h : InOrder earlier name config ↦ absurd h.version_given hgiven
  · obtain ⟨reason, hreason⟩ : ∃ reason, nameFault? name = some reason :=
      Option.ne_none_iff_exists'.1 (mt nameFault?_eq_none_iff.1 hvalid)
    rw [moduleFault?, hreason]
    simpa using fun h : InOrder earlier name config ↦ absurd h.name_valid hvalid

end OneModule

/-! ### The list of modules -/

theorem firstFault?_cons_of_none {earlier : List String} {name : String} {config : ModuleConfig}
    {rest : List (String × ModuleConfig)} (h : moduleFault? earlier name config = none) :
    firstFault? earlier ((name, config) :: rest) = firstFault? (earlier ++ [name]) rest := by
  rw [firstFault?, h]

theorem firstFault?_cons_of_some {earlier : List String} {name : String} {config : ModuleConfig}
    {rest : List (String × ModuleConfig)} {fault : ModuleFault}
    (h : moduleFault? earlier name config = some fault) :
    firstFault? earlier ((name, config) :: rest) = some (name, fault) := by
  rw [firstFault?, h]

/-- A list without a fault is one in which no module has one. -/
theorem firstFault?_eq_none_iff {modules : List (String × ModuleConfig)} :
    ∀ {earlier : List String},
      firstFault? earlier modules = none ↔
        ∀ before name config after, modules = before ++ (name, config) :: after →
          moduleFault? (earlier ++ before.map Prod.fst) name config = none := by
  -- the earlier names grow along the scan, so the induction is for all of them
  induction modules with
  | nil => simp [firstFault?]
  | cons entry rest ih =>
    intro earlier
    obtain ⟨name, config⟩ := entry
    rcases hfault : moduleFault? earlier name config with - | fault
    · rw [firstFault?_cons_of_none hfault, ih]
      constructor
      · intro h before n c after heq
        rcases before with - | ⟨head, before⟩
        · cases heq
          simpa using hfault
        · cases heq
          simpa using h before n c after rfl
      · rintro h before n c after rfl
        simpa using h ((name, config) :: before) n c after rfl
    · rw [firstFault?_cons_of_some hfault]
      refine ⟨fun h ↦ (nomatch h), fun h ↦ ?_⟩
      have hnone := h [] name config rest rfl
      rw [List.map_nil, List.append_nil, hfault] at hnone
      cases hnone

/-- The scan stops at the first module with a fault. -/
theorem firstFault?_eq_some_iff {modules : List (String × ModuleConfig)} {name : String}
    {fault : ModuleFault} :
    ∀ {earlier : List String},
      firstFault? earlier modules = some (name, fault) ↔
        ∃ before config after, modules = before ++ (name, config) :: after ∧
          firstFault? earlier before = none ∧
          moduleFault? (earlier ++ before.map Prod.fst) name config = some fault := by
  induction modules with
  | nil => simp [firstFault?]
  | cons entry rest ih =>
    intro earlier
    obtain ⟨first, config⟩ := entry
    rcases hfault : moduleFault? earlier first config with - | found
    · rw [firstFault?_cons_of_none hfault, ih]
      constructor
      · rintro ⟨before, c, after, rfl, hbefore, hfound⟩
        refine ⟨(first, config) :: before, c, after, rfl, ?_, by simpa using hfound⟩
        rw [firstFault?_cons_of_none hfault, hbefore]
      · rintro ⟨before, c, after, heq, hbefore, hfound⟩
        rcases before with - | ⟨head, before⟩
        · cases heq
          rw [List.map_nil, List.append_nil, hfault] at hfound
          cases hfound
        · cases heq
          rw [firstFault?_cons_of_none hfault] at hbefore
          exact ⟨before, c, after, rfl, hbefore, by simpa using hfound⟩
    · rw [firstFault?_cons_of_some hfault]
      constructor
      · rintro h
        cases h
        exact ⟨[], config, rest, rfl, rfl, by simpa using hfault⟩
      · rintro ⟨before, c, after, heq, hbefore, hfound⟩
        rcases before with - | ⟨head, before⟩
        · cases heq
          rw [List.map_nil, List.append_nil, hfault] at hfound
          cases hfound
          rfl
        · cases heq
          rw [firstFault?_cons_of_some hfault] at hbefore
          cases hbefore

/-- **With distinct names, a list has no fault exactly when it is in build order.** -/
theorem firstFault?_eq_none_iff_inBuildOrder {modules : List (String × ModuleConfig)}
    (distinct : (modules.map Prod.fst).Nodup) :
    firstFault? [] modules = none ↔ InBuildOrder modules := by
  rw [firstFault?_eq_none_iff]
  constructor
  · intro h before name config after heq
    simpa using (moduleFault?_eq_none_iff.1 (h before name config after heq)).1
  · intro h before name config after heq
    have horder := h before name config after heq
    refine moduleFault?_eq_none_iff.2 ⟨by simpa using horder, fun hself ↦ ?_⟩
    -- a module that lists itself would have been declared before itself
    have hearlier := horder.prerequisites_earlier name hself
    rw [heq, List.map_append, List.map_cons] at distinct
    exact (List.nodup_append.1 distinct).2.2 name hearlier name List.mem_cons_self rfl

/-- **With distinct names, the first fault is that of the first module that offends.** -/
theorem firstFault?_eq_some_iff_offends {modules : List (String × ModuleConfig)} {name : String}
    {fault : ModuleFault} (distinct : (modules.map Prod.fst).Nodup) :
    firstFault? [] modules = some (name, fault) ↔
      ∃ before config after, modules = before ++ (name, config) :: after ∧
        InBuildOrder before ∧ Offends (before.map Prod.fst) name config fault := by
  have hbefore : ∀ {before : List (String × ModuleConfig)} {config : ModuleConfig}
      {after : List (String × ModuleConfig)}, modules = before ++ (name, config) :: after →
        (firstFault? [] before = none ↔ InBuildOrder before) := by
    rintro before config after rfl
    rw [List.map_append] at distinct
    exact firstFault?_eq_none_iff_inBuildOrder (List.nodup_append.1 distinct).1
  rw [firstFault?_eq_some_iff]
  constructor
  · rintro ⟨before, config, after, heq, hnone, hfound⟩
    exact ⟨before, config, after, heq, (hbefore heq).1 hnone, offends_of_moduleFault? hfound⟩
  · rintro ⟨before, config, after, heq, horder, hoffends⟩
    exact ⟨before, config, after, heq, (hbefore heq).2 horder, moduleFault?_of_offends hoffends⟩

namespace Manifest

theorem validate_eq_ok_iff {source : String} {m : Manifest} :
    m.validate source = .ok () ↔ firstFault? [] m.modules = none := by
  unfold validate
  rcases firstFault? [] m.modules with - | ⟨name, fault⟩ <;> simp

theorem validate_eq_error_iff {source : String} {m : Manifest} {error : ManifestError} :
    m.validate source = .error error ↔ ∃ name fault, firstFault? [] m.modules = some (name, fault) ∧
      error = .invalidModule name fault (faultSpan? source name fault) := by
  unfold validate
  rcases firstFault? [] m.modules with - | ⟨name, fault⟩
  · simp
  · simp [eq_comm]

/-- **Validation accepts the module lists in build order and reports the first offence of any
other.** The modules in front of the one that is reported are in build order, and of its faults the
one that comes first in `Offends` is reported. -/
theorem validate_iff (source : String) (m : Manifest)
    (distinct : (m.modules.map Prod.fst).Nodup) :
    (m.validate source = .ok () ↔ InBuildOrder m.modules) ∧
      ∀ error, m.validate source = .error error ↔
        ∃ before name config after fault, m.modules = before ++ (name, config) :: after ∧
          InBuildOrder before ∧ Offends (before.map Prod.fst) name config fault ∧
          error = .invalidModule name fault (faultSpan? source name fault) := by
  refine ⟨validate_eq_ok_iff.trans (firstFault?_eq_none_iff_inBuildOrder distinct), fun error ↦ ?_⟩
  rw [validate_eq_error_iff]
  constructor
  · rintro ⟨name, fault, hfault, rfl⟩
    obtain ⟨before, config, after, heq, horder, hoffends⟩ :=
      (firstFault?_eq_some_iff_offends distinct).1 hfault
    exact ⟨before, name, config, after, fault, heq, horder, hoffends, rfl⟩
  · rintro ⟨before, name, config, after, fault, heq, horder, hoffends, rfl⟩
    exact ⟨name, fault, (firstFault?_eq_some_iff_offends distinct).2
      ⟨before, config, after, heq, horder, hoffends⟩, rfl⟩

/-- Three modules: one in order, one that lists an unknown module and then itself, and one with a
name that is not valid. -/
def tangled : Manifest where
  modules :=
    [("core", { variant := .java }),
      ("app",
        { variant := .scala2, scalaVersion := some ⟨2, 13, 12⟩, prerequisites := ["lib", "app"] }),
      ("1st", { variant := .scala2 })]

/-- Of the faults of `tangled` the reference of the second module to itself is reported. -/
theorem validate_tangled :
    (tangled.modules.map Prod.fst).Nodup ∧ ¬ InBuildOrder tangled.modules ∧
      tangled.validate "" = .error (.invalidModule "app" .selfPrerequisite none) := by
  have hdistinct : (tangled.modules.map Prod.fst).Nodup := by decide
  obtain ⟨haccepts, hreports⟩ := validate_iff "" tangled hdistinct
  have hvalid : ValidName "app" := nameFault?_eq_none_iff.1 (by decide +kernel)
  have hcore : InBuildOrder [("core", { variant := .java })] :=
    (firstFault?_eq_none_iff_inBuildOrder (by decide)).1 (by decide +kernel)
  have hfailed : tangled.validate "" = .error (.invalidModule "app" .selfPrerequisite none) :=
    (hreports _).2 ⟨_, "app", _, _, .selfPrerequisite, rfl, hcore,
      .selfPrerequisite hvalid (by simp) (by simp), rfl⟩
  refine ⟨hdistinct, fun horder ↦ ?_, hfailed⟩
  rw [haccepts.2 horder] at hfailed
  cases hfailed

end Manifest

end WorkspaceIndex
