import WorkspaceIndex.Compiler.Outcome
import WorkspaceIndex.Proofs.Run.Calls
/-!
# How the compiling of a module ends

Four ends and no other: a request without sources asks for nothing; the destination is refused; the
compiler was called and its answer counts as a failure; the compiler was called and all is well.
For each, the calls are known exactly, so a compiler is called at most once for a request, and it
is called with the request as it is.
-/

namespace WorkspaceIndex

/-- Scala modules go through the mixed entry, all others through the one for Java. -/
theorem CompilerEntry.ofVariant_eq (variant : Variant) :
    CompilerEntry.ofVariant variant = if variant.isScala then .mixed else .java := by
  cases variant <;> rfl

/-- The outputs of other modules that a compiler is given with a call. -/
def CompileCall.givenOutputs (call : CompileCall) : List Path :=
  (call.prerequisites.map PrerequisiteOutput.outputs).getD []

namespace Outcome

variable {ε : Type} {services : Services ε} {request : CompileRequest}
  {prerequisites : Option PrerequisiteOutput} {w after : World ε}

/-- The call of the toolchain for a request. -/
def callOf (request : CompileRequest) (prerequisites : Option PrerequisiteOutput) : CompileCall :=
  ⟨.ofVariant request.variant, request, prerequisites⟩

theorem ofRequest_of_sources_nil (h : request.sources = []) :
    ofRequest services request prerequisites w = .ok .nothingToCompile w := by
  rw [ofRequest, h]
  rfl

/-- The steps of compiling a request with sources. -/
theorem ofRequest_of_sources_ne_nil (h : request.sources ≠ []) :
    ofRequest services request prerequisites =
      Run.makeDirectories (.createDestination request.destination) request.destination >>=
        fun _ ↦ Run.compile services (callOf request prerequisites) >>=
          fun answer ↦ Run.ofExcept (ofAnswer request.module answer) := by
  rw [ofRequest, if_neg (by simpa using h)]
  rfl

/-- An answer that counts as no failure means that the module is compiled. -/
theorem eq_compiled_of_ofAnswer {module : String} {answer : Answer} {outcome : Outcome}
    (h : ofAnswer module answer = .ok outcome) : outcome = .compiled := by
  simp only [ofAnswer] at h
  split at h
  · cases h
  · split at h
    · cases h
    · cases h
      rfl

/-- The failures that an answer can count as. -/
theorem ofAnswer_eq_error {module : String} {answer : Answer} {failure : Failure}
    (h : ofAnswer module answer = .error failure) :
    (∃ errors, failure = .compilation module errors) ∨
      ∃ cause, failure = .toolchain module cause := by
  simp only [ofAnswer] at h
  split at h
  · cases h
    exact Or.inl ⟨_, rfl⟩
  · split at h
    · cases h
      exact Or.inr ⟨_, rfl⟩
    · cases h

/-- A compiling that ends well either had nothing to do or called the compiler once. -/
theorem ofRequest_eq_ok {outcome : Outcome}
    (h : ofRequest services request prerequisites w = .ok outcome after) :
    (request.sources = [] ∧ outcome = .nothingToCompile ∧ after = w) ∨
      (request.sources ≠ [] ∧ outcome = .compiled ∧
        w.Advances after [.compiled (callOf request prerequisites)]) := by
  by_cases hsources : request.sources = []
  · rw [ofRequest_of_sources_nil hsources] at h
    cases h
    exact Or.inl ⟨hsources, rfl, rfl⟩
  · refine Or.inr ⟨hsources, ?_⟩
    rw [ofRequest_of_sources_ne_nil hsources] at h
    obtain ⟨_, made, hmade, hrest⟩ := bind_eq_ok.1 h
    obtain ⟨answer, called, hcalled, hend⟩ := bind_eq_ok.1 hrest
    obtain ⟨hanswer, rfl⟩ := Run.ofExcept_eq_ok.1 hend
    have hdirectories := Run.makeDirectories_advances w
      (.createDestination request.destination) request.destination
    rw [hmade] at hdirectories
    have hcall := Run.compile_advances services made (callOf request prerequisites)
    rw [hcalled] at hcall
    exact ⟨eq_compiled_of_ofAnswer hanswer, hdirectories.trans hcall⟩

/-- A compiling fails before the compiler is called, as the destination is refused, or after it. -/
theorem ofRequest_eq_error {failure : Failure}
    (h : ofRequest services request prerequisites w = .error failure after) :
    request.sources ≠ [] ∧
      ((∃ cause, failure = .refused (.createDestination request.destination) cause ∧
          w.Advances after []) ∨
        (∃ answer, ofAnswer request.module answer = .error failure ∧
          w.Advances after [.compiled (callOf request prerequisites)])) := by
  have hsources : request.sources ≠ [] := by
    intro hnil
    rw [ofRequest_of_sources_nil hnil] at h
    cases h
  refine ⟨hsources, ?_⟩
  rw [ofRequest_of_sources_ne_nil hsources] at h
  have hdirectories := Run.makeDirectories_advances w
    (.createDestination request.destination) request.destination
  rcases bind_eq_error.1 h with hrefused | ⟨_, made, hmade, hrest⟩
  · obtain ⟨cause, rfl⟩ := Run.refused_of_makeDirectories w hrefused
    rw [hrefused] at hdirectories
    exact Or.inl ⟨cause, rfl, hdirectories⟩
  · rw [hmade] at hdirectories
    rcases bind_eq_error.1 hrest with hcall | ⟨answer, called, hcalled, hend⟩
    · exact absurd hcall (Run.compile_ne_error services made)
    · obtain ⟨hanswer, rfl⟩ := Run.ofExcept_eq_error.1 hend
      have hcall := Run.compile_advances services made (callOf request prerequisites)
      rw [hcalled] at hcall
      exact Or.inr ⟨answer, hanswer, hdirectories.trans hcall⟩

end Outcome

end WorkspaceIndex
