import WorkspaceIndex.World
/-!
# Compiling one module

A request without sources asks for nothing. Any other makes its destination and calls the toolchain
once, and then the reported errors decide before anything else: a compiler that reports an error
has failed even if it ends well.
-/

namespace WorkspaceIndex

/-- How the compiling of a module ended well. -/
inductive Outcome where
  | compiled
  /-- The module has no sources. -/
  | nothingToCompile
  deriving DecidableEq, Repr

namespace Outcome

/-- The outcome of a module whose compiler answered. -/
def ofAnswer (module : String) (answer : Answer) : Except Failure Outcome :=
  let errors := Diagnostic.errorCount answer.diagnostics
  if errors ≠ 0 then .error (.compilation module errors)
  else match answer.result with
    | .error cause => .error (.toolchain module cause)
    | .ok () => .ok .compiled

/-- Compiles a module by its request and hands the outputs of its prerequisites on as they
are. -/
def ofRequest {ε : Type} (services : Services ε) (request : CompileRequest)
    (prerequisites : Option PrerequisiteOutput) : Run ε Outcome :=
  if request.sources.isEmpty then pure .nothingToCompile
  else do
    Run.makeDirectories (.createDestination request.destination) request.destination
    let entry := CompilerEntry.ofVariant request.variant
    let call : CompileCall := ⟨entry, request, prerequisites⟩
    let answer ← Run.compile services call
    Run.ofExcept (ofAnswer request.module answer)

end Outcome

end WorkspaceIndex
