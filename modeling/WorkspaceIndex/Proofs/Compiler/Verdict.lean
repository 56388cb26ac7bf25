import WorkspaceIndex.ExternalTools
import WorkspaceIndex.Proofs.Compiler.Outcome
import WorkspaceIndex.Proofs.FileStore.Reach
/-!
# What decides about a module

A module without sources is left alone. For any other, once its destination is there, the compiler
is called once, all that it reports is handed on, and what becomes of the module depends on its
answer alone. `Verdict` says how: reported errors go before everything else, also before the failure
of the compiler itself, and a compiler that ends well after it has reported an error has failed.

For a compiler that is an external program the answer is in turn read off one start of that program
(`CompilerPrograms.compile_of_start`).
-/

namespace WorkspaceIndex

variable {ε : Type}

namespace Run

theorem makeDirectories_of_made {attempt : Attempt} {path : Path} {w : World ε}
    {files : FileStore} (h : w.files.makeDirectories path = (.ok (), files)) :
    makeDirectories attempt path w = .ok () { w with files } := by
  simp only [makeDirectories, h]

/-- The call of a compiler goes on the trace, and after it all that the compiler reports. -/
theorem compile_eq (services : Services ε) (call : CompileCall) (w : World ε) :
    compile services call w =
      let answer := services.compile call w.files w.outside
      .ok answer.1 { w with
        outside := answer.2
        trace := w.trace ++ .compiled call :: answer.1.diagnostics.map .reported } := by
  simp only [compile, World.report, World.record, List.append_assoc, List.singleton_append]

theorem exists_ofExcept_eq_ok {α : Type} {result : Except Failure α} {w : World ε} {a : α} :
    (∃ after, ofExcept result w = .ok a after) ↔ result = .ok a := by
  simp [ofExcept_eq_ok]

end Run

namespace CompilerPrograms

variable {programs : CompilerPrograms} {call : CompileCall} {files : FileStore}
  {machine after : Machine} {command : Command} {run : ProgramRun}

/-- The answer of a compiler that was started is read off that one run of it. -/
theorem compile_of_start (hcommand : programs.command call = .ok command)
    (hstart : machine.start files command = (.ok run, after)) :
    programs.compile call files machine =
      ({ diagnostics := diagnostics call.request run
         result := if run.succeeded then .ok () else .error (.exited command.program run.status) },
        after) := by
  simp only [compile, hcommand, hstart]

/-- To name the module as the origin of a report leaves its severity. -/
theorem severity_of_diagnostics {request : CompileRequest} :
    (∀ d ∈ diagnostics request run, d.severity ≠ .error) ↔
      ∀ d ∈ reports request.variant (writtenText run), d.severity ≠ .error := by
  rw [diagnostics, List.forall_mem_map]

/-- A compiler that is an external program reports no error and ends well exactly if there is a
command line for the call, the program starts, it exits with zero, and no error is read off what it
wrote. -/
theorem answersWell_iff :
    (∀ d ∈ (programs.compile call files machine).1.diagnostics, d.severity ≠ .error) ∧
        (programs.compile call files machine).1.result = .ok () ↔
      ∃ command run after, programs.command call = .ok command ∧
        machine.start files command = (.ok run, after) ∧ run.status = 0 ∧
        ∀ d ∈ reports call.request.variant (writtenText run), d.severity ≠ .error := by
  constructor
  · rintro ⟨hnone, hresult⟩
    rcases hcommand : programs.command call with failure | command
    · simp [compile, hcommand] at hresult
    · rcases hstart : machine.start files command with ⟨cause | run, after⟩
      · simp [compile, hcommand, hstart] at hresult
      · rw [compile_of_start hcommand hstart] at hnone hresult
        refine ⟨command, run, after, rfl, hstart, ?_, severity_of_diagnostics.1 hnone⟩
        by_contra hstatus
        simp [ProgramRun.succeeded, hstatus] at hresult
  · rintro ⟨command, run, after, hcommand, hstart, hstatus, hnone⟩
    rw [compile_of_start hcommand hstart]
    exact ⟨severity_of_diagnostics.2 hnone, by simp [ProgramRun.succeeded, hstatus]⟩

end CompilerPrograms

namespace Outcome

/-- The number of errors among diagnostics. -/
def reportedErrors (diagnostics : List Diagnostic) : Nat :=
  (diagnostics.filter fun d ↦ d.severity = .error).length

/-- What becomes of a module when its compiler has answered. -/
inductive Verdict (module : String) (answer : Answer) : Except Failure Outcome → Prop where
  /-- Errors were reported, and the compiler may have ended in any way. -/
  | errors (positive : 0 < reportedErrors answer.diagnostics) :
    Verdict module answer (.error (.compilation module (reportedErrors answer.diagnostics)))
  /-- No error was reported, but the compiler failed, with this cause. -/
  | failed {cause : Failure} (none_reported : ∀ d ∈ answer.diagnostics, d.severity ≠ .error)
    (result_eq : answer.result = .error cause) :
    Verdict module answer (.error (.toolchain module cause))
  | compiled (none_reported : ∀ d ∈ answer.diagnostics, d.severity ≠ .error)
    (result_eq : answer.result = .ok ()) : Verdict module answer (.ok .compiled)

variable {module : String} {answer : Answer}

theorem errorCount_eq (diagnostics : List Diagnostic) :
    Diagnostic.errorCount diagnostics = reportedErrors diagnostics :=
  List.countP_eq_length_filter

theorem reportedErrors_eq_zero_iff {diagnostics : List Diagnostic} :
    reportedErrors diagnostics = 0 ↔ ∀ d ∈ diagnostics, d.severity ≠ .error := by
  simp [reportedErrors, List.filter_eq_nil_iff]

theorem verdict_ofAnswer : Verdict module answer (ofAnswer module answer) := by
  rw [ofAnswer, errorCount_eq]
  by_cases hzero : reportedErrors answer.diagnostics = 0
  · have hnone := reportedErrors_eq_zero_iff.1 hzero
    rw [if_neg (by simpa using hzero)]
    rcases hresult : answer.result with cause | ⟨⟩
    · exact .failed hnone hresult
    · exact .compiled hnone hresult
  · rw [if_pos (by simpa using hzero)]
    exact .errors (Nat.pos_of_ne_zero hzero)

theorem ofAnswer_eq_compiled_iff :
    ofAnswer module answer = .ok .compiled ↔
      (∀ d ∈ answer.diagnostics, d.severity ≠ .error) ∧ answer.result = .ok () := by
  constructor
  · intro h
    have hverdict : Verdict module answer (.ok .compiled) := h ▸ verdict_ofAnswer
    cases hverdict with
    | compiled none_reported result_eq => exact ⟨none_reported, result_eq⟩
  · rintro ⟨hnone, hresult⟩
    rw [ofAnswer, errorCount_eq, reportedErrors_eq_zero_iff.2 hnone, hresult]
    rfl

variable {services : Services ε} {request : CompileRequest}
  {prerequisites : Option PrerequisiteOutput} {w : World ε} {made : FileStore}

/-- Once the destination is there, the compiler is called and its answer decides. -/
theorem ofRequest_of_made (hsources : request.sources ≠ [])
    (hmade : w.files.makeDirectories request.destination = (.ok (), made)) :
    let call := callOf request prerequisites
    let answer := services.compile call made w.outside
    ofRequest services request prerequisites w =
      Run.ofExcept (ofAnswer request.module answer.1)
        { files := made
          outside := answer.2
          trace := w.trace ++ .compiled call :: answer.1.diagnostics.map .reported } := by
  rw [ofRequest_of_sources_ne_nil hsources, bind_of_ok (Run.makeDirectories_of_made hmade),
    bind_of_ok (Run.compile_eq services _ _)]

/-- **Compiling a module.**

There is nothing to compile exactly if there are no sources, and then nothing is done: the world
with its files and its trace is what it was. With sources, once the destination is there, the
compiler is called once, through the entry for the variant, with the request and the outputs of
prerequisites as they are. On the trace that call is followed by all that it reported, in order, and
the answer decides what becomes of the module (`Verdict`). The failure of a module by its compiler
tells the whole chain of that compiler's failure.

So with a compiler that is an external program a module is compiled exactly if there is a command
line for it, the program starts, it exits with zero, and no error is read off what it wrote. -/
theorem ofRequest_verdict (services : Services ε) (request : CompileRequest)
    (prerequisites : Option PrerequisiteOutput) :
    (∀ w, ((∃ after, ofRequest services request prerequisites w = .ok .nothingToCompile after) ↔
          request.sources = []) ∧
        (request.sources = [] → leaves (ofRequest services request prerequisites w) = w) ∧
        (request.sources ≠ [] → ∀ made,
          w.files.makeDirectories request.destination = (.ok (), made) →
            let call := ⟨if request.variant.isScala then .mixed else .java, request, prerequisites⟩
            let answer := services.compile call made w.outside
            ∃ result, Verdict request.module answer.1 result ∧
              ofRequest services request prerequisites w =
                Run.ofExcept result
                  { files := made
                    outside := answer.2
                    trace := w.trace ++ .compiled call :: answer.1.diagnostics.map .reported })) ∧
      (∀ module cause, (Failure.toolchain module cause).message =
        s!"compilation of module '{module}' failed: {cause.chain}") ∧
      ∀ (programs : CompilerPrograms) (services : Services Machine) (w : World Machine),
        services.compile = programs.compile → request.sources ≠ [] →
          w.files.isDirectory request.destination = true →
            ((∃ after, ofRequest services request prerequisites w = .ok .compiled after) ↔
              ∃ command run after,
                programs.command (callOf request prerequisites) = .ok command ∧
                w.outside.start w.files command = (.ok run, after) ∧ run.status = 0 ∧
                ∀ d ∈ CompilerPrograms.reports request.variant (CompilerPrograms.writtenText run),
                  d.severity ≠ .error) := by
  refine ⟨fun w ↦ ⟨⟨fun ⟨after, h⟩ ↦ ?_, fun hnil ↦ ⟨w, ofRequest_of_sources_nil hnil⟩⟩,
    fun hnil ↦ ?_, fun hsources made hmade ↦ ?_⟩, fun _ _ ↦ rfl,
    fun programs services w hcompile hsources hdirectory ↦ ?_⟩
  · obtain ⟨hnil, -, -⟩ | ⟨-, houtcome, -⟩ := ofRequest_eq_ok h
    · exact hnil
    · cases houtcome
  · rw [ofRequest_of_sources_nil hnil, leaves_ok]
  · rw [← CompilerEntry.ofVariant_eq]
    exact ⟨_, verdict_ofAnswer, ofRequest_of_made hsources hmade⟩
  · rw [ofRequest_of_made hsources (FileStore.makeDirectories_of_isDirectory hdirectory),
      Run.exists_ofExcept_eq_ok, ofAnswer_eq_compiled_iff, hcompile]
    exact CompilerPrograms.answersWell_iff

/-- An order to compile one source. -/
def oneSource : CompileRequest where
  module := "core"
  variant := .scala3
  sources := [⟨"/ws/A.scala"⟩]
  options := ["-Xsemanticdb"]
  javacOptions := []
  classpath := [⟨"/ws/a.jar"⟩]
  pluginClasspath := []
  destination := ⟨"/ws/out"⟩
  workspaceRoot := ⟨"/ws"⟩

/-- A compiler that warns, reports an error, and crashes. -/
def crashingServices : Services Unit :=
  .stateless { root := ⟨"/ws"⟩ } (fun _ ↦ .ok [])
    (fun _ ↦ {
      diagnostics := [.plain .warning "core" "unused import", .plain .error "core" "type mismatch"]
      result := .error (.other "scalac crashed" ["out of memory"]) })
    fun _ ↦ {}

/-- A workspace with its destination and with a compiler that prints a text and ends well. -/
def printingWorld (output : String) : World Machine where
  files := ⟨[(["ws"], .directory), (["ws", "out"], .directory)], ["ws"]⟩
  outside := { programs := [("scalac", .runs [{ output := .text output }])] }

/-- Collaborators that compile by the programs of a machine. -/
def programServices : Services Machine :=
  ({} : ToolsConfig).services { root := ⟨"/ws"⟩ }

/-- Of a compiler that reports an error and crashes the error is told. A program that only warns and
ends well has compiled the module; one that prints an error has not, although it ends well. -/
theorem ofRequest_verdict_oneSource :
    ofRequest crashingServices oneSource none ⟨⟨[(["ws"], .directory)], ["ws"]⟩, (), []⟩ =
        .error (.compilation "core" 1)
          ⟨⟨[(["ws"], .directory), (["ws", "out"], .directory)], ["ws"]⟩, (),
            [.compiled ⟨.mixed, oneSource, none⟩,
              .reported (.plain .warning "core" "unused import"),
              .reported (.plain .error "core" "type mismatch")]⟩ ∧
      (∃ after, ofRequest programServices oneSource none
        (printingWorld "-- Warning: A.scala:1:0 --\n") = .ok .compiled after) ∧
      ¬ ∃ after, ofRequest programServices oneSource none
        (printingWorld "-- Error: A.scala:1:0 --\n") = .ok .compiled after := by
  have hcompiled := (ofRequest_verdict programServices oneSource none).2.2 ⟨"scalac", "javac"⟩
    programServices
  refine ⟨?_, ?_, fun h ↦ ?_⟩
  · obtain ⟨result, hverdict, hrun⟩ :=
      ((ofRequest_verdict crashingServices oneSource none).1
        ⟨⟨[(["ws"], .directory)], ["ws"]⟩, (), []⟩).2.2 (by decide) _ rfl
    rw [hrun]
    cases hverdict with
    | errors positive => rfl
    | failed none_reported result_eq => exact absurd none_reported (by decide)
    | compiled none_reported result_eq => cases result_eq
  · exact (hcompiled _ rfl (by decide) (by decide +kernel)).2 ⟨_, _, _, rfl, rfl, rfl, by decide⟩
  · obtain ⟨command, run, after, hcommand, hstart, -, hnone⟩ :=
      (hcompiled _ rfl (by decide) (by decide +kernel)).1 h
    cases hcommand
    cases hstart
    exact absurd hnone (by decide)

end Outcome

end WorkspaceIndex
