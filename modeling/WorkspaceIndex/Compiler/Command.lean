import WorkspaceIndex.Compiler.Output.Scala3
import WorkspaceIndex.World
/-!
# Compilers as external programs

A request becomes the command line of a compiler, which runs in the workspace root. All that the
compiler writes is read for reports, first its output and then its errors, in the style of its
variant. The entry decides the program and the options; the variant decides how output is read.
-/

namespace WorkspaceIndex

/-- The programs that compile. -/
structure CompilerPrograms where
  scalac : String
  javac : String
  deriving DecidableEq, Repr

namespace CompilerPrograms

/-- The program behind an entry. -/
def program (programs : CompilerPrograms) : CompilerEntry → String
  | .mixed => programs.scalac
  | .java => programs.javac

/-- The options of a request that an entry passes on. -/
def options (request : CompileRequest) : CompilerEntry → List String
  | .mixed => request.options
  | .java => request.javacOptions

/-- The classpath of a call: that of the request, and after it the outputs of prerequisites. -/
def classpathEntries (call : CompileCall) : List Path :=
  call.request.classpath ++ (call.prerequisites.map PrerequisiteOutput.outputs).getD []

/-- Paths joined by colons, unless one of them holds a colon. -/
def joinPaths? (paths : List Path) : Option OsText :=
  if paths.any fun path ↦ path.letters.contains (.char ':') then none
  else some ([.char ':'].intercalate (paths.map Path.letters))

/-- The arguments that pass a joined classpath on. -/
def classpathArguments (joined : OsText) : List OsText :=
  if joined.isEmpty then [] else ["-classpath", joined]

/-- The command line of a call. -/
def command (programs : CompilerPrograms) (call : CompileCall) : Except Failure Command :=
  match joinPaths? (classpathEntries call) with
  | none => .error (.invalidClasspath call.request.module)
  | some joined => .ok {
      program := programs.program call.entry
      directory := some call.request.workspaceRoot
      arguments := (options call.request call.entry).map .ofText ++
        [.ofText "-d", call.request.destination.letters] ++
        classpathArguments joined ++ call.request.sources.map Path.letters }

/-- The reports in the output of the compiler of a variant. -/
def reports (variant : Variant) (output : List Char) : List Diagnostic :=
  match variant with
  | .scala3 => Scala3Output.reports output
  | .scala2 | .java => JavacStyle.reports output

/-- What a compiler wrote: its output, and right after it its errors. -/
def writtenText (run : ProgramRun) : List Char :=
  run.output.lenientText.toList ++ run.errors.lenientText.toList

/-- What is read off a finished compiler: its reports, made in the name of the module. -/
def diagnostics (request : CompileRequest) (run : ProgramRun) : List Diagnostic :=
  (reports request.variant (writtenText run)).map fun d ↦ { d with origin := request.module }

/-- Compiles by an external program. -/
def compile (programs : CompilerPrograms) (call : CompileCall) (files : FileStore)
    (machine : Machine) : Answer × Machine :=
  match programs.command call with
  | .error failure => ({ result := .error failure }, machine)
  | .ok command =>
    match machine.start files command with
    | (.error cause, machine) =>
      ({ result := .error (.refused (.runProgram command.program) cause) }, machine)
    | (.ok run, machine) =>
      ({ diagnostics := diagnostics call.request run
         result :=
          if run.succeeded then .ok () else .error (.exited command.program run.status) },
        machine)

end CompilerPrograms

end WorkspaceIndex
