import WorkspaceIndex.OsError
import WorkspaceIndex.OutputFormat
import WorkspaceIndex.Package
import WorkspaceIndex.Program
/-!
# Failures

Every cause for which a run stops, with the words of its report. A failure is reported by one
message and the messages of the causes beneath it, outermost first; its *chain* is all of them in
one line.
-/

namespace WorkspaceIndex

/-- What was being done when the operating system refused. -/
inductive Attempt where
  | createDirectory (path : Path)
  | createDestination (path : Path)
  | writeFile (path : Path)
  | resolveDestination (path : Path)
  | runProgram (program : String)
  | runJava (program : String)
  deriving DecidableEq, Repr

/-- The sentence for an attempt that failed. -/
def Attempt.message : Attempt → String
  | .createDirectory path => s!"failed to create '{path}'"
  | .createDestination path => s!"failed to create destination directory '{path}'"
  | .writeFile path => s!"failed to write '{path}'"
  | .resolveDestination path => s!"invalid destination '{path}'"
  | .runProgram program => s!"failed to run '{program}'"
  | .runJava program =>
    s!"failed to run '{program} -version'; set workspace.java_version in semdex.toml"

/-- Why a compiler plugin could not be fetched. -/
inductive FetchFault where
  | notStarted (program : String) (cause : OsError)
  /-- The program refused, and said this. -/
  | refused (reason : String)
  | noArtifacts
  deriving DecidableEq, Repr

/-- The words of a fault. -/
def FetchFault.message : FetchFault → String
  | .notStarted program cause => s!"failed to run '{program}': {cause.message}"
  | .refused reason => reason
  | .noArtifacts => "no artifacts returned"

/-- Why no index was built. -/
inductive IndexFault where
  | notStarted (program : String) (cause : OsError)
  /-- The indexer failed and said this. -/
  | refused (reason : String)
  /-- The indexer failed and said nothing. -/
  | silent (program : String) (status : UInt8)
  deriving DecidableEq, Repr

/-- The words of a fault. -/
def IndexFault.message : IndexFault → String
  | .notStarted program cause => s!"failed to run '{program}': {cause.message}"
  | .refused reason => reason
  | .silent program status => s!"'{program}' exited with {ProgramRun.statusText status}"

/-- Why a run stopped. -/
inductive Failure where
  | unknownFormat (output : String)
  | pluginResolution (plugin : Plugin) (fault : FetchFault)
  /-- The compiler reported errors for a module. -/
  | compilation (module : String) (errors : Nat)
  /-- The compiler itself failed for a module. -/
  | toolchain (module : String) (cause : Failure)
  | indexer (fault : IndexFault)
  | missingScalaVersion (module : String)
  | missingPluginJar (version : Version)
  | formatNotSet
  | classpathNotSet
  | invalidClasspath (module : String)
  | exited (program : String) (status : UInt8)
  | unreadableJavaVersion (program : String)
  | refused (attempt : Attempt) (cause : OsError)
  /-- A path is no text, and there is no written form for it. -/
  | pathNotUtf8
  /-- A failure of a collaborator, a hook or an added phase in its own words, with its causes. -/
  | other (message : String) (causes : List String := [])
  deriving DecidableEq, Repr

namespace Failure

/-- The outermost message of a failure, and the messages beneath it in order. -/
def messages : Failure → String × List String
  | .unknownFormat output =>
    (s!"unknown output format for '{output}', expected a file name ending in one of: " ++
      OutputFormat.supportedList, [])
  | .pluginResolution plugin fault =>
    (s!"failed to resolve semantic plugin '{plugin.coordinate}': {fault.message}", [])
  | .compilation module errors =>
    (s!"compilation of module '{module}' failed with {errors} error(s)", [])
  | .toolchain module cause =>
    let beneath := ": ".intercalate (cause.messages.1 :: cause.messages.2)
    (s!"compilation of module '{module}' failed: {beneath}", [])
  | .indexer fault => (fault.message, [])
  | .missingScalaVersion module => (s!"module '{module}' has no scala_version", [])
  | .missingPluginJar version => (s!"no semanticdb-scalac jar fetched for Scala {version}", [])
  | .formatNotSet => ("format not set - IndexPhase must run after ResolveFormatPhase", [])
  | .classpathNotSet => ("classpath not set - IndexPhase must run after AggregatePhase", [])
  | .invalidClasspath module =>
    (s!"invalid classpath for '{module}': path segment contains separator `:`", [])
  | .exited program status => (s!"'{program}' exited with {ProgramRun.statusText status}", [])
  | .unreadableJavaVersion program =>
    (s!"could not read a Java version from '{program} -version'", [])
  | .refused attempt cause => (attempt.message, [cause.message])
  | .pathNotUtf8 => ("path contains invalid UTF-8 characters", [])
  | .other message causes => (message, causes)

/-- The outermost message of a failure. -/
def message (failure : Failure) : String := failure.messages.1

/-- The messages of the causes beneath a failure. -/
def causes (failure : Failure) : List String := failure.messages.2

/-- The message of a failure and of all its causes in one line. -/
def chain (failure : Failure) : String := ": ".intercalate (failure.message :: failure.causes)

end Failure

end WorkspaceIndex
