import WorkspaceIndex.Failure
import WorkspaceIndex.HostGraph
import WorkspaceIndex.Text.Blank
import WorkspaceIndex.Text.Cut
import WorkspaceIndex.Text.Lines
/-!
# The Java runtime

A Java runtime tells its version on the first line that holds a text between double quotes. The
major version is the number at the front of that text, after `1.` where the text starts so. A build
needs it only if it has Java modules and the manifest does not give it.
-/

namespace WorkspaceIndex

namespace JavaRuntime

/-- The text between the first two double quotes of a line. -/
def quotedToken? (line : List Char) : Option (List Char) := do
  let (_, rest) ← Text.cut? ['"'] line
  let (token, _) ← Text.cut? ['"'] rest
  some token

/-- The text between double quotes on the first line that has one. -/
def versionToken? (output : List Char) : Option (List Char) :=
  (Text.lines output).findSome? quotedToken?

/-- The part of a version that starts with the major number: `1.` in front is an older way of
writing. -/
def majorPart : List Char → List Char
  | '1' :: '.' :: rest => rest
  | token => token

/-- The major version that a version starts with. -/
def majorOfToken? (token : List Char) : Option UInt32 :=
  Text.digits? ((majorPart token).takeWhile Char.isDigit)

/-- The major version in the output of a runtime. -/
def majorVersion? (output : List Char) : Option UInt32 :=
  (versionToken? output).bind majorOfToken?

/-- The stream that holds the version: the error stream, unless it is blank. -/
def versionOutput (run : ProgramRun) : List Char :=
  let errors := run.errors.lenientText.toList
  if Text.isAllBlank errors then run.output.lenientText.toList else errors

/-- Asks a runtime for its major version. How it ends does not matter. -/
def detect (machine : Machine) (files : FileStore) (program : String) :
    Except Failure UInt32 × Machine :=
  match machine.start files ⟨program, none, ["-version"]⟩ with
  | (.error cause, machine) => (.error (.refused (.runJava program) cause), machine)
  | (.ok run, machine) =>
    match majorVersion? (versionOutput run) with
    | some major => (.ok major, machine)
    | none => (.error (.unreadableJavaVersion program), machine)

/-- Whether the version of the runtime has to be asked for. -/
def isNeeded (m : Manifest) : Bool := m.workspace.javaVersion.isNone && m.hasJavaModules

end JavaRuntime

/-- The build of a manifest file, with the version of the Java runtime asked for where it is
needed. -/
def ManifestFile.openGraph (file : ManifestFile) (machine : Machine) (files : FileStore) :
    Except Failure HostGraph × Machine :=
  if JavaRuntime.isNeeded file.manifest then
    match JavaRuntime.detect machine files file.manifest.tools.java with
    | (.error failure, machine) => (.error failure, machine)
    | (.ok major, machine) => (.ok (file.manifest.toGraph file.root (some major)), machine)
  else (.ok (file.manifest.toGraph file.root file.manifest.workspace.javaVersion), machine)

end WorkspaceIndex
