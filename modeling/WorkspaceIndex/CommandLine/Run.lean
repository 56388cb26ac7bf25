import WorkspaceIndex.CommandLine.Arguments
import WorkspaceIndex.ExternalTools
import WorkspaceIndex.JavaRuntime
import WorkspaceIndex.Report.Check
import WorkspaceIndex.Report.Explain
import WorkspaceIndex.Report.Generate
/-!
# The program

From a command line to what is shown and how the program ends. A report is shown only if all went
well: a run that fails shows its failure and nothing else.
-/

namespace WorkspaceIndex.CommandLine

open Report (Item)

/-- The surroundings of the program. -/
structure Surroundings where
  files : FileStore
  machine : Machine

/-- How the program ends. -/
inductive Ending where
  /-- Well, with a report. -/
  | shown (items : List Item)
  | refused (error : ManifestError)
  | failed (failure : Failure)
  /-- The command line is no order. -/
  | misused
  deriving DecidableEq, Repr

namespace Ending

/-- The exit status. -/
def status : Ending → UInt8
  | .shown _ => 0
  | .refused _ => 1
  | .failed _ => 1
  | .misused => 2

/-- What goes to the output. -/
def output : Ending → String
  | .shown items => Report.outputText items
  | _ => ""

/-- The warnings on the error stream. -/
def warningText : Ending → String
  | .shown items => Report.warningText items
  | _ => ""

/-- The message on the error stream when the program ends badly. -/
def message? : Ending → Option String
  | .shown _ => none
  | .refused error => some (": ".intercalate (error.message :: error.cause?.toList))
  | .failed failure => some failure.chain
  | .misused => some "unknown or incomplete arguments, see 'semdex help'"

end Ending

/-- How the program is called. -/
def helpItems : List Item :=
  [.text "Build SCIP and LSIF indexes for Scala and Java workspaces", .blank,
    .keyValue "Usage" "semdex [-v|-q] <COMMAND>", .blank,
    .heading "Commands",
    .indentedKeyValue "generate"
      "[OUTPUT] [-m MANIFEST] [-d DEST] [--dedup-classpath] [--visualize]",
    .indentedKeyValue "check" "[-m MANIFEST]",
    .indentedKeyValue "explain" "[OUTPUT] [-m MANIFEST] [-d DEST]",
    .indentedKeyValue "completions" "<bash|elvish|fish|powershell|zsh>",
    .indentedKeyValue "help" "[COMMAND]"]

/-- The version of the program. -/
def versionItems : List Item := [.text s!"semdex {programVersion}"]

/-- The names of the subcommands with blanks between them. -/
def subcommandNames : String :=
  " ".intercalate
    ([Subcommand.generate, .check, .explain, .completions].map Subcommand.name ++ [helpName])

/-- The definition of completions in a shell. -/
def completionItems : Shell → List Item
  | .bash => [.text s!"complete -W '{subcommandNames}' semdex"]
  | .zsh => [.text "#compdef semdex", .text s!"compadd {subcommandNames}"]
  | .fish => [.text s!"complete -c semdex -f -a '{subcommandNames}'"]
  | .elvish =>
    [.text s!"set edit:completion:arg-completer[semdex] = \x7b|@words| put {subcommandNames} \x7d"]
  | .powershell =>
    let words := s!"\x7b '{subcommandNames}' -split ' ' \x7d"
    [.text s!"Register-ArgumentCompleter -Native -CommandName semdex -ScriptBlock {words}"]

/-- The ending of a computation that may fail. -/
def endingOf {α : Type} (items : α → List Item) : Except Failure α → Ending
  | .ok a => .shown (items a)
  | .error failure => .failed failure

/-- The build of a manifest and the directory for its output. -/
def prepare (at_ : Surroundings) (file : ManifestFile) (dest : Option Path) :
    Except Failure (HostGraph × Path) × Machine :=
  match file.openGraph at_.machine at_.files with
  | (.error failure, machine) => (.error failure, machine)
  | (.ok graph, machine) =>
    match destinationFor at_.files.workingPath file.root dest with
    | .error failure => (.error failure, machine)
    | .ok destination => (.ok (graph, destination), machine)

/-- Makes a whole run. -/
def runGenerate (at_ : Surroundings) (file : ManifestFile) (output : Path) (dest : Option Path)
    (dedupClasspath visualize : Bool) : Ending × Surroundings :=
  match prepare at_ file dest with
  | (.error failure, machine) => (.failed failure, { at_ with machine })
  | (.ok (graph, destination), machine) =>
    let services := file.manifest.tools.services graph
    let options : GenerateOptions := { output, destination, dedupClasspath }
    let (result, world) :=
      GenerateReport.generate services options visualize ⟨at_.files, machine, []⟩
    (endingOf GenerateReport.items result, ⟨world.files, world.outside⟩)

/-- Explains a run. -/
def runExplain (at_ : Surroundings) (file : ManifestFile) (output : Path) (dest : Option Path) :
    Ending × Surroundings :=
  match prepare at_ file dest with
  | (.error failure, machine) => (.failed failure, { at_ with machine })
  | (.ok (graph, destination), machine) =>
    let services := file.manifest.tools.services graph
    match ExplainReport.ofServices services file.path output destination
        ⟨at_.files, machine, []⟩ with
    | .ok report world => (.shown report.items, ⟨world.files, world.outside⟩)
    | .error failure world => (.failed failure, ⟨world.files, world.outside⟩)

/-- Reads a manifest file and goes on with it. -/
def withManifest (at_ : Surroundings) (path : Path)
    (next : ManifestFile → Ending × Surroundings) : Ending × Surroundings :=
  match ManifestFile.read at_.files path with
  | .error error => (.refused error, at_)
  | .ok file => next file

/-- Carries an order out. -/
def execute (at_ : Surroundings) : Order → Ending × Surroundings
  | .generate output manifest dest dedupClasspath visualize =>
    withManifest at_ manifest fun file ↦
      runGenerate at_ file output dest dedupClasspath visualize
  | .check manifest =>
    withManifest at_ manifest fun file ↦ (.shown (CheckReport.ofFile file).items, at_)
  | .explain output manifest dest =>
    withManifest at_ manifest fun file ↦ runExplain at_ file output dest
  | .completions shell => (.shown (completionItems shell), at_)

/-- Runs the program with arguments. -/
def run (at_ : Surroundings) (arguments : List String) : Ending × Surroundings :=
  match parse arguments with
  | .error .help => (.shown helpItems, at_)
  | .error .version => (.shown versionItems, at_)
  | .error .usage => (.misused, at_)
  | .ok order => execute at_ order

end WorkspaceIndex.CommandLine
