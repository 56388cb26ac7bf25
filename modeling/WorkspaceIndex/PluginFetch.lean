import WorkspaceIndex.Failure
import WorkspaceIndex.Text.Blank
import WorkspaceIndex.Text.Lines
/-!
# Fetching compiler plugins

A plugin is fetched by its coordinates with an external program, which prints the path of every
artifact on a line of its own. A program that ends well and prints no path has not fetched
anything.
-/

namespace WorkspaceIndex.PluginFetch

/-- The paths that a fetch printed: every line that is not blank, without blanks around it. -/
def artifacts (output : List Char) : List Path :=
  (((Text.lines output).map Text.trim).filter fun line ↦ !line.isEmpty).map fun line ↦
    ⟨String.ofList line⟩

/-- The command that fetches a plugin. -/
def command (program : String) (plugin : Plugin) : Command :=
  ⟨program, none, ["fetch", "--intransitive", plugin.coordinate]⟩

/-- The artifacts of a finished fetch. -/
def answer (run : ProgramRun) : Except FetchFault (List Path) :=
  if !run.succeeded then
    .error (.refused (String.ofList (Text.trim run.errors.lenientText.toList)))
  else
    match artifacts run.output.lenientText.toList with
    | [] => .error .noArtifacts
    | jars => .ok jars

/-- Fetches a plugin with a program. -/
def fetch (program : String) (plugin : Plugin) (files : FileStore) (machine : Machine) :
    Except Failure (List Path) × Machine :=
  match machine.start files (command program plugin) with
  | (.error cause, machine) =>
    (.error (.pluginResolution plugin (.notStarted program cause)), machine)
  | (.ok run, machine) =>
    match answer run with
    | .error fault => (.error (.pluginResolution plugin fault), machine)
    | .ok jars => (.ok jars, machine)

end WorkspaceIndex.PluginFetch
