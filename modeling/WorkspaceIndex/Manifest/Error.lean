import WorkspaceIndex.Manifest.Schema
import WorkspaceIndex.OsError
/-!
# Errors of manifests

Every way in which a manifest can be refused, with the words of its report: a message, a code, a
help text and a label with a range of the text where one is known.
-/

namespace WorkspaceIndex

/-- Why a text is no module name. -/
inductive NameFault where
  | empty
  | badStart
  | badCharacter
  deriving DecidableEq, Repr

/-- The sentence for a bad name, without its full stop. -/
def NameFault.message : NameFault → String
  | .empty => "module name cannot be empty"
  | .badStart => "module name must start with a letter or underscore"
  | .badCharacter => "module name contains invalid characters"

/-- Why a list of modules is refused. -/
inductive ModuleFault where
  | invalidName (fault : NameFault)
  /-- A Scala 2 module without the version of its compiler. -/
  | missingScalaVersion
  /-- The module names itself among those it is compiled against. -/
  | selfPrerequisite
  /-- It names one that is not declared before it. -/
  | unknownPrerequisite (prerequisite : String)
  deriving DecidableEq, Repr

/-- Why a manifest is refused. -/
inductive ManifestError where
  | unreadable (path : Path) (cause : OsError)
  /-- The text is no document at all. -/
  | invalidDocument
  | misfit (problem : Schema.Problem) (span : Span)
  /-- The modules do not pass validation; `span` is the place of the offence if it was found. -/
  | invalidModule (name : String) (fault : ModuleFault) (span : Option Span)
  deriving DecidableEq, Repr

/-- A range of the text with what it shows. -/
structure LabelledSpan where
  text : String
  span : Span
  deriving DecidableEq, Repr

namespace ModuleFault

/-- The message about a module. -/
def message (name : String) : ModuleFault → String
  | .invalidName _ => s!"invalid module name '{name}'"
  | .missingScalaVersion => s!"module '{name}' uses the scala2 variant but has no scala_version"
  | .selfPrerequisite => s!"module '{name}' lists itself as upstream"
  | .unknownPrerequisite prerequisite =>
    s!"module '{name}' depends on '{prerequisite}', which is not declared before it"

/-- The code of a fault. -/
def code : ModuleFault → String
  | .invalidName _ => "semdex::invalid_module_name"
  | .missingScalaVersion => "semdex::missing_scala_version"
  | .selfPrerequisite => "semdex::validation_error"
  | .unknownPrerequisite _ => "semdex::unknown_upstream"

/-- What to do about a fault. -/
def help? (name : String) : ModuleFault → Option String
  | .invalidName fault =>
    let allowed := "Use letters, digits, '_', '-' and '.', starting with a letter or underscore."
    some s!"{fault.message}. {allowed}"
  | .missingScalaVersion =>
    some ("add e.g. scala_version = \"2.13.12\"; " ++
      "the semanticdb-scalac plugin is published per Scala version")
  | .selfPrerequisite => none
  | .unknownPrerequisite prerequisite =>
    some s!"modules are compiled in declaration order; declare '{prerequisite}' above '{name}'"

/-- The text of the label. -/
def labelText (name : String) (fault : ModuleFault) : String :=
  match fault with
  | .invalidName _ => "invalid module name"
  | .missingScalaVersion => "declared here"
  | .selfPrerequisite => fault.message name
  | .unknownPrerequisite _ => "upstream referenced here"

end ModuleFault

namespace ManifestError

/-- The message of an error. -/
def message : ManifestError → String
  | .unreadable path _ => s!"failed to read '{path}'"
  | .invalidDocument | .misfit _ _ => "failed to parse semdex.toml"
  | .invalidModule name fault _ => fault.message name

/-- The code of an error. -/
def code? : ManifestError → Option String
  | .unreadable _ _ => none
  | .invalidDocument | .misfit _ _ => some "semdex::parse_error"
  | .invalidModule _ fault _ => some fault.code

/-- What to do about an error. -/
def help? : ManifestError → Option String
  | .unreadable _ _ => some "create a semdex.toml describing the modules to index"
  | .invalidDocument | .misfit _ _ => none
  | .invalidModule name fault _ => fault.help? name

/-- The labelled ranges of an error. -/
def labels : ManifestError → List LabelledSpan
  | .unreadable _ _ | .invalidDocument => []
  | .misfit _ span => [⟨"parse error here", span⟩]
  | .invalidModule name fault span =>
    (span.map fun span ↦ (⟨fault.labelText name, span⟩ : LabelledSpan)).toList

/-- The text of the error beneath, if there is one that is known. -/
def cause? : ManifestError → Option String
  | .unreadable _ cause => some cause.message
  | .misfit problem _ => some problem.message
  | .invalidDocument | .invalidModule _ _ _ => none

end ManifestError

end WorkspaceIndex
