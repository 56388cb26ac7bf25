import WorkspaceIndex.Manifest.Error
import WorkspaceIndex.Manifest.Label
/-!
# Validation of module lists

Modules are checked in the order of declaration, and of each module first its name, then its
compiler version, then the modules it is compiled against. The first fault is reported. A module
may only be compiled against modules that are declared before it, so a list that passes is in build
order.
-/

namespace WorkspaceIndex

/-- Whether a character may stand at the front of a module name. -/
def isNameStart (c : Char) : Bool := c.isAlpha || c = '_'

/-- Whether a character may stand in a module name. -/
def isNameChar (c : Char) : Bool := c.isAlphanum || c = '_' || c = '-' || c = '.'

/-- What is wrong with a module name. -/
def nameFault? (name : String) : Option NameFault :=
  match name.toList with
  | [] => some .empty
  | first :: rest =>
    if !isNameStart first then some .badStart
    else if !rest.all isNameChar then some .badCharacter
    else none

/-- The first fault of a module, given the names of the modules before it. -/
def moduleFault? (earlier : List String) (name : String) (config : ModuleConfig) :
    Option ModuleFault :=
  match nameFault? name with
  | some fault => some (.invalidName fault)
  | none =>
    if config.variant = .scala2 && config.scalaVersion.isNone then some .missingScalaVersion
    else if config.prerequisites.contains name then some .selfPrerequisite
    else (config.prerequisites.find? fun name ↦ !earlier.contains name).map .unknownPrerequisite

/-- The first fault of a list of modules, with the name of its module. -/
def firstFault? (earlier : List String) :
    List (String × ModuleConfig) → Option (String × ModuleFault)
  | [] => none
  | (name, config) :: rest =>
    match moduleFault? earlier name config with
    | some fault => some (name, fault)
    | none => firstFault? (earlier ++ [name]) rest

/-- Where a fault shows in the text of the manifest. A missing module is shown where its name is
first quoted, all else where the module is declared. -/
def faultSpan? (source name : String) : ModuleFault → Option Span
  | .unknownPrerequisite prerequisite =>
    (Label.quotedSpan? source prerequisite).orElse fun _ ↦ Label.moduleSpan? source name
  | _ => Label.moduleSpan? source name

/-- Checks the modules of a manifest that was read from `source`. -/
def Manifest.validate (source : String) (m : Manifest) : Except ManifestError Unit :=
  match firstFault? [] m.modules with
  | none => .ok ()
  | some (name, fault) => .error (.invalidModule name fault (faultSpan? source name fault))

end WorkspaceIndex
