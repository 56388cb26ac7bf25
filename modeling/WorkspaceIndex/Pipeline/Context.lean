import WorkspaceIndex.Classpath
import WorkspaceIndex.Diagnostic
import WorkspaceIndex.Plan
/-!
# The context of a run

What the phases of a run hand on to each other. Every phase fills in its part, and a part that was
filled in stays.
-/

namespace WorkspaceIndex

/-- What a run is asked to do. -/
structure GenerateOptions where
  /-- The name of the index, inside the destination. -/
  output : Path
  /-- The directory for semantic output. -/
  destination : Path
  /-- Whether the classpath keeps one spelling of each path only. -/
  dedupClasspath : Bool := false
  deriving DecidableEq, Repr

/-- A module that went through its compiler. -/
structure CompiledModule where
  name : String
  variant : Variant
  deriving DecidableEq, Repr

/-- The state of a run between two phases. -/
structure Context where
  options : GenerateOptions
  /-- The format of the index, once it is resolved. -/
  format : Option OutputFormat := none
  /-- The plans of the modules, in build order. -/
  plans : List Plan := []
  compiled : List CompiledModule := []
  /-- The classpath, once it is aggregated. -/
  classpath : Option (List ClasspathEntry) := none
  /-- The index, once it is built. -/
  index : Option Path := none
  /-- What the phases have to say. -/
  diagnostics : List Diagnostic := []
  deriving DecidableEq, Repr

namespace Context

/-- The language of the index, by the modules that were compiled. -/
def language (c : Context) : SourceLanguage :=
  .ofVariants (c.compiled.map CompiledModule.variant)

/-- The modules that were skipped, with their reasons. -/
def skipped (c : Context) : List (String × String) := c.plans.filterMap Plan.skipped?

/-- The number of warnings. -/
def warningCount (c : Context) : Nat := c.diagnostics.countP Diagnostic.isWarning

/-- The context with one more diagnostic. -/
def note (c : Context) (d : Diagnostic) : Context := { c with diagnostics := c.diagnostics ++ [d] }

/-- The context with one more compiled module. -/
def addCompiled (c : Context) (m : CompiledModule) : Context :=
  { c with compiled := c.compiled ++ [m] }

/-- The context with more plans. -/
def addPlans (c : Context) (plans : List Plan) : Context := { c with plans := c.plans ++ plans }

end Context

end WorkspaceIndex
