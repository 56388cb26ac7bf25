import WorkspaceIndex.World
/-!
# Plans

What to do with each module: compile it by a request, or skip it for a reason. The request keeps
what the module says and changes its options so that the compiler writes semantic output and stops
after that:

* Scala 3 is told to extract by itself; options that ask for the same, or for another phase to stop
  after, are dropped.
* Scala 2 needs a plugin, which is fetched for the version of its compiler; options that turn
  warnings into errors are dropped too.
* Java needs a plugin, which also goes on the classpath, and a host of a certain age. From Java 17
  on the compiler has to be told to open its packages to the plugin. A module on an older host is
  skipped, and nothing is fetched for it.
-/

namespace WorkspaceIndex

/-- What to do with one module. -/
inductive Plan where
  | compile (request : CompileRequest)
  | skip (module reason : String)
  deriving DecidableEq, Repr

namespace Plan

/-- The module of a plan. -/
def module : Plan → String
  | .compile request => request.module
  | .skip module _ => module

/-- The request of a plan, unless it skips its module. -/
def request? : Plan → Option CompileRequest
  | .compile request => some request
  | .skip _ _ => none

/-- The module that a plan skips, with the reason. -/
def skipped? : Plan → Option (String × String)
  | .compile _ => none
  | .skip module reason => some (module, reason)

/-! ### Options -/

/-- The start of options that name the phase to stop after. -/
def stopAfterStart : String := "-Ystop-after:"

/-- Whether an option names the phase to stop after. -/
def isStopAfter (option : String) : Bool := stopAfterStart.toList.isPrefixOf option.toList

/-- The option that turns the extraction of Scala 3 on. -/
def extractOption : String := "-Xsemanticdb"

/-- The option that stops Scala 3 after the extraction. -/
def stopAfterExtraction : String := "-Ystop-after:extractSemanticDB"

/-- The option that stops Scala 2 after the plugin has run. -/
def stopAfterPlugin : String := "-Ystop-after:semanticdb-typer"

/-- The options that turn warnings into errors. -/
def fatalWarningOptions : List String := ["-Xfatal-warnings", "-Werror"]

/-- The final options of a Scala 3 module. -/
def scala3Options (options : List String) : List String :=
  (options.filter fun option ↦ option ≠ extractOption && !isStopAfter option) ++
    [extractOption, stopAfterExtraction]

/-- The final options of a Scala 2 module with a plugin. -/
def scala2Options (options : List String) (plugin root : Path) : List String :=
  (options.filter fun option ↦ !fatalWarningOptions.contains option && !isStopAfter option) ++
    [s!"-Xplugin:{plugin}", "-Yrangepos", s!"-P:semanticdb:sourceroot:{root}", stopAfterPlugin]

/-- The option that loads the plugin of the Java compiler and tells it its directories. -/
def javacPluginOption (root destination : Path) (buildTool : String) : String :=
  s!"-Xplugin:semanticdb -sourceroot:{root} -targetroot:{destination} -build-tool:{buildTool}"

/-- The first Java release that hides the packages of its compiler. -/
def firstEncapsulatedJava : UInt32 := 17

/-- The packages of the Java compiler that its plugin uses. -/
def compilerPackages : List String := ["api", "code", "model", "tree", "util"]

/-- The options that open the packages of the Java compiler in a given release. -/
def exportOptions (release : UInt32) : List String :=
  if release < firstEncapsulatedJava then []
  else compilerPackages.map fun package_ ↦
    s!"-J--add-exports=jdk.compiler/com.sun.tools.javac.{package_}=ALL-UNNAMED"

/-! ### Requests -/

/-- The request that leaves a module as it is. -/
def baseRequest (host : HostGraph) (destination : Path) (m : Module) : CompileRequest where
  module := m.name
  variant := m.variant
  sources := m.sources
  options := m.options
  javacOptions := m.javacOptions
  classpath := m.classpath
  pluginClasspath := []
  destination := destination
  workspaceRoot := host.root

/-- The request for a Scala 3 module. -/
def scala3Request (host : HostGraph) (destination : Path) (m : Module) : CompileRequest :=
  { baseRequest host destination m with options := scala3Options m.options }

/-- Whether the file name of a jar starts as that of the Scala 2 plugin. -/
def isScalacPlugin (jar : Path) : Bool :=
  match jar.fileName?.bind OsText.text? with
  | some name => "semanticdb-scalac".toList.isPrefixOf name.toList
  | none => false

/-- The jar of the plugin among those fetched: one that is named after it, else the first. -/
def pluginJar? (jars : List Path) : Option Path :=
  (jars.find? isScalacPlugin).orElse fun _ ↦ jars.head?

/-- The request for a Scala 2 module, given the jar of the plugin and all that was fetched. -/
def scala2Request (host : HostGraph) (destination : Path) (m : Module) (plugin : Path)
    (jars : List Path) : CompileRequest :=
  { baseRequest host destination m with
    options := scala2Options m.options plugin host.root
    pluginClasspath := jars }

/-- The request for a Java module, given what was fetched. -/
def javaRequest (host : HostGraph) (destination : Path) (m : Module) (jars : List Path) :
    CompileRequest :=
  { baseRequest host destination m with
    classpath := m.classpath ++ jars
    javacOptions := m.javacOptions ++
      [javacPluginOption host.root destination host.buildTool] ++
      (host.runtimeVersion.map exportOptions).getD []
    pluginClasspath := jars }

/-! ### The host of Java modules -/

/-- The oldest version of the host build that passes options to plugins. -/
def minimumJavaHost : Version := ⟨0, 10, 6⟩

/-- Whether a host is known to be too old for Java modules. -/
def isTooOldForJava (version : Version) : Bool := compare version minimumJavaHost == .lt

/-- Why the Java modules of a host are skipped, if they are. -/
def javaSkipReason? (host : HostGraph) : Option String :=
  match host.hostVersion with
  | none => none
  | some version =>
    if isTooOldForJava version then
      some s!"Java modules require host version {minimumJavaHost} or newer, found {version}"
    else none

/-! ### Planning -/

variable {ε : Type}

/-- Plans a Scala 2 module. -/
def buildScala2 (services : Services ε) (destination : Path) (m : Module) : Run ε Plan := do
  match m.scalaVersion with
  | none => throw (.missingScalaVersion m.name)
  | some version =>
    let jars ← Run.fetch services (.scalac version)
    match pluginJar? jars with
    | none => throw (.missingPluginJar version)
    | some plugin => return .compile (scala2Request services.host destination m plugin jars)

/-- Plans a Java module. -/
def buildJava (services : Services ε) (destination : Path) (m : Module) : Run ε Plan := do
  match javaSkipReason? services.host with
  | some reason =>
    Run.notice (.skipped m.name reason)
    return .skip m.name reason
  | none =>
    let jars ← Run.fetch services .javac
    if services.host.runtimeVersion.isNone then Run.notice (.unknownRuntime m.name)
    return .compile (javaRequest services.host destination m jars)

/-- Plans a module of a build whose output goes to `destination`. -/
def build (services : Services ε) (destination : Path) (m : Module) : Run ε Plan :=
  match m.variant with
  | .scala3 => pure (.compile (scala3Request services.host destination m))
  | .scala2 => buildScala2 services destination m
  | .java => buildJava services destination m

end Plan

end WorkspaceIndex
