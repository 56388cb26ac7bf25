import WorkspaceIndex.Path
/-!
# Arguments of the command line

A command line has two levels: options of the program, and after the name of a subcommand the
options and the operand of that. Arguments are read from left to right, and the first thing that
stops the reading decides: a request for help or for the version, or a mistake. What can only be
seen at the end, such as a missing operand or two options that exclude each other, comes last.

An option with a value takes it from the same argument, after an equals sign or right after a
short name, or from the next argument if that does not look like an option. After the argument `--`
everything is an operand. Every option is given at most once, and no value is empty.
-/

namespace WorkspaceIndex.CommandLine

/-- An option without a value. -/
inductive Flag where
  | verbose
  | quiet
  | help
  | version
  | dedupClasspath
  | visualize
  deriving DecidableEq, Repr

/-- The letter of a flag, if it has one. -/
def Flag.letter? : Flag → Option Char
  | .verbose => some 'v'
  | .quiet => some 'q'
  | .help => some 'h'
  | .version => some 'V'
  | .dedupClasspath => none
  | .visualize => none

/-- The long name of a flag. -/
def Flag.name : Flag → String
  | .verbose => "verbose"
  | .quiet => "quiet"
  | .help => "help"
  | .version => "version"
  | .dedupClasspath => "dedup-classpath"
  | .visualize => "visualize"

/-- An option with a value. -/
inductive ValueOption where
  | manifest
  | dest
  deriving DecidableEq, Repr

/-- The letter of an option. -/
def ValueOption.letter : ValueOption → Char
  | .manifest => 'm'
  | .dest => 'd'

/-- The long name of an option. -/
def ValueOption.name : ValueOption → String
  | .manifest => "manifest"
  | .dest => "dest"

/-- A shell that completions can be written for. -/
inductive Shell where
  | bash
  | elvish
  | fish
  | powershell
  | zsh
  deriving DecidableEq, Repr

/-- The name of a shell. -/
def Shell.name : Shell → String
  | .bash => "bash"
  | .elvish => "elvish"
  | .fish => "fish"
  | .powershell => "powershell"
  | .zsh => "zsh"

/-- The shell with a given name. -/
def Shell.ofName? (name : String) : Option Shell :=
  [bash, elvish, fish, powershell, zsh].find? fun shell ↦ shell.name = name

/-- A subcommand. -/
inductive Subcommand where
  | generate
  | check
  | explain
  | completions
  deriving DecidableEq, Repr

namespace Subcommand

/-- The name of a subcommand. -/
def name : Subcommand → String
  | .generate => "generate"
  | .check => "check"
  | .explain => "explain"
  | .completions => "completions"

/-- The subcommand with a given name. -/
def ofName? (text : String) : Option Subcommand :=
  [generate, check, explain, completions].find? fun command ↦ command.name = text

end Subcommand

/-- The name of the subcommand that shows help. -/
def helpName : String := "help"

/-- Why the reading of a command line stopped. -/
inductive Stop where
  | help
  | version
  | usage
  deriving DecidableEq, Repr

/-- The options and operands that are known at one level. -/
structure Level where
  flags : List Flag
  options : List ValueOption
  /-- Which texts are accepted as the operand. -/
  accepts : String → Bool

namespace Level

/-- The level of the program itself, which has no operands. -/
def program : Level := ⟨[.verbose, .quiet, .help, .version], [], fun _ ↦ false⟩

/-- The flags that are known after every subcommand. -/
def commonFlags : List Flag := [.verbose, .quiet, .help]

/-- The level of a subcommand. -/
def ofSubcommand : Subcommand → Level
  | .generate =>
    ⟨commonFlags ++ [.dedupClasspath, .visualize], [.manifest, .dest], fun s ↦ !s.isEmpty⟩
  | .check => ⟨commonFlags, [.manifest], fun _ ↦ false⟩
  | .explain => ⟨commonFlags, [.manifest, .dest], fun s ↦ !s.isEmpty⟩
  | .completions => ⟨commonFlags, [], fun s ↦ (Shell.ofName? s).isSome⟩

end Level

/-! ### Words -/

/-- What an argument says, or a part of it. -/
inductive Word where
  | flag (flag : Flag)
  | value (option : ValueOption) (value : String)
  | operand (text : String)
  | mistake
  deriving DecidableEq, Repr

/-- The words of an argument, and the option that waits for its value in the next one. -/
abbrev ArgumentWords := List Word × Option ValueOption

/-- Whether an argument is an operand or a value, and no option. A dash alone is one. -/
def isPlain (argument : List Char) : Bool :=
  match argument with
  | '-' :: _ :: _ => false
  | _ => true

/-- A text without one equals sign in front. -/
def dropEquals : List Char → List Char
  | '=' :: rest => rest
  | rest => rest

/-- The words of letters after a single dash. -/
def letterWords (level : Level) : List Char → ArgumentWords
  | [] => ([], none)
  | c :: rest =>
    match level.flags.find? fun flag ↦ flag.letter? = some c with
    | some flag =>
      let (words, waiting) := letterWords level rest
      (.flag flag :: words, waiting)
    | none =>
      match level.options.find? fun option ↦ option.letter = c with
      | none => ([.mistake], none)
      | some option =>
        if rest.isEmpty then ([], some option)
        else ([.value option (String.ofList (dropEquals rest))], none)

/-- The words of a text after two dashes. -/
def longWords (level : Level) (text : List Char) : ArgumentWords :=
  let name := String.ofList (text.takeWhile (· ≠ '='))
  let value := text.dropWhile (· ≠ '=')
  match level.flags.find? fun flag ↦ flag.name = name with
  | some flag => ([if value.isEmpty then .flag flag else .mistake], none)
  | none =>
    match level.options.find? fun option ↦ option.name = name with
    | none => ([.mistake], none)
    | some option =>
      if value.isEmpty then ([], some option)
      else ([.value option (String.ofList (dropEquals value))], none)

/-- The words of an argument other than `--`. -/
def argumentWords (level : Level) (argument : String) : ArgumentWords :=
  match argument.toList with
  | '-' :: '-' :: text => longWords level text
  | '-' :: c :: letters => letterWords level (c :: letters)
  | _ => ([.operand argument], none)

/-- The words of the arguments of a subcommand, given the option that waits for a value. -/
def wordsFrom (level : Level) (waiting : Option ValueOption) : List String → List Word
  | [] => if waiting.isSome then [.mistake] else []
  | argument :: rest =>
    match waiting with
    | some option =>
      if isPlain argument.toList then .value option argument :: wordsFrom level none rest
      else [.mistake]
    | none =>
      if argument = "--" then rest.map .operand
      else
        let (words, waiting) := argumentWords level argument
        words ++ wordsFrom level waiting rest

/-- The words in front of the first plain argument, and what starts with it. -/
def leadingWords (level : Level) : List String → List Word × List String
  | [] => ([], [])
  | argument :: rest =>
    if isPlain argument.toList then ([], argument :: rest)
    else if argument = "--" then ([.mistake], [])
    else
      let (later, remaining) := leadingWords level rest
      ((argumentWords level argument).1 ++ later, remaining)

/-! ### Collecting -/

/-- What was given at a level so far. -/
structure Given where
  flags : List Flag := []
  values : List (ValueOption × String) := []
  operand : Option String := none
  deriving DecidableEq, Repr

namespace Given

/-- What was given, with one more word, unless that stops the reading. -/
def add (level : Level) (given : Given) : Word → Except Stop Given
  | .flag .help => .error .help
  | .flag .version => .error .version
  | .flag flag =>
    if given.flags.contains flag then .error .usage
    else .ok { given with flags := given.flags ++ [flag] }
  | .value option value =>
    if value.isEmpty || (given.values.lookup option).isSome then .error .usage
    else .ok { given with values := given.values ++ [(option, value)] }
  | .operand text =>
    if given.operand.isNone && level.accepts text then .ok { given with operand := some text }
    else .error .usage
  | .mistake => .error .usage

/-- What words give, in order. -/
def ofWords (level : Level) (words : List Word) : Except Stop Given := words.foldlM (add level) {}

/-- Whether two flags that exclude each other were given. -/
def isContradictory (given : Given) : Bool :=
  given.flags.contains .verbose && given.flags.contains .quiet

/-- The value of an option as a path. -/
def path? (given : Given) (option : ValueOption) : Option Path :=
  (given.values.lookup option).map Path.mk

/-- The path of the manifest. -/
def manifest (given : Given) : Path := (given.path? .manifest).getD ⟨"semdex.toml"⟩

/-- The name of the index. -/
def output (given : Given) : Path := ⟨given.operand.getD "index.scip"⟩

end Given

/-! ### Command lines -/

/-- What a command line asks for. -/
inductive Order where
  | generate (output manifest : Path) (dest : Option Path) (dedupClasspath visualize : Bool)
  | check (manifest : Path)
  | explain (output manifest : Path) (dest : Option Path)
  | completions (shell : Shell)
  deriving DecidableEq, Repr

/-- The order of a subcommand with what was given after it. -/
def Order.ofGiven (given : Given) : Subcommand → Except Stop Order
  | .generate => .ok (.generate given.output given.manifest (given.path? .dest)
      (given.flags.contains .dedupClasspath) (given.flags.contains .visualize))
  | .check => .ok (.check given.manifest)
  | .explain => .ok (.explain given.output given.manifest (given.path? .dest))
  | .completions =>
    match given.operand.bind Shell.ofName? with
    | some shell => .ok (.completions shell)
    | none => .error .usage

/-- Why the reading stops after the name of the subcommand that shows help: it takes the name of at
most one subcommand. -/
def helpStop (arguments : List String) : Stop :=
  match arguments with
  | [] => .help
  | [name] => if name = helpName || (Subcommand.ofName? name).isSome then .help else .usage
  | _ => .usage

/-- The order of a command line, without the name of the program. -/
def parse (arguments : List String) : Except Stop Order := do
  let (words, rest) := leadingWords .program arguments
  let outer ← Given.ofWords .program words
  match rest with
  | [] => .error .usage
  | name :: rest =>
    if name = helpName then .error (helpStop rest)
    else match Subcommand.ofName? name with
      | none => .error .usage
      | some command =>
        let level := Level.ofSubcommand command
        let inner ← Given.ofWords level (wordsFrom level none rest)
        let order ← Order.ofGiven inner command
        if inner.isContradictory || outer.isContradictory then .error .usage else .ok order

end WorkspaceIndex.CommandLine
