import WorkspaceIndex.Compiler.Command
import WorkspaceIndex.Proofs.Compiler.Outcome
/-!
# The command line of a compiler

A compiler is handed its classpath as one text, with colons between the entries. There is no way to
write an entry that has a colon itself, so with such an entry there is no command line at all, and
no program is started (`command_eq_ok_iff`). In every other case the entries can be read back from
the text (`splitOn_joined`).

Whether a classpath is passed on is decided by whether its text is empty. Since the text can be
read back, it is empty only for no entry or for a single one that is empty (`joined_eq_empty_iff`).
-/

namespace WorkspaceIndex.CompilerPrograms

variable {paths : List Path}

/-! ### The classpath as one text -/

theorem joinPaths?_of_colon (h : ∃ path ∈ paths, .char ':' ∈ path.letters) :
    joinPaths? paths = none := by
  rw [joinPaths?, if_pos (by simpa using h)]

theorem joinPaths?_of_clear (h : ∀ path ∈ paths, .char ':' ∉ path.letters) :
    joinPaths? paths = some ([.char ':'].intercalate (paths.map Path.letters)) := by
  rw [joinPaths?, if_neg (by simpa using h)]

/-- **The entries of a classpath are read back from its text.** -/
theorem splitOn_joined (hne : paths ≠ []) (hclear : ∀ path ∈ paths, .char ':' ∉ path.letters) :
    ([.char ':'].intercalate (paths.map Path.letters)).splitOn (.char ':') =
      paths.map Path.letters :=
  List.splitOn_intercalate _ (List.forall_mem_map.2 hclear) (by simpa using hne)

/-- The text of a classpath is empty for no entry and for a single empty one. -/
theorem joined_eq_empty_iff (hclear : ∀ path ∈ paths, .char ':' ∉ path.letters) :
    [.char ':'].intercalate (paths.map Path.letters) = [] ↔ paths = [] ∨ paths = [⟨""⟩] := by
  constructor
  · intro hempty
    refine or_iff_not_imp_left.2 fun hne ↦ ?_
    have hsplit := splitOn_joined hne hclear
    rw [hempty, List.splitOn_nil] at hsplit
    obtain ⟨⟨letters⟩, rfl, rfl⟩ := List.map_eq_singleton_iff.1 hsplit.symm
    rfl
  · rintro (rfl | rfl) <;> rfl

/-- How the entries of a classpath are passed on: not at all, or as one text from which they are
read back. -/
inductive Passes (entries : List Path) : List OsText → Prop where
  | nothing (empty : entries = [] ∨ entries = [⟨""⟩]) : Passes entries []
  | joined {text : OsText} (not_empty : ¬(entries = [] ∨ entries = [⟨""⟩]))
      (splitOn_eq : text.splitOn (.char ':') = entries.map Path.letters) :
      Passes entries ["-classpath", text]

theorem passes_classpathArguments (hclear : ∀ path ∈ paths, .char ':' ∉ path.letters) :
    Passes paths (classpathArguments ([.char ':'].intercalate (paths.map Path.letters))) := by
  rw [classpathArguments]
  split
  · rename_i hempty
    exact .nothing ((joined_eq_empty_iff hclear).1 (List.isEmpty_iff.1 hempty))
  · rename_i hempty
    have hnot := mt (joined_eq_empty_iff hclear).2 (mt List.isEmpty_iff.2 hempty)
    exact .joined hnot (splitOn_joined (not_or.1 hnot).1 hclear)

/-- Entries that are not empty themselves are passed on unless there are none. -/
theorem Passes.eq_nil_iff {entries : List Path} {passed : List OsText} (h : Passes entries passed)
    (hne : ∀ entry ∈ entries, entry.letters ≠ []) : passed = [] ↔ entries = [] := by
  cases h with
  | nothing empty =>
    refine iff_of_true rfl (empty.resolve_right ?_)
    rintro rfl
    exact hne _ List.mem_cons_self rfl
  | joined not_empty => exact iff_of_false (List.cons_ne_nil _ _) (not_or.1 not_empty).1

/-! ### The whole command line -/

variable {programs : CompilerPrograms} {call : CompileCall} {command : Command}

theorem program_eq (programs : CompilerPrograms) (entry : CompilerEntry) :
    programs.program entry = match entry with
      | .mixed => programs.scalac
      | .java => programs.javac := by
  cases entry <;> rfl

theorem options_eq (request : CompileRequest) (entry : CompilerEntry) :
    options request entry = match entry with
      | .mixed => request.options
      | .java => request.javacOptions := by
  cases entry <;> rfl

theorem command_of_colon
    (h : ∃ entry ∈ call.request.classpath ++ call.givenOutputs, .char ':' ∈ entry.letters) :
    programs.command call = .error (.invalidClasspath call.request.module) := by
  have hnone : joinPaths? (classpathEntries call) = none := joinPaths?_of_colon h
  rw [CompilerPrograms.command, hnone]

theorem command_of_clear
    (h : ∀ entry ∈ call.request.classpath ++ call.givenOutputs, .char ':' ∉ entry.letters) :
    programs.command call = .ok {
      program := programs.program call.entry
      directory := some call.request.workspaceRoot
      arguments := (options call.request call.entry).map .ofText ++
        [.ofText "-d", call.request.destination.letters] ++
        classpathArguments ([.char ':'].intercalate
          ((call.request.classpath ++ call.givenOutputs).map Path.letters)) ++
        call.request.sources.map Path.letters } := by
  have hsome : joinPaths? (classpathEntries call) = some ([.char ':'].intercalate
      ((call.request.classpath ++ call.givenOutputs).map Path.letters)) :=
    joinPaths?_of_clear h
  rw [CompilerPrograms.command, hsome]

/-- There is a command line exactly if no entry has a colon. -/
theorem exists_command_iff :
    (∃ command, programs.command call = .ok command) ↔
      ∀ entry ∈ call.request.classpath ++ call.givenOutputs, .char ':' ∉ entry.letters := by
  refine ⟨fun ⟨command, hcommand⟩ ↦ ?_, fun h ↦ ⟨_, command_of_clear h⟩⟩
  by_contra hcolon
  push Not at hcolon
  rw [command_of_colon hcolon] at hcommand
  cases hcommand

/-- The command line of a compiler call, where there is one. -/
theorem command_eq_ok (h : programs.command call = .ok command) :
    command.directory = some call.request.workspaceRoot ∧
      command.arguments = (options call.request call.entry).map .ofText ++
        [.ofText "-d", call.request.destination.letters] ++
        classpathArguments ([.char ':'].intercalate
          ((call.request.classpath ++ call.givenOutputs).map Path.letters)) ++
        call.request.sources.map Path.letters := by
  rw [command_of_clear (exists_command_iff.1 ⟨command, h⟩)] at h
  cases h
  exact ⟨rfl, rfl⟩

/-- **When a compiler has a command line, and which one.** There is one if and only if no entry of
the classpath, the outputs of prerequisites included, has a colon. Otherwise the module fails and
nothing is started. The entry decides which program it is, and which options of the request are
passed on. The arguments are these options, the destination, the classpath and the sources, in this
order; the classpath can be read back from the text that it is passed on as, and if none of its
entries is empty it is left out exactly if there are none. -/
theorem command_of_call (programs : CompilerPrograms) (call : CompileCall) :
    let entries := call.request.classpath ++ call.givenOutputs
    ((∃ command, programs.command call = .ok command) ↔
        ∀ entry ∈ entries, .char ':' ∉ entry.letters) ∧
      ((∃ entry ∈ entries, .char ':' ∈ entry.letters) → ∀ (files : FileStore) (machine : Machine),
        programs.compile call files machine =
          ({ result := .error (.invalidClasspath call.request.module) }, machine)) ∧
      ∀ command, programs.command call = .ok command →
        (command.program = match call.entry with
          | .mixed => programs.scalac
          | .java => programs.javac) ∧
          command.directory = some call.request.workspaceRoot ∧
          ∃ passed, Passes entries passed ∧
            (command.arguments = (match call.entry with
              | .mixed => call.request.options
              | .java => call.request.javacOptions).map .ofText ++
              [.ofText "-d", call.request.destination.letters] ++ passed ++
              call.request.sources.map Path.letters) ∧
            ((∀ entry ∈ entries, entry.letters ≠ []) → (passed = [] ↔ entries = [])) := by
  intro entries
  refine ⟨exists_command_iff, fun hcolon files machine ↦ ?_, fun command hcommand ↦ ?_⟩
  · simp only [compile, command_of_colon hcolon]
  · have hclear := exists_command_iff.1 ⟨command, hcommand⟩
    have hpasses := passes_classpathArguments hclear
    rw [command_of_clear hclear] at hcommand
    cases hcommand
    exact ⟨program_eq _ _, rfl, _, hpasses, by rw [options_eq], hpasses.eq_nil_iff⟩

/-- A module with a classpath, and two modules that it is compiled against. -/
def appCall (entry : CompilerEntry) : CompileCall where
  entry := entry
  request := {
    module := "app", variant := .java, sources := [⟨"/ws/A.java"⟩, ⟨"/ws/B.java"⟩]
    options := ["-feature"], javacOptions := ["-g", "-nowarn"], classpath := [⟨"/deps/a.jar"⟩]
    pluginClasspath := [], destination := ⟨"/ws/out"⟩, workspaceRoot := ⟨"/ws"⟩ }
  prerequisites := some ⟨[⟨"/ws/core"⟩, ⟨"/ws/util"⟩]⟩

/-- The call has a command line through either entry, and all three entries of the classpath can be
read back from it. -/
theorem command_of_appCall :
    (∃ (command : Command) (text : OsText),
      CompilerPrograms.command ⟨"scalac", "javac"⟩ (appCall .java) = .ok command ∧
      text.splitOn (.char ':') = ([⟨"/deps/a.jar"⟩, ⟨"/ws/core"⟩, ⟨"/ws/util"⟩] : List Path).map
        Path.letters ∧
      command.program = "javac" ∧ command.arguments =
        (["-g", "-nowarn", "-d", "/ws/out", "-classpath", text, "/ws/A.java", "/ws/B.java"] :
          List OsText)) ∧
    ∃ (command : Command) (text : OsText),
      CompilerPrograms.command ⟨"scalac", "javac"⟩ (appCall .mixed) = .ok command ∧
      text.splitOn (.char ':') = ([⟨"/deps/a.jar"⟩, ⟨"/ws/core"⟩, ⟨"/ws/util"⟩] : List Path).map
        Path.letters ∧
      command.program = "scalac" ∧ command.arguments =
        (["-feature", "-d", "/ws/out", "-classpath", text, "/ws/A.java", "/ws/B.java"] :
          List OsText) := by
  have happ (entry : CompilerEntry) : ∃ (command : Command) (text : OsText),
      CompilerPrograms.command ⟨"scalac", "javac"⟩ (appCall entry) = .ok command ∧
      text.splitOn (.char ':') = ([⟨"/deps/a.jar"⟩, ⟨"/ws/core"⟩, ⟨"/ws/util"⟩] : List Path).map
        Path.letters ∧
      (command.program = match entry with
        | .mixed => "scalac"
        | .java => "javac") ∧
      command.arguments = (match entry with
        | .mixed => ["-feature"]
        | .java => ["-g", "-nowarn"] : List OsText) ++
          (["-d", "/ws/out", "-classpath", text, "/ws/A.java", "/ws/B.java"] : List OsText) := by
    obtain ⟨hexists, -, harguments⟩ := command_of_call ⟨"scalac", "javac"⟩ (appCall entry)
    have hclear : ∀ path ∈ ([⟨"/deps/a.jar"⟩, ⟨"/ws/core"⟩, ⟨"/ws/util"⟩] : List Path),
        .char ':' ∉ path.letters := by decide
    obtain ⟨command, hcommand⟩ := hexists.2 hclear
    obtain ⟨hprogram, -, passed, hpassed, hall, -⟩ := harguments command hcommand
    cases hpassed with
    | nothing empty => rcases empty with h | h <;> cases h
    | @joined text not_empty splitOn_eq =>
      refine ⟨command, text, hcommand, splitOn_eq, hprogram, hall.trans ?_⟩
      cases entry <;> rfl
  exact ⟨happ .java, happ .mixed⟩

end WorkspaceIndex.CompilerPrograms
