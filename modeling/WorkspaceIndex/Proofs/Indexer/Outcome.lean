import Mathlib.Data.List.Forall2
import WorkspaceIndex.ExternalTools
import WorkspaceIndex.Proofs.Run.Calls
import WorkspaceIndex.Proofs.Text.Pieces
/-!
# How an order to an indexer ends

There is an index exactly if the program that was asked for it could be started and ended with zero.
What it wrote to its error stream has no say in that: every line of it that is not blank is told to
the user (`Tells`), whether the program ended well or not, and only where it failed the same text is
the reason that is given (`Explains`).

The command line is settled by the request alone (`Orders`).
-/

namespace WorkspaceIndex

open Text

namespace Run

/-- The order to an indexer goes on the trace, and after it all that the indexer reports. -/
theorem index_eq {ε : Type} (services : Services ε) (request : IndexRequest) (w : World ε) :
    index services request w =
      let answer := services.index request w.files w.outside
      ofExcept answer.1.result { w with
        outside := answer.2
        trace := w.trace ++ .indexed request (classpathFileOf w.files request) ::
          answer.1.diagnostics.map .reported } := by
  simp only [index, World.report, World.record, List.append_assoc, List.singleton_append]

end Run

namespace Indexer

variable {line : List Char} {program : String} {request : IndexRequest} {files : FileStore}
  {machine after : Machine} {run : ProgramRun}

/-! ### The command line -/

/-- The words of an option, which are there exactly if it is asked for. -/
inductive IfAsked (asked : Prop) (words : List OsText) : List OsText → Prop where
  | given (h : asked) : IfAsked asked words words
  | absent (h : ¬asked) : IfAsked asked words []

/-- The arguments that order an index. -/
def Orders (request : IndexRequest) (arguments : List OsText) : Prop :=
  ∃ parallelism kind : List OsText,
    arguments = .ofText "index-semanticdb" :: .ofText "--output" :: request.output.letters ::
      (parallelism ++ (kind ++ request.targetroots.map Path.letters)) ∧
    IfAsked (request.parallel = false) ["--no-parallel"] parallelism ∧
    IfAsked (request.buildKind ≠ "") ["--build-kind", request.buildKind] kind

theorem ifAsked_ite {asked : Prop} [Decidable asked] (words : List OsText) :
    IfAsked asked words (if asked then words else []) := by
  split
  · exact .given ‹_›
  · exact .absent ‹_›

theorem orders_command (program : String) (request : IndexRequest) :
    Orders request (command program request).arguments := by
  refine ⟨if request.parallel = false then ["--no-parallel"] else [],
    if request.buildKind ≠ "" then ["--build-kind", request.buildKind] else [], ?_,
    ifAsked_ite _, ifAsked_ite _⟩
  rcases hparallel : request.parallel <;> by_cases hkind : request.buildKind = "" <;>
    simp [command, hparallel, hkind]

/-! ### What an indexer says -/

/-- A diagnostic that hands a line of an indexer on: the line up to its last character that is no
blank, at no place, and as serious as the word is that the line starts with. -/
structure Tells (line : List Char) (d : Diagnostic) : Prop where
  message : ∃ blanks, line = d.message.toList ++ blanks ∧ isAllBlank blanks = true ∧
    ∀ c ∈ d.message.toList.getLast?, isBlank c = false
  position : d.position = none
  origin : d.origin = "indexer"
  error_iff : d.severity = .error ↔ "error".toList <+: line
  warning_iff : d.severity = .warning ↔ "warn".toList <+: line

/-- The lines on which something is said. -/
def spokenLines (errors : List Char) : List (List Char) :=
  (lines errors).filter fun line ↦ !isAllBlank line

theorem severityOf_eq (line : List Char) :
    severityOf line =
      if "error".toList <+: line then .error
      else if "warn".toList <+: line then .warning
      else .info := by
  simp only [severityOf, List.isPrefixOf_iff_prefix]

theorem severityOf_eq_error_iff : severityOf line = .error ↔ "error".toList <+: line := by
  rw [severityOf_eq]
  split
  · exact iff_of_true rfl ‹_›
  · refine iff_of_false ?_ ‹_›
    split <;> simp

theorem severityOf_eq_warning_iff : severityOf line = .warning ↔ "warn".toList <+: line := by
  rw [severityOf_eq]
  split
  · -- no line starts with both words
    rename_i herror
    obtain ⟨rest, rfl⟩ := herror
    exact iff_of_false (by simp) fun hwarn ↦
      absurd (List.cons_prefix_cons.1 hwarn).1 (by decide)
  · split
    · exact iff_of_true rfl ‹_›
    · exact iff_of_false (by simp) ‹_›

theorem tells_diagnostic (line : List Char) : Tells line (diagnostic line) := by
  obtain ⟨blanks, hline, hblanks, hlast⟩ := dropBack_eq_iff.1 (rfl : trimBack line = trimBack line)
  have hmessage : (diagnostic line).message.toList = trimBack line := String.toList_ofList
  exact {
    message := ⟨blanks, by rw [hmessage]; exact hline, by simpa [isAllBlank] using hblanks,
      by rw [hmessage]; exact hlast⟩
    position := rfl
    origin := rfl
    error_iff := severityOf_eq_error_iff
    warning_iff := severityOf_eq_warning_iff }

/-- Each line on which something is said has its diagnostic. -/
theorem forall₂_tells (errors : List Char) :
    List.Forall₂ Tells (spokenLines errors) (diagnostics errors) := by
  rw [diagnostics, List.forall₂_map_right_iff]
  exact List.forall₂_same.2 fun line _ ↦ tells_diagnostic line

/-! ### Why there is no index -/

/-- The reason for which there is no index, by what became of the program: why it was not started,
or what it said without the blanks around it, or how it ended if it said nothing. -/
inductive Explains (program : String) : Except OsError ProgramRun → String → Prop where
  | notStarted (cause : OsError) :
    Explains program (.error cause) s!"failed to run '{program}': {cause.message}"
  | said {run : ProgramRun} {front said back : List Char}
    (errors_eq : run.errors.lenientText.toList = front ++ (said ++ back))
    (front_blank : isAllBlank front = true) (back_blank : isAllBlank back = true)
    (trimmed : IsTrimmed said) (ne_nil : said ≠ []) :
    Explains program (.ok run) (String.ofList said)
  | silent {run : ProgramRun} (blank : isAllBlank run.errors.lenientText.toList = true) :
    Explains program (.ok run) s!"'{program}' exited with {ProgramRun.statusText run.status}"

theorem explains_fault (program : String) (run : ProgramRun) :
    Explains program (.ok run) (fault program run).message := by
  obtain ⟨front, back, herrors, hfront, hback, htrimmed⟩ :=
    trim_eq_iff.1 (rfl : trim run.errors.lenientText.toList = _)
  rw [fault]
  split
  · rename_i hnil
    refine .silent ?_
    rw [herrors, hnil]
    exact isAllBlank_append hfront hback
  · rename_i hsaid
    exact .said herrors hfront hback htrimmed hsaid

/-! ### The order as a whole -/

/-- An indexer that was started tells what it has to say, and how it ended decides. -/
theorem index_of_start (hstart : machine.start files (command program request) = (.ok run, after)) :
    index program request files machine =
      ({ diagnostics := diagnostics run.errors.lenientText.toList
         result := if run.status = 0 then .ok () else .error (.indexer (fault program run)) },
        after) := by
  rw [index, hstart]
  simp only [ProgramRun.succeeded, decide_eq_true_eq]

theorem index_of_start_error {cause : OsError}
    (hstart : machine.start files (command program request) = (.error cause, after)) :
    index program request files machine =
      ({ result := .error (.indexer (.notStarted program cause)) }, machine) := by
  rw [index, hstart, Machine.start_eq_error hstart]

/-- The order to an indexer that was started, among the collaborators of a build. -/
theorem runIndex_of_start {tools : ToolsConfig} {host : HostGraph} {w : World Machine}
    (hstart : w.outside.start w.files (command tools.indexer request) = (.ok run, after)) :
    Run.index (tools.services host) request w =
      Run.ofExcept (if run.status = 0 then .ok () else .error (.indexer (fault tools.indexer run)))
        { w with
          outside := after
          trace := w.trace ++ .indexed request (Run.classpathFileOf w.files request) ::
            (diagnostics run.errors.lenientText.toList).map .reported } := by
  have hindex : (tools.services host).index request w.files w.outside =
    index tools.indexer request w.files w.outside := rfl
  rw [Run.index_eq, hindex, index_of_start hstart]

theorem runIndex_of_start_error {tools : ToolsConfig} {host : HostGraph} {w : World Machine}
    {cause : OsError}
    (hstart : w.outside.start w.files (command tools.indexer request) = (.error cause, after)) :
    Run.index (tools.services host) request w =
      .error (.indexer (.notStarted tools.indexer cause))
        { w with
          trace := w.trace ++ [.indexed request (Run.classpathFileOf w.files request)] } := by
  have hindex : (tools.services host).index request w.files w.outside =
    index tools.indexer request w.files w.outside := rfl
  rw [Run.index_eq, hindex, index_of_start_error hstart]
  rfl

/-- **Having an index built by an external program.**

It ends well exactly if the program could be started and ended with zero, whatever it wrote. If not,
the failure is one of the indexer, with nothing beneath it, and `Explains` says in which words.

If the program was started, the order is followed on the trace by one diagnostic for each line of
the error stream that is not blank, in order and as `Tells` says, however the program ended; if it
was not, nothing is reported. In both cases all else stays as it was but for what the machine has
recorded.

The program runs in the workspace root, and what it is told is what `Orders` says. -/
theorem index_of_request (tools : ToolsConfig) (host : HostGraph) (request : IndexRequest)
    (w : World Machine) :
    let command := command tools.indexer request
    let started := w.outside.start w.files command
    let ended := Run.index (tools.services host) request w
    let order := Event.indexed request (Run.classpathFileOf w.files request)
    ((∃ after, ended = .ok () after) ↔ ∃ run, started.1 = .ok run ∧ run.status = 0) ∧
      (∀ failure after, ended = .error failure after →
        ∃ fault, failure = .indexer fault ∧ failure.causes = [] ∧
          Explains tools.indexer started.1 failure.message) ∧
      (∀ run, started.1 = .ok run →
        ∃ ds, List.Forall₂ Tells (spokenLines run.errors.lenientText.toList) ds ∧
          leaves ended =
            { w with outside := started.2, trace := w.trace ++ order :: ds.map .reported }) ∧
      (∀ cause, started.1 = .error cause →
        leaves ended = { w with trace := w.trace ++ [order] }) ∧
      Orders request command.arguments ∧
      ∀ run, started.1 = .ok run →
        ∃ directory, command.locateDirectory w.files = .ok directory ∧
          command.directory = some request.workspaceRoot ∧
          started.2.calls = w.outside.calls ++
            [⟨tools.indexer, FileStore.pathOf directory, command.arguments⟩] := by
  intro command started ended order
  rcases hstart : w.outside.start w.files command with ⟨cause | run, machine⟩
  · have hstarted : started = (.error cause, machine) := hstart
    have hended : ended = .error (.indexer (.notStarted tools.indexer cause))
        { w with trace := w.trace ++ [order] } := runIndex_of_start_error hstart
    rw [hstarted, hended]
    refine ⟨by simp, fun failure after h ↦ ?_, by simp, fun _ _ ↦ rfl, orders_command _ _, by simp⟩
    cases h
    exact ⟨_, rfl, rfl, .notStarted cause⟩
  · have hstarted : started = (.ok run, machine) := hstart
    have hended : ended = Run.ofExcept _ _ := runIndex_of_start hstart
    rw [hstarted, hended]
    refine ⟨by simp [Run.ofExcept_eq_ok], fun failure after h ↦ ?_, ?_, by simp,
      orders_command _ _, ?_⟩
    · obtain ⟨hfailure, -⟩ := Run.ofExcept_eq_error.1 h
      split at hfailure
      · cases hfailure
      · cases hfailure
        exact ⟨_, rfl, rfl, explains_fault _ run⟩
    · rintro _ ⟨⟩
      exact ⟨_, forall₂_tells _, Run.leaves_ofExcept _ _⟩
    · rintro _ ⟨⟩
      obtain ⟨directory, hdirectory, hmachine⟩ := Machine.start_eq_ok hstart
      exact ⟨directory, hdirectory, rfl, by rw [hmachine]; rfl⟩

/-- An order to index two directories one after the other, for a build that the indexer knows. -/
def millRequest : IndexRequest where
  targetroots := [⟨"/ws/out"⟩, ⟨"/ws/gen"⟩]
  output := ⟨"/ws/out/index.scip"⟩
  workspaceRoot := ⟨"/ws"⟩
  tool := .current
  language := .java
  format := .scip
  parallel := false
  packages := []
  buildKind := "mill"

/-- An indexer that warns, finds errors, and fails. -/
def failedRun : ProgramRun where
  errors := .text "\nwarning: no docs \r\n\t\nerrors: 2\n"
  status := 3

/-- An indexer that fails and writes nothing but blanks. -/
def silentRun : ProgramRun where
  errors := .text " \t\n"
  status := 3

/-- A workspace with an indexer. -/
def indexerWorld (run : ProgramRun) : World Machine where
  files := ⟨[(["ws"], .directory)], []⟩
  outside := { programs := [("scip-java", .runs [run])] }

/-- All that the indexer wrote is the reason of the failure, and two of its four lines are reported.
Of one that wrote nothing it is told how it ended. -/
theorem index_of_request_failedWorld :
    let ended := Run.index (({} : ToolsConfig).services { root := ⟨"/ws"⟩ }) millRequest
      (indexerWorld failedRun)
    let silent := Run.index (({} : ToolsConfig).services { root := ⟨"/ws"⟩ }) millRequest
      (indexerWorld silentRun)
    (∃ after, ended =
        .error (.indexer (.refused "warning: no docs \r\n\t\nerrors: 2")) after) ∧
      Explains "scip-java" (.ok failedRun) "warning: no docs \r\n\t\nerrors: 2" ∧
      (∃ ds, List.Forall₂ Tells ["warning: no docs ".toList, "errors: 2".toList] ds ∧
        (leaves ended).trace = .indexed millRequest none :: ds.map .reported) ∧
      Orders millRequest ["index-semanticdb", "--output", "/ws/out/index.scip", "--no-parallel",
        "--build-kind", "mill", "/ws/out", "/ws/gen"] ∧
      (∃ after, silent = .error (.indexer (.silent "scip-java" 3)) after) ∧
      Explains "scip-java" (.ok silentRun) "'scip-java' exited with exit status: 3" ∧
      (leaves silent).trace = [.indexed millRequest none] := by
  intro ended silent
  obtain ⟨-, hfailed, htold, -, horders, -⟩ :=
    index_of_request {} { root := ⟨"/ws"⟩ } millRequest (indexerWorld failedRun)
  obtain ⟨-, hfailed', htold', -⟩ :=
    index_of_request {} { root := ⟨"/ws"⟩ } millRequest (indexerWorld silentRun)
  have hended : ended =
      .error (.indexer (.refused "warning: no docs \r\n\t\nerrors: 2")) (leaves ended) := rfl
  obtain ⟨fault, hfault, -, hexplains⟩ := hfailed _ _ hended
  obtain ⟨ds, hds, htrace⟩ := htold failedRun rfl
  have hsilent : silent = .error (.indexer (.silent "scip-java" 3)) (leaves silent) := rfl
  obtain ⟨fault', hfault', -, hexplains'⟩ := hfailed' _ _ hsilent
  obtain ⟨ds', hds', htrace'⟩ := htold' silentRun rfl
  obtain rfl : ds' = [] := List.forall₂_nil_left_iff.1 hds'
  exact ⟨⟨_, hended⟩, hexplains, ⟨ds, hds, by rw [htrace]; rfl⟩, horders, ⟨_, hsilent⟩, hexplains',
    by rw [htrace']; rfl⟩

end Indexer

end WorkspaceIndex
