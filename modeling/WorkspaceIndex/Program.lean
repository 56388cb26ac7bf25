import WorkspaceIndex.FileStore.Basic
/-!
# Programs that can be started

The programs a machine offers, what each start of one does, and the record of the starts that
succeeded. A program is a row of runs: every start uses the next one, and the last one again when
they are used up. A start can fail before the program does anything, and then nothing is recorded.
-/

namespace WorkspaceIndex

/-- What a program wrote and how it ended. -/
structure ProgramRun where
  output : Blob := .text ""
  errors : Blob := .text ""
  status : UInt8 := 0
  deriving DecidableEq, Repr, Inhabited

/-- A program under a name. -/
inductive Program where
  | runs (runs : List ProgramRun)
  /-- A file that cannot be executed. -/
  | notExecutable
  deriving DecidableEq, Repr, Inhabited

/-- A start of a program. -/
structure Call where
  program : String
  /-- The directory the program runs in, without `.` and `..`. -/
  directory : Path
  arguments : List OsText
  deriving DecidableEq, Repr, Inhabited

/-- The programs there are, and the starts that succeeded so far. -/
structure Machine where
  programs : List (String × Program)
  calls : List Call := []
  deriving Repr, Inhabited

/-- A program to be started with its arguments; without a directory it runs where this program
does. -/
structure Command where
  program : String
  directory : Option Path := none
  arguments : List OsText
  deriving DecidableEq, Repr

/-- The runs of a program, if it can be executed. -/
def Program.runs? : Program → Except OsError (List ProgramRun)
  | .runs row => .ok row
  | .notExecutable => .error .permissionDenied

namespace ProgramRun

/-- Whether a program ended well. -/
def succeeded (run : ProgramRun) : Bool := run.status = 0

/-- How a program ended, in words. -/
def statusText (status : UInt8) : String := s!"exit status: {status.toNat}"

end ProgramRun

namespace Command

/-- Every text that is handed to the system. -/
def texts (command : Command) : List OsText :=
  .ofText command.program :: (command.directory.map Path.letters).toList ++ command.arguments

/-- The location of the directory a command runs in. -/
def locateDirectory (files : FileStore) (command : Command) : Except OsError Location :=
  match command.directory with
  | none => .ok files.workingDirectory
  | some path =>
    match files.locate path with
    | .error e => .error e
    | .ok location =>
      match files.node? location with
      | none => .error .notFound
      | some .directory => .ok location
      | some _ => .error .notADirectory

end Command

namespace Machine

/-- Why a file of the store is not started: it is missing, or it is no program. -/
def fileError (files : FileStore) (path : Path) : OsError :=
  match files.resolve path with
  | .error e => e
  | .ok _ => .permissionDenied

/-- The run that the next start of a program uses. -/
def nextRun (machine : Machine) (program : String) (runs : List ProgramRun) : ProgramRun :=
  let earlier := (machine.calls.filter fun call ↦ call.program = program).length
  (runs[earlier]?.orElse fun _ ↦ runs.getLast?).getD {}

/-- The runs of a program that is started from a directory. A name with a separator is the path of a
program and is not searched for; where no program has that path, there may be a file. Without one it
is searched for, and `.` and `..` are directories wherever programs are searched. -/
def find (machine : Machine) (files : FileStore) (directory : Location) (name : String) :
    Except OsError (List ProgramRun) :=
  if name.toList.contains '/' then
    match machine.programs.lookup name with
    | some program => program.runs?
    | none => .error (fileError { files with workingDirectory := directory } ⟨name⟩)
  else if name.isEmpty then .error .notFound
  else if FileStore.maxNameLength < Text.byteLength name.toList then .error .nameTooLong
  else if name = "." || name = ".." then .error .permissionDenied
  else
    match machine.programs.lookup name with
    | some program => program.runs?
    | none => .error .notFound

/-- Starts a program and waits for its end. The directory is looked at before the program. -/
def start (machine : Machine) (files : FileStore) (command : Command) :
    Except OsError ProgramRun × Machine :=
  if command.texts.any fun text ↦ text.contains (.char '\x00') then
    (.error .nulInCommand, machine)
  else match command.locateDirectory files with
    | .error e => (.error e, machine)
    | .ok directory =>
      match machine.find files directory command.program with
      | .error e => (.error e, machine)
      | .ok runs =>
        let call : Call := ⟨command.program, FileStore.pathOf directory, command.arguments⟩
        (.ok (machine.nextRun command.program runs),
          { machine with calls := machine.calls ++ [call] })

end Machine

end WorkspaceIndex
