/-!
# Errors of the operating system

What the file store and the starting of programs can refuse, with the text under which the system
reports it.
-/

namespace WorkspaceIndex

/-- A refusal of the operating system, or of the reading of what it delivered. -/
inductive OsError where
  | notFound
  | permissionDenied
  | fileExists
  | notADirectory
  | isADirectory
  | nameTooLong
  /-- The file is there but is no text. -/
  | notUtf8
  /-- The path holds a character that ends paths. -/
  | nulInPath
  /-- A program's name, directory or argument holds that character. -/
  | nulInCommand
  /-- The empty path has no absolute form. -/
  | emptyPath
  deriving DecidableEq, Repr, Inhabited

/-- The text under which an error is reported. -/
def OsError.message : OsError → String
  | .notFound => "No such file or directory (os error 2)"
  | .permissionDenied => "Permission denied (os error 13)"
  | .fileExists => "File exists (os error 17)"
  | .notADirectory => "Not a directory (os error 20)"
  | .isADirectory => "Is a directory (os error 21)"
  | .nameTooLong => "File name too long (os error 36)"
  | .notUtf8 => "stream did not contain valid UTF-8"
  | .nulInPath => "file name contained an unexpected NUL byte"
  | .nulInCommand => "nul byte found in provided data"
  | .emptyPath => "cannot make an empty path absolute"

end WorkspaceIndex
