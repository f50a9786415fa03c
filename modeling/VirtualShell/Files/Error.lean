import VirtualShell.Text.Quoted

/-!
Contract: why a file operation fails.

Owns:
- `FileCause`, the causes, with their number and their wording.
- `FileError`, a cause and the path that it is reported with.

Which path is reported is part of an operation's contract: some report the path as
they were given it, some the absolute path that it means.
-/

namespace VirtualShell

/-- The causes of a failed file operation. -/
inductive FileCause where
  | notFound
  | alreadyExists
  | notDirectory
  | isDirectory
  | permissionDenied
  | busy
  | notEmpty
  | invalidArgument
deriving DecidableEq, Repr

/-- The number of a cause. -/
def FileCause.number : FileCause → Nat
  | .notFound => 2
  | .permissionDenied => 13
  | .busy => 16
  | .alreadyExists => 17
  | .notDirectory => 20
  | .isDirectory => 21
  | .invalidArgument => 22
  | .notEmpty => 39

/-- The wording of a cause. -/
def FileCause.reason : FileCause → String
  | .notFound => "No such file or directory"
  | .permissionDenied => "Permission denied"
  | .busy => "Device or resource busy"
  | .alreadyExists => "File exists"
  | .notDirectory => "Not a directory"
  | .isDirectory => "Is a directory"
  | .invalidArgument => "Invalid argument"
  | .notEmpty => "Directory not empty"

/-- A cause and the path that it is reported with. -/
structure FileError where
  cause : FileCause
  path : String
deriving DecidableEq, Repr

/-- The wording of an error that nobody has dealt with. -/
def FileError.message (error : FileError) : String :=
  "[Errno " ++ toString error.cause.number ++ "] " ++ error.cause.reason ++ ": " ++
    Text.quoted error.path

end VirtualShell
