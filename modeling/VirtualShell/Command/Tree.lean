import VirtualShell.Calendar
import VirtualShell.Command.Operands
import VirtualShell.Text.Pieces

/-!
Contract: the commands that show and change the file tree.

Owns:
- `ls`, with `longLine`, the row of an entry in the long format.
- `mkdir`, `touch`, `rm`, `cp` and `mv`.

Each operand is dealt with on its own: a failure is reported as a line, and the next
operand follows. A failure that a command does not expect ends it.
-/

namespace VirtualShell.Command

/-- The type and the permissions of an entry, in letters. -/
def modeText (info : Files.Info) : String :=
  if info.isDirectory then "drwxr-xr-x" else "-rw-r--r--"

/-- The row of an entry in the long format; a time that cannot be shown ends the command. -/
def longLine (name : String) (info : Files.Info) : Action String := do
  match Moment.atTime info.modified with
  | .error defect => throw (.host defect.message)
  | .ok moment =>
      return modeText info ++ " 1 user user " ++ Text.padLeft 5 (toString info.size) ++ " " ++
        moment.text ++ " " ++ name ++ (if info.isDirectory then "/" else "")

/-- What an operand of `ls` is; a file has its row. -/
inductive Listed where
  | missing (name : String)
  | file (row : String)
  | directory (name : String)

/-- What an operand of `ls` is. -/
def classify (context : Context) (long : Bool) (operand : String) : Action Listed := do
  match ← attempt (Storage.info (context.resolve operand)) with
  | .error _ => return .missing operand
  | .ok info =>
      if info.isDirectory then return .directory operand
      else return .file (← if long then longLine operand info else pure operand)

/-- The error text for an operand. -/
def Listed.error : Listed → String
  | .missing name => "ls: " ++ name ++ ": No such file or directory\n"
  | _ => ""

/-- The row of an operand that is a file. -/
def Listed.row? : Listed → Option String
  | .file row => some row
  | _ => none

/-- The operand if it is a directory. -/
def Listed.directory? : Listed → Option String
  | .directory name => some name
  | _ => none

/-- The names that are shown of those in a directory. -/
def shownNames (all : Bool) (entries : List String) : List String :=
  if all then "." :: ".." :: entries else entries.filter fun name => !Text.startsWith name "."

/-- The rows of a directory. -/
def directoryRows (path : String) (all long : Bool) : Action (List String) := do
  let names := shownNames all (← require (Storage.list path))
  if long then
    names.mapM fun name => do
      let entry := if name = "." ∨ name = ".." then path else Path.resolve path name
      longLine name (← require (Storage.info entry))
  else return names

/-- Lists files and directories. -/
def ls : Command := ofAction "ls" fun context arguments => do
  let (flags, given) := splitFlags ['a', 'l', '1'] arguments
  let operands := if given.isEmpty then ["."] else given
  let listed ← operands.mapM (classify context (flags.contains 'l'))
  let errors := String.join (listed.map Listed.error)
  let files := listed.filterMap Listed.row?
  let directoryBlocks ← (listed.filterMap Listed.directory?).mapM fun operand => do
    let rows ← directoryRows (context.resolve operand) (flags.contains 'a') (flags.contains 'l')
    let header := if 1 < operands.length then operand ++ ":\n" else ""
    return header ++ Text.joinLines rows
  let blocks := (if files.isEmpty then [] else [Text.joinLines files]) ++ directoryBlocks
  return ⟨Text.joinWith "\n" blocks, errors, if errors.isEmpty then 0 else 2⟩

/-- Makes directories. -/
def mkdir : Command := ofAction "mkdir" fun context arguments => do
  let (flags, operands) := splitFlags ['p'] arguments
  if operands.isEmpty then return .failure "mkdir: missing operand\n" 1
  let errors ← operands.mapM fun operand => do
    match ← attempt (Storage.makeDirectory (context.resolve operand) (flags.contains 'p')) with
    | .ok () => return ""
    | .error error =>
        return "mkdir: cannot create directory '" ++ operand ++ "': " ++ error.cause.reason ++ "\n"
  return reported errors

/-- Makes empty files, or marks files as changed. -/
def touch : Command := ofAction "touch" fun context arguments => do
  if arguments.isEmpty then return .failure "touch: missing file operand\n" 1
  let errors ← arguments.mapM fun operand => do
    match ← attempt (Storage.append (context.resolve operand) "") with
    | .ok () | .error ⟨.isDirectory, _⟩ => return ""
    | .error error =>
        return "touch: cannot touch '" ++ operand ++ "': " ++ error.cause.reason ++ "\n"
  return reported errors

/-- Removes one operand, and tells what is wrong if it cannot. -/
def removeOperand (context : Context) (recursive force : Bool) (operand : String) :
    Action String := do
  let failure (reason : String) := "rm: cannot remove '" ++ operand ++ "': " ++ reason ++ "\n"
  let path := context.resolve operand
  match ← attempt (Storage.info path) with
  | .error ⟨.notFound, _⟩ => return if force then "" else failure FileCause.notFound.reason
  | .error error => throw (.file error)
  | .ok info =>
      if info.isDirectory && !recursive then return failure FileCause.isDirectory.reason
      match ← attempt (Storage.remove path recursive force) with
      | .ok () => return ""
      | .error error => return failure error.cause.reason

/-- Removes files and directories. -/
def rm : Command := ofAction "rm" fun context arguments => do
  let (flags, operands) := splitFlags ['r', 'R', 'f'] arguments
  let force := flags.contains 'f'
  if operands.isEmpty then return if force then .success else .failure "rm: missing operand\n" 1
  let recursive := flags.contains 'r' || flags.contains 'R'
  return reported (← operands.mapM (removeOperand context recursive force))

/-- The last component of an operand, slashes behind it aside. -/
def lastName (operand : String) : String :=
  String.ofList (Text.lastPiece '/' ((operand.toList.reverse.dropWhile (· == '/')).reverse))

/-- The path that an operand is copied or moved to: inside the target if that is a
directory, else the target. -/
def destination (context : Context) (operand target : String) : Storage.Action String := do
  let path := context.resolve target
  if ← Storage.contains path then
    if (← Storage.info path).isDirectory then return Path.resolve path (lastName operand)
  return path

/-- Whether operands are copied or moved. -/
inductive Transfer where
  | copy (recursive : Bool)
  | move

/-- The command that does a transfer. -/
def Transfer.name : Transfer → String
  | .copy _ => "cp"
  | .move => "mv"

/-- What is wrong with an operand that could not be copied or moved. -/
def Transfer.failure (transfer : Transfer) (operand target : String) (cause : FileCause) : String :=
  match transfer, cause with
  | .copy _, .isDirectory => "cp: -r not specified; omitting directory '" ++ operand ++ "'\n"
  | .move, .isDirectory => "mv: cannot overwrite directory '" ++ target ++ "'\n"
  | transfer, .notFound =>
      transfer.name ++ ": cannot stat '" ++ operand ++ "': No such file or directory\n"
  | .copy _, cause => "cp: cannot copy '" ++ operand ++ "': " ++ cause.reason ++ "\n"
  | .move, cause => "mv: cannot move '" ++ operand ++ "': " ++ cause.reason ++ "\n"

/-- Copies or moves one operand, and tells what is wrong if it cannot. -/
def transferOperand (context : Context) (transfer : Transfer) (target operand : String) :
    Action String := do
  let result ← attempt do
    let path ← destination context operand target
    match transfer with
    | .copy recursive => Storage.copy (context.resolve operand) path recursive
    | .move => Storage.move (context.resolve operand) path
  match result with
  | .ok () => return ""
  | .error error => return transfer.failure operand target error.cause

/-- Copies or moves all operands but the last to the last. -/
def transferAll (context : Context) (transfer : Transfer) (operands : List String) :
    Action Outcome := do
  match operands.getLast? with
  | some target =>
      if operands.length < 2 then return .failure (transfer.name ++ ": missing file operand\n") 1
      return reported (← operands.dropLast.mapM (transferOperand context transfer target))
  | none => return .failure (transfer.name ++ ": missing file operand\n") 1

/-- Copies files, and directories if told to. -/
def cp : Command := ofAction "cp" fun context arguments =>
  let (flags, operands) := splitFlags ['r', 'R'] arguments
  transferAll context (.copy !flags.isEmpty) operands

/-- Moves files and directories. -/
def mv : Command := ofAction "mv" fun context arguments =>
  let (_, operands) := splitFlags ['f'] arguments
  transferAll context .move operands

end VirtualShell.Command
