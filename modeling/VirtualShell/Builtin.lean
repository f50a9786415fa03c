import VirtualShell.Name
import VirtualShell.Path
import VirtualShell.Session
import VirtualShell.Text.Integer
import VirtualShell.Text.Order

/-!
Contract: the commands that change the shell itself.

Owns:
- `Builtin`, the five of them, and `Builtin.run`: `cd`, `export`, `unset`, `exit` and
  `local`.

A builtin reports each bad argument as a line and deals with the others all the same.
-/

namespace VirtualShell

/-- The commands that change the shell itself. -/
inductive Builtin where
  | cd
  | «export»
  | unset
  | exit
  | «local»
deriving DecidableEq, Repr

namespace Builtin

/-- The builtins by name. -/
def named : List (String × Builtin) :=
  [("cd", cd), ("export", «export»), ("unset", unset), ("exit", exit), ("local", «local»)]

/-- The builtin with a name. -/
def ofName? (name : String) : Option Builtin :=
  (named.find? fun entry => entry.1 == name).map Prod.snd

/-- The directory that an argument of `cd` means. -/
def target (session : Session) (home : String) (argument : String) : String :=
  if argument = "-" then
    if session.previousDir.isEmpty then session.cwd else session.previousDir
  else if argument = "~" then home
  else Path.resolve session.cwd argument

/-- The session after a change of directory. -/
def moveTo (session : Session) (directory : String) : Session :=
  (({ session with previousDir := session.cwd, cwd := directory }).assign "OLDPWD"
    session.cwd).assign "PWD" directory

/-- Changes the directory. -/
def runCd (arguments : List String) : Engine Outcome := do
  let session ← get
  let home := (session.environment.get? "HOME").getD "/"
  let argument := arguments.head?.getD home
  let directory := target session home argument
  match ← Engine.attempt (Storage.info directory) with
  | .error ⟨.notFound, _⟩ =>
      return .failure ("cd: " ++ argument ++ ": No such file or directory\n") 1
  | .error error => throw (.fault (.file error))
  | .ok info =>
      if !info.isDirectory then return .failure ("cd: " ++ argument ++ ": Not a directory\n") 1
      modify fun session => moveTo session directory
      return .success

/-- A text inside single quotes; a single quote ends them for an escaped one. -/
def singleQuoted (text : String) : String :=
  "'" ++ String.ofList (text.toList.flatMap fun c =>
    if c == '\'' then ['\'', '\\', '\'', '\''] else [c]) ++ "'"

/-- The line that declares a variable. -/
def declaration (name value : String) : String :=
  "declare -x " ++ name ++ "=" ++ singleQuoted value ++ "\n"

/-- The declarations of all variables whose names are well formed, sorted. -/
def listing (environment : Environment) : String :=
  String.join (((Text.sorted environment.keys).filter isName).map fun name =>
    declaration name ((environment.get? name).getD ""))

/-- The outcome of a builtin that reports each bad argument as a line. -/
def reported (errors : List String) : Outcome :=
  if errors.isEmpty then .success else .failure (String.join errors) 1

/-- The report on a word that should be a name. -/
def invalidName (builtin argument : String) : String :=
  "bash: " ++ builtin ++ ": `" ++ argument ++ "': not a valid identifier\n"

/-- A variable with the value that an argument gives it; without one, it is made empty
if it is not there. -/
def declare (environment : Environment) (name : String) : Option String → Environment
  | some value => environment.insert name value
  | none => if environment.contains name then environment else environment.insert name ""

/-- Changes the variables as arguments of `export` say, and gathers the reports. -/
def exportAll (removes : Bool) (environment : Environment) :
    List String → Environment × List String
  | [] => (environment, [])
  | argument :: rest =>
      let (name, value) := cutAtEquals argument
      if !isName name then
        let (after, errors) := exportAll removes environment rest
        (after, invalidName "export" argument :: errors)
      else
        exportAll removes
          (if removes then environment.erase name else declare environment name value) rest

/-- The arguments of `export` that are not names. -/
def exportOptions : List String := ["-n", "-p", "--"]

/-- Sets, lists or removes variables. -/
def runExport (arguments : List String) : Engine Outcome := do
  let session ← get
  let removes := arguments.contains "-n"
  let names := arguments.filter fun argument => !exportOptions.contains argument
  if names.isEmpty && !removes then return .printed (listing session.environment)
  let (environment, errors) := exportAll removes session.environment names
  set { session with environment := environment }
  return reported errors

/-- Removes variables, and functions behind `-f`. -/
def unsetAll (functions : Bool) (session : Session) : List String → Session
  | [] => session
  | "-f" :: rest => unsetAll true session rest
  | "-v" :: rest => unsetAll false session rest
  | name :: rest =>
      unsetAll functions
        (if functions then { session with functions := session.functions.erase name }
          else session.discard name)
        rest

/-- Reports an exit code. -/
def runExit (arguments : List String) : Outcome :=
  match arguments with
  | [] => .success
  | argument :: _ =>
      match Text.readInteger argument with
      | .ok code => ⟨"", "", ExitCode.ofInt code⟩
      | .error _ => .failure ("bash: exit: " ++ argument ++ ": numeric argument required\n") 1

/-- Declares local variables, and gathers the reports. -/
def localAll (session : Session) : List String → Session × List String
  | [] => (session, [])
  | argument :: rest =>
      let (name, value) := cutAtEquals argument
      if !isName name then
        let (after, errors) := localAll session rest
        (after, invalidName "local" argument :: errors)
      else
        let recorded := session.recordLocal name
        localAll { recorded with environment := declare recorded.environment name value } rest

/-- Declares variables local to the function call. -/
def runLocal (arguments : List String) : Engine Outcome := do
  let session ← get
  if !session.inFunction then
    return .failure "bash: local: can only be used in a function\n" 1
  let (after, errors) := localAll session arguments
  set after
  return reported errors

/-- Runs a builtin. -/
def run (builtin : Builtin) (arguments : List String) : Engine Outcome :=
  match builtin with
  | cd => runCd arguments
  | «export» => runExport arguments
  | unset => do
      modify fun session => unsetAll false session arguments
      return .success
  | exit => return runExit arguments
  | «local» => runLocal arguments

end Builtin

end VirtualShell
