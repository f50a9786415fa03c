import VirtualShell.Command.Arrange
import VirtualShell.Command.Condition
import VirtualShell.Command.Print
import VirtualShell.Command.Select
import VirtualShell.Command.Tree
import VirtualShell.Name

/-!
Contract: the commands that a shell has unless it is told otherwise.

Owns:
- `env` and `printenv`, which print variables.
- `source`, which asks the shell to run the text of a file.
- `library`, all commands, in the order in which a shell gets them.
-/

namespace VirtualShell.Command

/-- The variables whose names are well formed, sorted, one per line. -/
def variableLines (environment : Environment) : List String :=
  ((Text.sorted environment.keys).filter isName).map fun name =>
    name ++ "=" ++ (environment.get? name).getD ""

/-- Prints all variables. -/
def env : Command := ofAction "env" fun _ _ => do
  return .printed (Text.joinLines (variableLines (← get).environment))

/-- Prints all variables, or the values of the named ones. -/
def printenv : Command := ofAction "printenv" fun _ arguments => do
  let environment := (← get).environment
  if arguments.isEmpty then return .printed (Text.joinLines (variableLines environment))
  let values := arguments.filterMap environment.get?
  return ⟨Text.joinLines values, "", if values.length = arguments.length then 0 else 1⟩

/-- Runs the text of a file in the shell. -/
def source (name : String) : Command where
  name := name
  start context arguments world :=
    match arguments with
    | [] =>
        .finished world (.ok (.failure "bash: source: filename argument required\n" 2))
    | path :: _ =>
        match (attempt (Storage.read (context.resolve path))).run world with
        | (.ok (.ok script), after) =>
            .running after script fun world outcome => .finished world (.ok outcome)
        | (.ok (.error _), after) =>
            .finished after
              (.ok (.failure ("bash: " ++ path ++ ": No such file or directory\n") 1))
        | (.error fault, after) => .finished after (.error fault)

/-- The commands that a shell has unless it is told otherwise. -/
def library : List Command :=
  [echo, cat, head, tail, wc, grep, sort, uniq, tr, seq,
    ls, mkdir, touch, rm, cp, mv, pwd,
    succeed "true", fail, succeed ":", Condition.test, Condition.bracket, env, printenv,
    source "source", source "."]

end VirtualShell.Command
