import VirtualShell.Command.Basic
import VirtualShell.Text.Integer
import VirtualShell.Text.Lines
import VirtualShell.Text.Pieces

/-!
Contract: commands that show what a shell hands to a command and does with its outcome.

Owns:
- `showArguments` and `showInput`, which print what they were given.
- `emit`, which ends with a given output, error output and exit code, and `breakDown`,
  which ends with a fault.
- `setVariable` and `again`, which reach back into the shell.

A shell does not have these unless they are registered with it; each takes the name
that it is registered under.
-/

namespace VirtualShell.Command.Probe

/-- Prints each argument on a line of its own. -/
def showArguments (name : String) : Command := ofAction name fun _ arguments =>
  return .printed (String.join (arguments.map fun argument => "<" ++ argument ++ ">\n"))

/-- Prints the input. -/
def showInput (name : String) : Command := ofAction name fun context _ =>
  return .printed ("[" ++ context.stdin ++ "]\n")

/-- The wording of the fault of a command that was given too few arguments. -/
def missingArgument : String := "list index out of range"

/-- Prints the first argument, prints the second one as an error, and ends with the third
one as the exit code. -/
def emit (name : String) : Command := ofAction name fun _ arguments => do
  match arguments with
  | out :: error :: code :: _ =>
      match Text.readInteger code with
      | .ok code => return ⟨out ++ "\n", error ++ "\n", ExitCode.ofInt code⟩
      | .error defect => throw (.number defect)
  | _ => throw (.host missingArgument)

/-- Ends with a fault whose wording is the arguments. -/
def breakDown (name : String) : Command := ofAction name fun _ arguments =>
  throw (.host (Text.joinWith " " arguments))

/-- Sets a variable. -/
def setVariable (name : String) : Command := ofAction name fun _ arguments => do
  match arguments with
  | variableName :: value :: _ =>
      modify fun world =>
        { world with environment := world.environment.insert variableName value }
      return .success
  | _ => throw (.host missingArgument)

/-- Asks the shell to run the arguments as a line. -/
def again (name : String) : Command where
  name := name
  start _ arguments world :=
    .running world (Text.joinWith " " arguments) fun world outcome =>
      .finished world (.ok outcome)

end VirtualShell.Command.Probe
