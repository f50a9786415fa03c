import Std.Time.DateTime.Timestamp
import VirtualShell.Terminal

/-!
Contract: the program on the real streams.

Owns:
- `main`: it reads the arguments, opens a shell, and either runs the one line that it was
  given or talks to whoever types until the conversation ends.

Does not own: what is said (`VirtualShell.Terminal`). The clock of the shell stands still
while a line runs.
-/

namespace VirtualShell.Program

/-- The time of day in seconds. -/
def currentTime : IO Int := do
  return (← Std.Time.Timestamp.now).toSecondsSinceUnixEpoch.val

/-- The shell with the clock set. -/
def atTime (shell : Shell) (now : Int) : Shell :=
  let storage := shell.session.storage
  { shell with
    session := { shell.session with
      storage := { storage with files := { storage.files with now := now } } } }

/-- Shows texts on the two streams. -/
def emit (stdout stderr : String) : IO Unit := do
  let out ← IO.getStdout
  out.putStr stdout
  out.flush
  let error ← IO.getStderr
  error.putStr stderr
  error.flush

/-- The exit code of a program that has broken down. -/
def failureCode : UInt32 := 1

/-- Tells why the program has broken down. -/
def breakDown (message : String) : IO UInt32 := do
  emit "" ("py-vsh: " ++ message ++ "\n")
  return failureCode

/-- The wording of an abort that has reached the program. -/
def abortMessage : Abort → String
  | .limit message => Text.trim message
  | .nestingSpent => "maximum nesting exceeded"
  | .fault fault => fault.message

/-- The wording of the reason why there is no shell. -/
def openingMessage : OpeningError → String
  | .negative option => Limits.negativeMessage option
  | .file error => error.message

/-- How the program is used. -/
def usage : String :=
  "usage: py-vsh [-h] [-c COMMAND] [--cwd CWD] [--max-call-depth MAX_CALL_DEPTH] " ++
    "[--max-command-count MAX_COMMAND_COUNT] [--max-loop-iterations MAX_LOOP_ITERATIONS]\n"

/-- What was typed, from a line that was read. An empty one means that the input has
ended. -/
def typedOf (line : String) : Typed :=
  if line.isEmpty then .done
  else if Text.endsWith line "\n" then .line (String.ofList line.toList.dropLast)
  else .line line

/-- Talks until the conversation ends. -/
partial def converse (shell : Shell) (exitCode : ExitCode) : IO UInt32 := do
  emit (Terminal.prompt shell) ""
  let typed := typedOf (← (← IO.getStdin).getLine)
  let (result, after) := Terminal.answer (atTime shell (← currentTime)) exitCode typed
  match result with
  | .error abort => breakDown (abortMessage abort)
  | .ok answer =>
      emit answer.stdout answer.stderr
      if answer.goesOn then converse after answer.exitCode
      else return answer.exitCode.toUInt32

/-- Runs the program with the settings that it was given. -/
def run (settings : CommandLine) : IO UInt32 := do
  match Shell.ofOptions (settings.options (← currentTime)) with
  | .error error => breakDown (openingMessage error)
  | .ok shell =>
      match settings.command with
      | none =>
          emit Terminal.greeting.stdout ""
          converse shell 0
      | some line =>
          match Terminal.runOnce shell line with
          | .error abort => breakDown (abortMessage abort)
          | .ok shown =>
              emit shown.stdout shown.stderr
              return shown.exitCode.toUInt32

end VirtualShell.Program

/-- Runs the shell as the arguments say. -/
def main (arguments : List String) : IO UInt32 := do
  match VirtualShell.CommandLine.read arguments with
  | .error .help =>
      VirtualShell.Program.emit VirtualShell.Program.usage ""
      return 0
  | .error .misuse =>
      VirtualShell.Program.emit "" VirtualShell.Program.usage
      return UInt32.ofNat VirtualShell.Refusal.misuse.exitCode
  | .ok settings => VirtualShell.Program.run settings
