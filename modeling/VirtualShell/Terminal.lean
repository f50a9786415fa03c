import VirtualShell.CommandLine
import VirtualShell.Shell

/-!
Contract: a shell that someone talks to.

Owns:
- `Terminal.banner`, the greeting, and `Terminal.prompt`, what stands before each line.
- `CommandLine.options`, the shell that a command line asks for.
- `Typed`, what can be typed, and `Transcript`, what has been shown so far.
- `Terminal.answer`, the answer to one thing that was typed, and `Terminal.converse`,
  the answers to all of them. What is typed ends after the last of them.
- `Terminal.runOnce`, the run of a single line.

Does not own: the streams themselves (`VirtualShell.Main`).
-/

namespace VirtualShell

/-- A shell as a command line asks for it. -/
def CommandLine.options (settings : CommandLine) (now : Int) : Options :=
  { Options.standard now with
    cwd := settings.cwd
    callDepth := settings.callDepth
    commandCount := settings.commandCount
    loopPasses := settings.loopPasses }

/-- What can be typed: a line, the end of the input, or an interruption. -/
inductive Typed where
  | line (text : String)
  | done
  | interrupt
deriving DecidableEq, Repr

/-- What a terminal shows next, and whether the conversation goes on. -/
structure Answer where
  stdout : String
  stderr : String
  exitCode : ExitCode
  goesOn : Bool
deriving DecidableEq, Repr

/-- What a terminal has shown: the two streams, the prompts, and the exit code of the last
line. -/
structure Transcript where
  stdout : String
  stderr : String
  prompts : List String
  exitCode : ExitCode
deriving DecidableEq, Repr

/-- The transcript with one more prompt and the answer behind it. -/
def Transcript.add (shown : Transcript) (prompt : String) (answer : Answer) : Transcript :=
  ⟨shown.stdout ++ answer.stdout, shown.stderr ++ answer.stderr, shown.prompts ++ [prompt],
    answer.exitCode⟩

namespace Terminal

/-- The line above and below the name in the greeting. -/
def border : String := String.ofList (List.replicate 38 '=')

/-- The greeting. -/
def banner : String :=
  "\n  " ++ border ++ "\n            py-vsh v0.1.0\n    A simulated bash over a virtual fs\n  " ++
    border ++ "\n\nType 'exit' or press Ctrl+D to quit.\n"

/-- The working directory, with a tilde in place of the home directory. -/
def shortened (home cwd : String) : String :=
  if home != "" && home != "/" && (cwd == home || Text.startsWith cwd (home ++ "/")) then
    "~" ++ String.ofList (cwd.toList.drop home.length)
  else cwd

/-- What stands before each line. -/
def prompt (shell : Shell) : String :=
  let home := (shell.session.environment.get? "HOME").getD ""
  "user@vsh:" ++ shortened home shell.session.cwd ++ "$ "

/-- Whether a conversation ends after a line. -/
def isFarewell (line : String) : Bool :=
  (Text.fields line).head? == some "exit"

/-- What is shown when the input ends. -/
def endMark : String := "\n"

/-- What is shown after an interruption. -/
def interruptMark : String := "\nInterrupted.\n"

/-- The answer to what was typed, after a line that ended with `exitCode`. -/
def answer (shell : Shell) (exitCode : ExitCode) : Typed → Except Abort Answer × Shell
  | .done => (.ok ⟨endMark, "", exitCode, false⟩, shell)
  | .interrupt => (.ok ⟨interruptMark, "", exitCode, false⟩, shell)
  | .line text =>
      let (result, after) := shell.execute text
      (result.map fun outcome =>
        ⟨outcome.stdout, outcome.stderr, outcome.exitCode, !isFarewell text⟩, after)

/-- What has been shown when a conversation starts. -/
def greeting : Transcript := ⟨banner ++ "\n", "", [], 0⟩

/-- The transcript of a conversation. -/
def converse (shell : Shell) (shown : Transcript) : List Typed → Except Abort Transcript
  | [] => do
      let (result, _) := answer shell shown.exitCode .done
      return shown.add (prompt shell) (← result)
  | typed :: rest => do
      let (result, after) := answer shell shown.exitCode typed
      let answer ← result
      let shown := shown.add (prompt shell) answer
      if answer.goesOn then converse after shown rest else return shown

/-- The transcript of the run of a single line. -/
def runOnce (shell : Shell) (line : String) : Except Abort Transcript := do
  let outcome ← (shell.execute line).1
  return ⟨outcome.stdout, outcome.stderr, [], outcome.exitCode⟩

/-- The transcript of a program that was started with some settings. -/
def run (shell : Shell) (settings : CommandLine) (typed : List Typed) :
    Except Abort Transcript :=
  match settings.command with
  | some line => runOnce shell line
  | none => converse shell greeting typed

end Terminal

end VirtualShell
