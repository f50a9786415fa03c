import VirtualShell.Expansion
import VirtualShell.Session
import VirtualShell.Statement

/-!
Contract: where the streams of a command come from and go to.

Owns:
- `readInput`, the input of a command once its redirections have been looked at.
- `Sink`, where a stream goes, and `applyRedirections`, which opens the targets from
  left to right and then hands out what the command has printed.

Joining one stream to the other means: to where the other goes at that point. Every
target is made or emptied, also one that a later redirection replaces. A target that
cannot be opened discards what the command has printed.
-/

namespace VirtualShell

/-- Where a stream goes; a file is reported under its label. -/
inductive Sink where
  | stdout
  | stderr
  | file (path label : String)
  | nowhere
deriving DecidableEq, Repr

/-- Where the two output streams go. -/
structure Routing where
  out : Sink
  error : Sink
deriving DecidableEq, Repr

namespace Redirect

/-- The target that discards. -/
def nullDevice : String := "/dev/null"

/-- What a word stands for as one text. -/
def expand (word : Word) : Engine String := do
  return expandWord (← get).parameters word

/-- The input after the redirections, or the outcome if a file cannot be read. -/
def readInput (stdin : String) : List Redirection → Engine (Except Outcome String)
  | [] => return .ok stdin
  | .readIn word :: rest => do
      let target ← expand word
      match ← Engine.attempt (Storage.read (Path.resolve (← get).cwd target)) with
      | .ok content => readInput content rest
      | .error _ =>
          return .error (.failure ("bash: " ++ target ++ ": No such file or directory\n") 1)
  | _ :: rest => readInput stdin rest

/-- Whether a redirection is about the input. -/
def isInput : Redirection → Bool
  | .readIn _ => true
  | _ => false

/-- The outcome for a target that cannot be written. -/
def unwritable (label : String) (error : FileError) : Outcome :=
  .failure ("bash: " ++ label ++ ": " ++ error.cause.reason ++ "\n") 1

/-- Opens a target; emptied unless text is to be put behind what it holds. -/
def openTarget (word : Word) (append : Bool) : Engine (Except Outcome Sink) := do
  let target ← expand word
  if target = nullDevice then return .ok .nowhere
  let path := Path.resolve (← get).cwd target
  match ← Engine.attempt (if append then Storage.append path "" else Storage.write path "") with
  | .ok () => return .ok (.file path target)
  | .error error => return .error (unwritable target error)

/-- Where the streams go after the redirections, or the outcome if a target cannot be
opened. -/
def route (routing : Routing) : List Redirection → Engine (Except Outcome Routing)
  | [] => return .ok routing
  | .errorToOut :: rest => route { routing with error := routing.out } rest
  | .outToError :: rest => route { routing with out := routing.error } rest
  | .readIn _ :: rest => route routing rest
  | .writeOut word append :: rest => do
      match ← openTarget word append with
      | .ok sink => route { routing with out := sink } rest
      | .error outcome => return .error outcome
  | .writeError word append :: rest => do
      match ← openTarget word append with
      | .ok sink => route { routing with error := sink } rest
      | .error outcome => return .error outcome

/-- Hands a text to a sink: the returned streams, or the outcome if a file cannot be
written. -/
def deliver (text : String) (sink : Sink) (streams : String × String) :
    Engine (Except Outcome (String × String)) := do
  match sink with
  | .stdout => return .ok (streams.1 ++ text, streams.2)
  | .stderr => return .ok (streams.1, streams.2 ++ text)
  | .nowhere => return .ok streams
  | .file path label =>
      if text.isEmpty then return .ok streams
      match ← Engine.attempt (Storage.append path text) with
      | .ok () => return .ok streams
      | .error error => return .error (unwritable label error)

/-- The outcome of a command once its output has gone where the redirections say. -/
def applyRedirections (outcome : Outcome) (redirections : List Redirection) :
    Engine Outcome := do
  if redirections.all isInput then return outcome
  match ← route ⟨.stdout, .stderr⟩ redirections with
  | .error failed => return failed
  | .ok routing =>
      match ← deliver outcome.stdout routing.out ("", "") with
      | .error failed => return failed
      | .ok streams =>
          match ← deliver outcome.stderr routing.error streams with
          | .error failed => return failed
          | .ok (stdout, stderr) => return ⟨stdout, stderr, outcome.exitCode⟩

end Redirect

end VirtualShell
