import VirtualShell.Fault
import VirtualShell.Journal
import VirtualShell.Outcome
import VirtualShell.Parameter
import VirtualShell.Storage
import VirtualShell.Text.Digit
import VirtualShell.Text.Pieces

/-!
Contract: what a shell keeps from one line to the next, and while a line runs.

Owns:
- `Session`, the whole state, and `ScopeFrame`, what the local variables of a function
  call have hidden.
- the frames: `pushScope`, `popScope` and `recordLocal`.
- the parameters of a function call: `enterFunction` and `leaveFunction`.
- `Engine`, work on a session that can be cut short, and `Abort`, why it is.

A frame keeps, for each name that was declared local in it, the value that the name
had when it was declared first, or that it had none.
-/

namespace VirtualShell

/-- The values that local variables have hidden; absent values were unset. -/
abbrev ScopeFrame := Table String (Option String)

/-- The state of a shell; the innermost frame comes first. -/
structure Session where
  cwd : String
  previousDir : String
  environment : Environment
  functions : Table String String
  scopes : List ScopeFrame
  callDepth : Nat
  commandCount : Nat
  lastExitCode : ExitCode
  nesting : Nat
  storage : Storage
  journal : Journal

/-- Why work is cut short: a limit on the whole line, no room for another nested run, or
a fault that nobody has dealt with. -/
inductive Abort where
  | limit (message : String)
  | nestingSpent
  | fault (fault : Fault)
deriving DecidableEq, Repr

/-- Work on a session that can be cut short. What it has changed by then stays. -/
abbrev Engine (α : Type) := ExceptT Abort (StateM Session) α

namespace Engine

/-- Work with a change of the session after it, however it ends. -/
def onExit {α : Type}
    (work : Engine α)
    (exit : Except Abort α → Session → Session) : Engine α :=
  ExceptT.mk fun session =>
    let (result, after) := work.run session
    (result, exit result after)

/-- An operation on the storage, with its failure as a value. -/
def attempt {α : Type} (action : Storage.Action α) : Engine (Except FileError α) := do
  let session ← get
  let (result, storage) := action.run session.storage
  set { session with storage := storage }
  return result

/-- A result whose fault cuts the work short. -/
def ofFaulty {α : Type} : Except Fault α → Engine α
  | .ok value => pure value
  | .error fault => throw (.fault fault)

/-- Records an event at the current call depth. -/
def record (level : Level) (message source : String) : Engine Unit :=
  modify fun session =>
    { session with journal := session.journal.record ⟨level, message, source, session.callDepth⟩ }

end Engine

namespace Session

/-- Whether a function call is active. -/
def inFunction (session : Session) : Bool :=
  !session.scopes.isEmpty

/-- What references are looked up in. -/
def parameters (session : Session) : Parameters :=
  ⟨session.environment, session.lastExitCode.toNat⟩

/-- The session with the value of a variable. -/
def assign (session : Session) (name value : String) : Session :=
  { session with environment := session.environment.insert name value }

/-- The session without a variable. -/
def discard (session : Session) (name : String) : Session :=
  { session with environment := session.environment.erase name }

/-- The session with a fresh frame. -/
def pushScope (session : Session) : Session :=
  { session with scopes := .empty :: session.scopes }

/-- Variables put back to the values in some entries. -/
def restoreAll (environment : Environment) (entries : List (String × Option String)) :
    Environment :=
  entries.foldl (fun environment (name, value) => environment.restore name value) environment

/-- The session without its innermost frame, and with what that frame had hidden. -/
def popScope (session : Session) : Session :=
  match session.scopes with
  | [] => session
  | frame :: outer =>
      { session with
        scopes := outer
        environment := restoreAll session.environment frame.entries }

/-- The session with all frames above the outermost `count` closed. -/
def popScopesTo (count : Nat) (session : Session) : Session :=
  if session.scopes.length ≤ count then session
  else popScopesTo count session.popScope
termination_by session.scopes.length
decreasing_by
  rename_i more
  have : session.scopes ≠ [] := by
    intro none
    simp [none] at more
  cases scopes : session.scopes with
  | nil => exact absurd scopes this
  | cons frame outer => simp [popScope, scopes]

/-- The session in which the innermost frame remembers the value of a variable; a frame
remembers the first value only. -/
def recordLocal (session : Session) (name : String) : Session :=
  match session.scopes with
  | [] => session
  | frame :: outer =>
      if frame.contains name then session
      else
        { session with scopes := frame.insert name (session.environment.get? name) :: outer }

/-- Whether a name is the number of a parameter of a function call. -/
def isPositional (name : String) : Bool :=
  Text.isDigits name && name != "0"

/-- The names of the parameters that a call with `count` arguments hides. -/
def hiddenNames (environment : Environment) (count : Nat) : List String :=
  ((List.range count).map (fun index => toString (index + 1)) ++ ["@", "*", "#"] ++
    environment.keys.filter isPositional).eraseDups

/-- The values that a call with `count` arguments hides. -/
def hiddenValues (environment : Environment) (count : Nat) : List (String × Option String) :=
  (hiddenNames environment count).map fun name => (name, environment.get? name)

/-- The variables in which the parameters are `arguments`. -/
def withArguments (environment : Environment) (arguments : List String) : Environment :=
  let joined := Text.joinWith " " arguments
  let numbered := (arguments.zipIdx 1).foldl
    (fun environment (argument, index) => environment.insert (toString index) argument)
    environment
  ((numbered.insert "@" joined).insert "*" joined).insert "#" (toString arguments.length)

/-- The session in which a call with `arguments` starts. -/
def enterFunction (session : Session) (arguments : List String) : Session :=
  let cleared := session.environment.eraseAll
    (hiddenNames session.environment arguments.length)
  { session.pushScope with
    callDepth := session.callDepth + 1
    environment := withArguments cleared arguments }

/-- The session after a call: the depth, the frames and the parameters are as they were
before it. -/
def leaveFunction
    (session : Session)
    (depth scopes : Nat)
    (hidden : List (String × Option String)) : Session :=
  let closed := popScopesTo scopes { session with callDepth := depth }
  let cleared := closed.environment.eraseAll (closed.environment.keys.filter isPositional)
  { closed with environment := restoreAll cleared hidden }

end Session

end VirtualShell
