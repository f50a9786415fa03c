import VirtualShell.Fault
import VirtualShell.Outcome
import VirtualShell.Parameter
import VirtualShell.Storage

/-!
Contract: what a command is, and how far it can reach.

Owns:
- `World`, what a command can change: the variables and the storage.
- `Process`, a command at work: it has finished, or it asks the shell to run a line
  and goes on with the outcome.
- `Command`, a name and how the command starts.
- `Command.Action`, the work of a command that never asks the shell back.

A command cannot change the working directory, the functions or the local variables,
except by the lines that it asks the shell to run. It does not see a line that was
cut short by a limit: that ends the command as well.

What is assumed of a command: it asks for one line at a time and waits for its outcome,
it asks for finitely many lines whatever comes back, and it keeps nothing from one call
to the next. So a process is a well-founded tree, and all that a call depends on are the
arguments, the context and the world that it is started in.
-/

namespace VirtualShell

/-- What a command can change. -/
structure World where
  environment : Environment
  storage : Storage

/-- Where a command is started: the working directory and the input. -/
structure Context where
  cwd : String
  stdin : String

/-- A command at work. -/
inductive Process where
  | finished (world : World) (result : Except Fault Outcome)
  | running (world : World) (line : String) (resume : World → Outcome → Process)

/-- A command that can be called by its name. -/
structure Command where
  name : String
  start : Context → List String → World → Process

namespace Command

/-- Work on the world that can end in a fault. -/
abbrev Action (α : Type) := ExceptT Fault (StateM World) α

/-- A process that does its work at once. -/
def finish (world : World) (action : Action Outcome) : Process :=
  let (result, after) := action.run world
  .finished after result

/-- A command that never asks the shell back. -/
def ofAction (name : String) (work : Context → List String → Action Outcome) : Command :=
  ⟨name, fun context arguments world => finish world (work context arguments)⟩

/-- An operation on the storage, with its failure as a value. -/
def attempt {α : Type} (action : Storage.Action α) : Action (Except FileError α) := do
  let world ← get
  let (result, storage) := action.run world.storage
  set { world with storage := storage }
  return result

/-- An operation on the storage whose failure ends the command. -/
def require {α : Type} (action : Storage.Action α) : Action α := do
  match ← attempt action with
  | .ok value => return value
  | .error error => throw (.file error)

end Command

/-- The absolute path of an operand. -/
def Context.resolve (context : Context) (path : String) : String :=
  Path.resolve context.cwd path

end VirtualShell
