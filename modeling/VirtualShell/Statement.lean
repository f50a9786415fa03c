import VirtualShell.Token

/-!
Contract: the statements that a line is read as.

Owns:
- `Redirection`, one change of where a stream goes.
- `SimpleCommand`, `Stage` and `Pipeline`, the parts of ordinary commands.
- `Compound`, the conditional and the loops, and `Statement`, any statement together
  with the text that follows it on the line.

The conditions and bodies of compound statements and functions, and the text that
follows a statement, are kept as text and read again each time they are run.

Does not own: reading (`VirtualShell.Statement.Read`) and running
(`VirtualShell.Interpreter`).
-/

namespace VirtualShell

/-- One change of where a stream goes. -/
inductive Redirection where
  | writeOut (target : Word) (append : Bool)
  | writeError (target : Word) (append : Bool)
  | readIn (target : Word)
  | errorToOut
  | outToError
deriving DecidableEq, Repr

/-- Words, the first of which names what to run, and redirections. -/
structure SimpleCommand where
  words : List Word
  redirections : List Redirection
deriving DecidableEq, Repr

/-- When something runs, given the exit code of what ran before it. -/
inductive Gate where
  | always
  | onSuccess
  | onFailure
deriving DecidableEq, Repr

/-- A command in a pipeline. `gate` is absent for the first command and for one that
a pipe joins to the command before it. -/
structure Stage where
  command : SimpleCommand
  gate : Option Gate
  negations : Nat
deriving DecidableEq, Repr

/-- The commands of one line of input, in order. -/
structure Pipeline where
  stages : List Stage
deriving DecidableEq, Repr

/-- What joins a statement to the text that follows it. -/
inductive Joint where
  | pipe
  | newline
  | gate (gate : Gate)
deriving DecidableEq, Repr

/-- The text that follows a statement on the line, not read yet. -/
structure Tail where
  joint : Joint
  text : String
deriving DecidableEq, Repr

/-- A branch of a conditional; the last one may have no condition. -/
structure Branch where
  condition : Option String
  body : String
deriving DecidableEq, Repr

/-- Which outcome of its condition keeps a loop going. -/
inductive LoopKind where
  | whileTrue
  | untilTrue
deriving DecidableEq, Repr

/-- The statements that have other statements inside. -/
inductive Compound where
  | conditional (branches : List Branch)
  | forEach (name list body : String)
  | loop (kind : LoopKind) (condition body : String)
deriving DecidableEq, Repr

/-- A statement without the text that follows it. -/
inductive StatementBody where
  | pipelines (pipelines : List Pipeline)
  | compound (compound : Compound) (redirections : List Redirection)
  | function (name body : String)
deriving DecidableEq, Repr

/-- A statement and the text that follows it on the line. -/
structure Statement where
  body : StatementBody
  tail : Option Tail
deriving DecidableEq, Repr

/-- What an operator can join a statement to. -/
def Operator.joint? : Operator → Option Joint
  | .pipe => some .pipe
  | .newline => some .newline
  | .semicolon => some (.gate .always)
  | .andThen => some (.gate .onSuccess)
  | .orElse => some (.gate .onFailure)
  | _ => none

/-- Whether a joint only separates, so that nothing needs to follow it. -/
def Joint.isSeparator : Joint → Bool
  | .newline | .gate .always => true
  | .pipe | .gate .onSuccess | .gate .onFailure => false

/-- The gate of a command behind this joint. -/
def Joint.stageGate : Joint → Option Gate
  | .gate condition => some condition
  | .pipe | .newline => none

/-- The redirection of an operator that joins one stream to the other. -/
def Operator.duplication? : Operator → Option Redirection
  | .errorToOut => some .errorToOut
  | .outToError => some .outToError
  | _ => none

/-- The redirection of an operator that is followed by a file name. -/
def Operator.redirectionTo? : Operator → Option (Word → Redirection)
  | .readIn => some .readIn
  | .writeOut => some (.writeOut · false)
  | .appendOut => some (.writeOut · true)
  | .writeError => some (.writeError · false)
  | .appendError => some (.writeError · true)
  | _ => none

end VirtualShell
