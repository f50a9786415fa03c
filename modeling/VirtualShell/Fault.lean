import VirtualShell.Files.Error
import VirtualShell.Regex.Read
import VirtualShell.SyntaxError
import VirtualShell.Text.Integer

/-!
Contract: what can go wrong inside a command beyond the failures that it reports
itself.

Owns:
- `Fault`, one constructor per cause, and `Fault.message`, its wording.

Does not own: what becomes of a fault. At the boundary where a command is called it
is turned into the result of the command (`VirtualShell.Interpreter`).
-/

namespace VirtualShell

/-- What a command, or the expansion of a word, can fail with. -/
inductive Fault where
  | file (error : FileError)
  | expression (defect : Regex.Defect)
  | number (defect : Text.IntegerDefect)
  | decimal (text : String)
  | line (error : SyntaxError)
  | noOffender
  | host (message : String)
deriving DecidableEq, Repr

/-- The wording of a fault. -/
def Fault.message : Fault → String
  | .file error => error.message
  | .expression defect => defect.message
  | .number defect => defect.message
  | .decimal text => "could not convert string to float: " ++ Text.quoted text
  | .line error => error.message
  | .noOffender => "coroutine raised StopIteration"
  | .host message => message

end VirtualShell
