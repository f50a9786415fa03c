/-!
Contract: the ways in which a line is not a statement.

Owns:
- `SyntaxError`, one constructor per cause, and `SyntaxError.message`, its wording.

Does not own: which of two causes wins. That is decided by the readers, which report
the first cause that they meet from left to right.
-/

namespace VirtualShell

/-- Why a line is not a statement. -/
inductive SyntaxError where
  | unclosedQuote (quote : Char)
  | unexpectedToken (text : String)
  | unexpectedEnd
  | invalidName (text : String)
deriving DecidableEq, Repr

/-- The wording of a cause. -/
def SyntaxError.message : SyntaxError → String
  | .unclosedQuote quote =>
      "unexpected EOF while looking for matching `" ++ String.singleton quote ++ "'"
  | .unexpectedToken text => "syntax error near unexpected token `" ++ text ++ "'"
  | .unexpectedEnd => "syntax error: unexpected end of file"
  | .invalidName text => "`" ++ text ++ "': not a valid identifier"

end VirtualShell
