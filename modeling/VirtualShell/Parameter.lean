import VirtualShell.Name
import VirtualShell.Table
import VirtualShell.Text.Digit

/-!
Contract: the references in a text, and the values that stand for them.

Owns:
- `Environment`, the variables by name, the oldest first.
- `Parameters`, the variables with the last exit code, and `lookup?`.
- `Template`, a text taken apart into plain text and references, and
  `Template.ofText`, how a text is taken apart: the same way for all values.
- `expandVariables`, a text with its references replaced.

A value that takes the place of a reference is not looked at again.
-/

namespace VirtualShell

/-- The variables by name. -/
abbrev Environment := Table String String

/-- What the references of a text are looked up in. -/
structure Parameters where
  environment : Environment
  lastExitCode : Int

/-- The values that some parameters have when no variable gives them one. -/
def parameterDefault? (name : String) : Option String :=
  if name = "$" then some "1"
  else if name = "0" then some "bash"
  else if name = "#" then some "0"
  else none

/-- The value of a parameter; the last exit code cannot be replaced by a variable. -/
def Parameters.lookup? (parameters : Parameters) (name : String) : Option String :=
  if name = "?" then some (toString parameters.lastExitCode)
  else (parameters.environment.get? name).or (parameterDefault? name)

namespace Template

/-- A part of a text: plain text, the value of a parameter with what stands for it if
it is unset, or the length of a value. -/
inductive Piece where
  | plain (text : String)
  | value (name : String) (fallback : Option String)
  | length (name : String)
deriving DecidableEq, Repr

/-- A sign that is the name of a parameter. -/
def isSpecialParameter (c : Char) : Bool :=
  c == '@' || c == '#' || c == '$' || c == '?' || c == '!' || c == '*'

/-- The reference between braces. -/
def braced (inner : List Char) : Piece :=
  match inner with
  | '#' :: c :: rest => .length (String.ofList (c :: rest))
  | _ =>
      match Text.cutAtMark [':', '-'] inner with
      | some (name, fallback) => .value (String.ofList name) (some (String.ofList fallback))
      | none => .value (String.ofList inner) none

/-- The part behind a dollar, and the number of characters that it takes. A brace that
is not closed takes the whole rest as plain text. -/
def reference (chars : List Char) : Piece × Nat :=
  match chars with
  | '{' :: rest =>
      let inner := rest.takeWhile (· != '}')
      if inner.length < rest.length then (braced inner, inner.length + 2)
      else (.plain (String.ofList ('$' :: chars)), chars.length)
  | c :: _ =>
      if isNameStart c then
        let name := chars.takeWhile isNameChar
        (.value (String.ofList name) none, name.length)
      else if Text.isDigit c || isSpecialParameter c then (.value (String.singleton c) none, 1)
      else (.plain "$", 0)
  | [] => (.plain "$", 0)

/-- The parts of a text. -/
def ofChars (chars : List Char) : List Piece :=
  match chars with
  | [] => []
  | c :: rest =>
      if c = '$' then
        let (piece, width) := reference rest
        piece :: ofChars (rest.drop width)
      else
        let plain := rest.takeWhile (· != '$')
        .plain (String.ofList (c :: plain)) :: ofChars (rest.drop plain.length)
termination_by chars.length
decreasing_by
  all_goals
    simp only [List.length_drop, List.length_cons]
    omega

/-- The parts of a text. -/
def ofText (text : String) : List Piece :=
  ofChars text.toList

/-- What a part stands for. -/
def Piece.render (parameters : Parameters) : Piece → String
  | .plain text => text
  | .value name fallback => ((parameters.lookup? name).or fallback).getD ""
  | .length name => toString ((parameters.lookup? name).getD "").length

/-- What the parts of a text stand for. -/
def render (parameters : Parameters) (pieces : List Piece) : String :=
  String.join (pieces.map (Piece.render parameters))

end Template

/-- A text with its references replaced. -/
def expandVariables (parameters : Parameters) (text : String) : String :=
  Template.render parameters (Template.ofText text)

end VirtualShell
