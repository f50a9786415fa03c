import VirtualShell.Text.Pieces

/-!
Contract: variable and function names, and the assignments that use them.

Owns:
- `isName`, an ASCII letter or underscore followed by ASCII letters, digits and
  underscores.
- `splitAssignment?`, a text that is a name, an equals sign and a value.
-/

namespace VirtualShell

/-- A character that a name may start with. -/
def isNameStart (c : Char) : Bool :=
  c.isAlpha || c == '_'

/-- A character that a name may go on with. -/
def isNameChar (c : Char) : Bool :=
  c.isAlphanum || c == '_'

/-- Whether a text is the name of a variable or function. -/
def isName (text : String) : Bool :=
  match text.toList with
  | [] => false
  | c :: rest => isNameStart c && rest.all isNameChar

/-- The text before the first equals sign and, if there is one, the text after it. -/
def cutAtEquals (text : String) : String × Option String :=
  match Text.cutAt '=' text.toList with
  | some (before, after) => (String.ofList before, some (String.ofList after))
  | none => (text, none)

/-- The name and the value of an assignment. -/
def splitAssignment? (text : String) : Option (String × String) :=
  match cutAtEquals text with
  | (name, some value) => if isName name then some (name, value) else none
  | (_, none) => none

end VirtualShell
