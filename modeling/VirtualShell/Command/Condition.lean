import VirtualShell.Command.Operands
import VirtualShell.Text.Integer

/-!
Contract: the conditions that can be tested, and the commands that test them.

Owns:
- `Condition.evaluate`, the truth of up to four words: a text is true if it is not
  empty, two words are a test of one operand, three a comparison, and an
  exclamation mark in front negates the rest.
- `Condition.Defect`, why words are no condition.
- `test` and `bracket`, which needs a closing bracket.
-/

namespace VirtualShell.Command.Condition

/-- Why words are no condition. -/
inductive Defect where
  | unknownUnary (operator : String)
  | unknownBinary (operator : String)
  | notInteger (text : String)
  | tooManyWords
deriving DecidableEq, Repr

/-- The wording of a defect. -/
def Defect.message : Defect → String
  | .unknownUnary operator => operator ++ ": unary operator expected"
  | .unknownBinary operator => operator ++ ": binary operator expected"
  | .notInteger text => text ++ ": integer expression expected"
  | .tooManyWords => "too many arguments"

/-- The comparison of integers that a word names. -/
def integerTest? (word : String) : Option (Int → Int → Bool) :=
  match word with
  | "-eq" => some (· == ·)
  | "-ne" => some (· != ·)
  | "-lt" => some (· < ·)
  | "-le" => some (· ≤ ·)
  | "-gt" => some (· > ·)
  | "-ge" => some (· ≥ ·)
  | _ => none

/-- Whether a text is digits behind any number of minus signs. -/
def looksSigned (text : String) : Bool :=
  Text.isDigits (String.ofList (text.toList.dropWhile (· == '-')))

/-- The truth of a comparison. -/
def compare (left operator right : String) : Except Defect Bool :=
  if operator = "=" ∨ operator = "==" then .ok (left == right)
  else if operator = "!=" then .ok (left != right)
  else
    match integerTest? operator with
    | none => .error (.unknownBinary operator)
    | some holds =>
        match Text.readInteger left, Text.readInteger right with
        | .ok first, .ok second => .ok (holds first second)
        | _, _ => .error (.notInteger (if looksSigned left then right else left))

/-- The question about a file that a word names. -/
def fileTest? (word : String) : Option (Files.Info → Bool) :=
  match word with
  | "-e" | "-r" | "-w" => some fun _ => true
  | "-f" => some fun info => !info.isDirectory
  | "-d" => some fun info => info.isDirectory
  | "-s" => some fun info => 0 < info.size
  | _ => none

/-- The truth of a test of one operand. -/
def testOperand (context : Context) (operator operand : String) : Action (Except Defect Bool) := do
  if operator = "-z" then return .ok operand.isEmpty
  if operator = "-n" then return .ok !operand.isEmpty
  match fileTest? operator with
  | none => return .error (.unknownUnary operator)
  | some holds =>
      let path := context.resolve operand
      if ← require (Storage.contains path) then
        return .ok (holds (← require (Storage.info path)))
      else return .ok false

/-- The truth of some words. -/
def evaluate (context : Context) : List String → Action (Except Defect Bool)
  | [] => return .ok false
  | word :: rest =>
      if word = "!" then do
        return (← evaluate context rest).map (!·)
      else
        match rest with
        | [] => return .ok !word.isEmpty
        | [operand] => testOperand context word operand
        | [operator, right] => return compare word operator right
        | _ => return .error .tooManyWords

/-- The outcome of testing some words. -/
def outcome (context : Context) (words : List String) : Action Outcome := do
  match ← evaluate context words with
  | .ok truth => return .ofTruth truth
  | .error defect => return .failure ("test: " ++ defect.message ++ "\n") 2

/-- Tests its arguments. -/
def test : Command := ofAction "test" outcome

/-- Tests its arguments, the last of which must be a closing bracket. -/
def bracket : Command := ofAction "[" fun context arguments =>
  if arguments.getLast? = some "]" then outcome context arguments.dropLast
  else return .failure "[: missing `]'\n" 2

end VirtualShell.Command.Condition
