import VirtualShell.Command.Operands
import VirtualShell.Regex.Match
import VirtualShell.Regex.Read
import VirtualShell.Text.Integer
import VirtualShell.Text.Pieces

/-!
Contract: the commands that print some of the lines of their inputs.

Owns:
- `head` and `tail`, with the count that they share.
- `grep`, the lines that a regular expression occurs in.
-/

namespace VirtualShell.Command

/-- How many lines `head` and `tail` print unless they are told. -/
def defaultCount : Nat := 10

/-- The count that an argument of `head` or `tail` gives, written `-nN` or `-N`. -/
def countText? (argument : String) : Option String :=
  match argument.toList with
  | '-' :: 'n' :: rest => some (String.ofList rest)
  | '-' :: c :: rest =>
      if (c :: rest).all Text.isDecimal then some (String.ofList (c :: rest)) else none
  | _ => none

/-- The count that a text stands for, or what is wrong with it. -/
def readCount (name text : String) : Except String Nat :=
  if !Text.isDigits text then .error (name ++ ": invalid number of lines: '" ++ text ++ "'")
  else
    match Text.readInteger text with
    | .ok count => .ok count.toNat
    | .error defect => .error defect.message

/-- The count and the operands among the arguments of `head` or `tail`; the last count
wins. -/
def parseCount (name : String) (count : Nat) : List String → Except String (Nat × List String)
  | [] => .ok (count, [])
  | argument :: rest =>
      match argument, rest with
      | "-n", text :: behind =>
          match readCount name text with
          | .ok count => parseCount name count behind
          | .error message => .error message
      | argument, rest =>
          match countText? argument with
          | some text =>
              match readCount name text with
              | .ok count => parseCount name count rest
              | .error message => .error message
          | none =>
              (parseCount name count rest).map fun (count, operands) =>
                (count, argument :: operands)

/-- The first lines. -/
def firstLines (count : Nat) (lines : List (List Char)) : List (List Char) :=
  lines.take count

/-- The last lines. A count beyond the number of lines is taken from twice that number,
so that counts up to that bound leave lines out in front again. -/
def lastLines (count : Nat) (lines : List (List Char)) : List (List Char) :=
  let skipped := if count ≤ lines.length then lines.length - count else 2 * lines.length - count
  lines.drop skipped

/-- A text that ends in a line feed unless it is empty. -/
def closeLine (text : List Char) : List Char :=
  if text.isEmpty || text.getLast? == some '\n' then text else text ++ ['\n']

/-- What `head` or `tail` prints of one input. -/
def selectedText (select : List (List Char) → List (List Char)) (content : String) : String :=
  String.ofList (closeLine (select (Text.linesWithEnds content.toList)).flatten)

/-- Prints some lines of each input, under a header if there are several inputs. -/
def linesCommand
    (name : String)
    (select : Nat → List (List Char) → List (List Char)) : Command :=
  ofAction name fun context arguments => do
    match parseCount name defaultCount arguments with
    | .error message => return .failure (message ++ "\n") 1
    | .ok (count, operands) =>
        let (sources, errors) ← readSources name context operands
        let chunks := sources.zipIdx.map fun (source, index) =>
          let header :=
            if 1 < sources.length then
              (if index = 0 then "" else "\n") ++ "==> " ++ source.label ++ " <==\n"
            else ""
          header ++ selectedText (select count) source.content
        return filtered (String.join chunks) errors

/-- Prints the first lines of each input. -/
def head : Command := linesCommand "head" firstLines

/-- Prints the last lines of each input. -/
def tail : Command := linesCommand "tail" lastLines

/-- The expressions given by `-e`, and the other arguments. -/
def splitExpressions : List String → List String × List String
  | [] => ([], [])
  | argument :: rest =>
      match argument, rest with
      | "-e", expression :: behind =>
          let (expressions, others) := splitExpressions behind
          (expression :: expressions, others)
      | argument, rest =>
          let (expressions, others) := splitExpressions rest
          (expressions, argument :: others)

/-- The one expression that some expressions make under the flags of `grep`. -/
def grepExpression (flags : List Char) (expressions : List String) : String :=
  let fixed := if flags.contains 'F' then expressions.map Regex.escape else expressions
  let words :=
    if flags.contains 'w' then fixed.map fun expression => "\\b(?:" ++ expression ++ ")\\b"
    else fixed
  Text.joinWith "|" words

/-- The lines of an input that are selected, with their numbers. -/
def hits (pattern : Regex.Pattern) (inverted : Bool) (content : String) :
    List (String × Nat) :=
  ((Text.lines content).zipIdx 1).filter fun (line, _) => pattern.occursIn line != inverted

/-- What `grep` prints for one input. -/
def grepLines (flags : List Char) (showsLabels : Bool) (source : Source)
    (found : List (String × Nat)) : List String :=
  let label := if showsLabels then source.label ++ ":" else ""
  if flags.contains 'q' then []
  else if flags.contains 'l' then (if found.isEmpty then [] else [source.label])
  else if flags.contains 'c' then [label ++ toString found.length]
  else
    found.map fun (line, number) =>
      if flags.contains 'n' then label ++ toString number ++ ":" ++ line else label ++ line

/-- Prints the lines that a regular expression occurs in. -/
def grep : Command := ofAction "grep" fun context arguments => do
  let (given, others) := splitExpressions arguments
  let (flags, words) := splitFlags ['i', 'v', 'n', 'c', 'q', 'l', 'F', 'E', 'w'] others
  match given, words with
  | [], [] => return .failure "grep: missing pattern\n" 2
  | given, words =>
      let expressions := if given.isEmpty then words.take 1 else given
      let operands := if given.isEmpty then words.drop 1 else words
      match Regex.Pattern.read (flags.contains 'i') (grepExpression flags expressions) with
      | .error .malformed =>
          return .failure
            ("grep: invalid regular expression: " ++ expressions.head?.getD "" ++ "\n") 2
      | .error defect => throw (.expression defect)
      | .ok pattern =>
          let (sources, errors) ← readSources "grep" context operands
          let found := sources.map fun source =>
            (source, hits pattern (flags.contains 'v') source.content)
          let anyHit := found.any fun (_, hits) => !hits.isEmpty
          if flags.contains 'q' && anyHit then return .success
          let output := found.flatMap fun (source, hits) =>
            grepLines flags (1 < operands.length) source hits
          let code : ExitCode := if !errors.isEmpty then 2 else if anyHit then 0 else 1
          return ⟨Text.joinLines output, errors, code⟩

end VirtualShell.Command
