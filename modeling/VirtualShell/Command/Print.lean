import VirtualShell.Command.Operands
import VirtualShell.Text.Integer
import VirtualShell.Text.Pieces

/-!
Contract: the commands that print their arguments, their input or a fixed answer.

Owns:
- `echo`, `cat`, `pwd` and `seq`; `succeed` and `fail`, which print nothing.
-/

namespace VirtualShell.Command

/-- Whether an argument of `echo` is a word of flags. -/
def isEchoFlags (argument : String) : Bool :=
  match argument.toList with
  | '-' :: letter :: letters => (letter :: letters).all fun c => c == 'n' || c == 'e' || c == 'E'
  | _ => false

/-- The character of an escape letter of `echo`. -/
def echoEscape? : Char → Option Char
  | '\\' => some '\\'
  | 'n' => some '\n'
  | 't' => some '\t'
  | 'r' => some '\r'
  | 'a' => some '\x07'
  | 'b' => some '\x08'
  | 'f' => some '\x0c'
  | 'v' => some '\x0b'
  | _ => none

/-- A text with the escapes of `echo` replaced; an unknown escape is kept. -/
def replaceEchoEscapes : List Char → List Char
  | '\\' :: c :: rest =>
      match echoEscape? c with
      | some replaced => replaced :: replaceEchoEscapes rest
      | none => '\\' :: c :: replaceEchoEscapes rest
  | c :: rest => c :: replaceEchoEscapes rest
  | [] => []

/-- Prints its arguments. -/
def echo : Command := ofAction "echo" fun _ arguments => do
  let letters := (arguments.takeWhile isEchoFlags).flatMap fun argument => argument.toList.drop 1
  let output := Text.joinWith " " (arguments.dropWhile isEchoFlags)
  let replaces := (letters.filter (· != 'n')).getLast? == some 'e'
  let shown := if replaces then String.ofList (replaceEchoEscapes output.toList) else output
  return .printed (if letters.contains 'n' then shown else shown ++ "\n")

/-- Lines with their numbers in front, filled to six characters. -/
def numbered (texts : List String) : List String :=
  (texts.zipIdx 1).map fun (line, number) => Text.padLeft 6 (toString number) ++ "\t" ++ line

/-- Prints its inputs one after the other; `-n` numbers the lines. -/
def cat : Command := ofAction "cat" fun context arguments => do
  let (flags, operands) := splitFlags ['n'] arguments
  let (sources, errors) ← readSources "cat" context operands
  let output := String.join (sources.map Source.content)
  let shown := if flags.contains 'n' then Text.joinLines (numbered (Text.lines output)) else output
  return filtered shown errors

/-- Prints the working directory. -/
def pwd : Command := ofAction "pwd" fun context _ => return .printed (context.cwd ++ "\n")

/-- Succeeds. -/
def succeed (name : String) : Command := ofAction name fun _ _ => return .success

/-- Fails. -/
def fail : Command := ofAction "false" fun _ _ => return .ofTruth false

/-- The numbers from `first` up to `last`, or down to it, in steps of `step`. -/
def progression (first step last : Int) : List Int :=
  let count :=
    if 0 < step then (if first ≤ last then ((last - first) / step).toNat + 1 else 0)
    else (if last ≤ first then ((first - last) / (-step)).toNat + 1 else 0)
  (List.range count).map fun (index : Nat) => first + (index : Int) * step

/-- Whether an argument looks like an integer: digits behind an optional minus sign. -/
def looksLikeInteger (argument : String) : Bool :=
  match argument.toList with
  | '-' :: rest => !rest.isEmpty && rest.all Text.isDecimal
  | rest => !rest.isEmpty && rest.all Text.isDecimal

/-- Prints an arithmetic progression. -/
def seq : Command := ofAction "seq" fun _ arguments => do
  if arguments.isEmpty then return .failure "seq: missing operand\n" 1
  if 3 < arguments.length then return .failure "seq: extra operand\n" 1
  match arguments.mapM Text.readInteger with
  | .error _ =>
      match arguments.find? fun argument => !looksLikeInteger argument with
      | none => throw .noOffender
      | some argument =>
          return .failure ("seq: invalid integer argument: '" ++ argument ++ "'\n") 1
  | .ok numbers =>
      let (first, step, last) : Int × Int × Int := match numbers with
        | [first, step, last] => (first, step, last)
        | [first, last] => (first, 1, last)
        | [last] => (1, 1, last)
        | _ => (1, 1, 0)
      if step = 0 then return .failure "seq: invalid Zero increment value: '0'\n" 1
      return .printed (Text.joinLines ((progression first step last).map toString))

end VirtualShell.Command
