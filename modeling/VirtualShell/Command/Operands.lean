import VirtualShell.Command.Basic
import VirtualShell.Text.Lines

/-!
Contract: how the arguments of a command divide into flags and operands, and where a
command that reads gets its input.

Owns:
- `splitFlags`, the flag letters in front and the operands behind them.
- `Source` and `readSources`, the inputs named by the operands.
-/

namespace VirtualShell.Command

/-- The flag letters of the words in front, up to `--` or to the first word that is not
a dash with letters of `known`, and the words behind them. -/
def splitFlags (known : List Char) : List String → List Char × List String
  | [] => ([], [])
  | argument :: rest =>
      if argument = "--" then ([], rest)
      else
        match argument.toList with
        | '-' :: letter :: letters =>
            if (letter :: letters).all known.contains then
              let (others, operands) := splitFlags known rest
              (letter :: letters ++ others, operands)
            else ([], argument :: rest)
        | _ => ([], argument :: rest)

/-- An input with the name that it is reported under. -/
structure Source where
  label : String
  content : String
deriving DecidableEq, Repr

/-- The operand that means the standard input. -/
def standardInput : String := "-"

/-- The inputs that the operands name, and the error text for those that cannot be
read. Without operands the standard input is the only one. -/
def readSources (name : String) (context : Context) (operands : List String) :
    Action (List Source × String) := do
  if operands.isEmpty then return ([⟨standardInput, context.stdin⟩], "")
  let readings ← operands.mapM fun operand => do
    if operand = standardInput then return (some ⟨operand, context.stdin⟩, "")
    match ← attempt (Storage.read (context.resolve operand)) with
    | .ok content => return (some (Source.mk operand content), "")
    | .error ⟨.isDirectory, _⟩ => return (none, name ++ ": " ++ operand ++ ": Is a directory\n")
    | .error _ => return (none, name ++ ": " ++ operand ++ ": No such file or directory\n")
  return (readings.filterMap Prod.fst, String.join (readings.map Prod.snd))

/-- The outcome of a command that has read its inputs: it fails if some could not be. -/
def filtered (stdout errors : String) : Outcome :=
  ⟨stdout, errors, if errors.isEmpty then 0 else 1⟩

/-- The outcome of a command that reports each failure as a line. -/
def reported (errors : List String) : Outcome :=
  filtered "" (String.join errors)

end VirtualShell.Command
