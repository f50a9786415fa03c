import VirtualShell.Command.Operands
import VirtualShell.Text.Digit
import VirtualShell.Text.Order
import VirtualShell.Text.Pieces

/-!
Contract: the commands that order, join, count or translate what they read.

Owns:
- `sort`, with `numericKey`, the number in front of a line.
- `uniq`, equal neighbours made one line.
- `wc`, the numbers of lines, words and bytes.
- `tr`, characters replaced by characters.
-/

namespace VirtualShell.Command

/-- The digits in front of some characters, as their values, and the rest. -/
def leadingDigits : List Char → List Nat × List Char
  | [] => ([], [])
  | c :: rest =>
      match Text.decimalValue? c with
      | some digit =>
          let (digits, behind) := leadingDigits rest
          (digit :: digits, behind)
      | none => ([], c :: rest)

/-- The number that digits before and after a point stand for. -/
def decimalNumber (whole fraction : List Nat) : Float :=
  let mantissa := (whole ++ fraction).foldl (fun value digit => value * 10 + digit) 0
  Float.ofScientific mantissa true fraction.length

/-- The number in front of a line, zero if there is none. The white space before it must
not hold an ASCII separator. -/
def numericKey (line : String) : Except Fault Float :=
  let blank := line.toList.takeWhile Text.isBlank
  let behind := line.toList.dropWhile Text.isBlank
  let (negative, unsigned) := match behind with
    | '-' :: rest => (true, rest)
    | rest => (false, rest)
  match leadingDigits unsigned with
  | ([], _) => .ok 0
  | (whole, rest) =>
      let fraction := match rest with
        | '.' :: digits => (leadingDigits digits).1
        | _ => []
      if blank.any fun c => 0x1C ≤ c.toNat && c.toNat ≤ 0x1F then
        let length := blank.length + (if negative then 1 else 0) + whole.length +
          (if fraction.isEmpty then 0 else fraction.length + 1)
        .error (.decimal (String.ofList (line.toList.take length)))
      else
        let number := decimalNumber whole fraction
        .ok (if negative then -number else number)

/-- Whether a line with its number comes before another or is the same. -/
def numberedNotAfter (left right : Float × String) : Bool :=
  left.1 < right.1 || (left.1 == right.1 && Text.notAfter left.2 right.2)

/-- Sorted lines, or the same in reverse order. -/
def sortedLines (reversed : Bool) (lines : List String) : List String :=
  lines.mergeSort fun left right =>
    if reversed then Text.notAfter right left else Text.notAfter left right

/-- Lines sorted by the numbers in front of them. -/
def numericallySorted (reversed : Bool) (lines : List String) : Except Fault (List String) := do
  let keyed ← lines.mapM fun line => do return (← numericKey line, line)
  return (keyed.mergeSort fun left right =>
    if reversed then numberedNotAfter right left else numberedNotAfter left right).map Prod.snd

/-- Lines without those that occurred before. -/
def withoutRepeats (lines : List String) : List String :=
  lines.eraseDups

/-- Prints the lines of its inputs in order. -/
def sort : Command := ofAction "sort" fun context arguments => do
  let (flags, operands) := splitFlags ['r', 'n', 'u'] arguments
  let (sources, errors) ← readSources "sort" context operands
  let lines := sources.flatMap fun source => Text.lines source.content
  let ordered ←
    if flags.contains 'n' then
      MonadExcept.ofExcept (numericallySorted (flags.contains 'r') lines)
    else pure (sortedLines (flags.contains 'r') lines)
  let shown := if flags.contains 'u' then withoutRepeats ordered else ordered
  return filtered (Text.joinLines shown) errors

/-- Runs of equal neighbours with their lengths, after one more line in front. -/
def pushRun (line : String) : List (String × Nat) → List (String × Nat)
  | (first, count) :: others =>
      if line = first then (first, count + 1) :: others else (line, 1) :: (first, count) :: others
  | [] => [(line, 1)]

/-- The runs of equal neighbours, with their lengths. -/
def runsOf (lines : List String) : List (String × Nat) :=
  lines.foldr pushRun []

/-- Prints each run of equal lines once; `-c` puts its length in front. -/
def uniq : Command := ofAction "uniq" fun context arguments => do
  let (flags, operands) := splitFlags ['c'] arguments
  let (sources, errors) ← readSources "uniq" context (operands.take 1)
  let runs := runsOf (sources.flatMap fun source => Text.lines source.content)
  let shown := runs.map fun (line, count) =>
    if flags.contains 'c' then Text.padLeft 7 (toString count) ++ " " ++ line else line
  return filtered (Text.joinLines shown) errors

/-- The numbers of line feeds, words and bytes of a text. -/
structure Counts where
  lines : Nat
  words : Nat
  bytes : Nat
deriving DecidableEq, Repr

/-- The counts of a text. -/
def Counts.ofText (text : String) : Counts :=
  ⟨text.toList.count '\n', (Text.fieldsOf text.toList).length, text.utf8ByteSize⟩

/-- The counts of two texts together. -/
def Counts.add (left right : Counts) : Counts :=
  ⟨left.lines + right.lines, left.words + right.words, left.bytes + right.bytes⟩

/-- The counts that some flags choose, in a fixed order; all of them without a flag. -/
def Counts.chosen (flags : List Char) (counts : Counts) : List Nat :=
  let all := [('l', counts.lines), ('w', counts.words), ('c', counts.bytes)]
  if flags.isEmpty then all.map Prod.snd
  else (all.filter fun (letter, _) => flags.contains letter).map Prod.snd

/-- A row of counts with its label. -/
def countRow (values : List Nat) (label : String) : String :=
  let columns := match values with
    | [value] => toString value
    | values => Text.joinWith " " (values.map fun value => Text.padLeft 7 (toString value))
  if label.isEmpty then columns
  else String.ofList (Text.trimEnd (columns ++ " " ++ label).toList)

/-- Counts lines, words and bytes. -/
def wc : Command := ofAction "wc" fun context arguments => do
  let (flags, operands) := splitFlags ['l', 'w', 'c'] arguments
  let (sources, errors) ← readSources "wc" context operands
  let rows := sources.map fun source =>
    (Counts.ofText source.content, if operands.isEmpty then "" else source.label)
  let total := (rows.map Prod.fst).foldl Counts.add ⟨0, 0, 0⟩
  let all := if 1 < sources.length then rows ++ [(total, "total")] else rows
  let shown := all.map fun (counts, label) => countRow (counts.chosen flags) label
  return filtered (Text.joinLines shown) errors

/-- The code points of a set of `tr`: a range stands for all code points from its first
to its last, and a backslash makes the next character stand for itself or a control. -/
def translationSet : List Char → List Nat
  | '\\' :: c :: rest =>
      let code := match c with
        | 'n' => 10
        | 't' => 9
        | 'r' => 13
        | c => c.toNat
      code :: translationSet rest
  | c :: '-' :: last :: rest =>
      (List.range (last.toNat + 1 - c.toNat)).map (c.toNat + ·) ++ translationSet rest
  | c :: rest => c.toNat :: translationSet rest
  | [] => []

/-- The target of each code point of a translation: a target that is too short is filled
with its last code point. -/
def translationPairs (source target : List Nat) : List (Nat × Nat) :=
  let last := target.getLast?.getD 0
  source.zip (target ++ List.replicate (source.length - target.length) last)

/-- The character of a code point; where there is none, as for the halves of a pair, the
replacement character. -/
def characterOf (code : Nat) : Char :=
  if code.isValidChar then Char.ofNat code else '\uFFFD'

/-- A text with its characters translated; of two targets for one character the last
counts. -/
def translate (pairs : List (Nat × Nat)) (text : String) : String :=
  let latestFirst := pairs.reverse
  String.ofList (text.toList.map fun c =>
    match latestFirst.find? fun pair => pair.1 == c.toNat with
    | some (_, target) => characterOf target
    | none => c)

/-- Translates the characters of its input, or deletes them. -/
def tr : Command := ofAction "tr" fun context arguments => do
  let (flags, sets) := splitFlags ['d'] arguments
  match sets with
  | [] => return .failure "tr: missing operand\n" 1
  | first :: others =>
      let source := translationSet first.toList
      if flags.contains 'd' then
        return .printed
          (String.ofList (context.stdin.toList.filter fun c => !source.contains c.toNat))
      match others with
      | [] => return .failure "tr: missing operand after SET1\n" 1
      | second :: _ =>
          let target := translationSet second.toList
          if target.isEmpty then
            return .failure "tr: when not truncating set1, string2 must be non-empty\n" 1
          return .printed (translate (translationPairs source target) context.stdin)

end VirtualShell.Command
