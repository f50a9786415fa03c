import VirtualShell.Text.Digit
import VirtualShell.Text.Integer

/-!
Contract: data as a text that a client can send.

Owns:
- `Json`, the data, and `Json.read`, the data that a text stands for.
- `Json.field?`, a field of an object. The last field of a name counts.

A number keeps its spelling. An integer with too many digits is refused. A text may not
hold control characters, and an escape for one half of a pair of code units without the
other half stands for the replacement character.
-/

namespace VirtualShell

/-- Data: nothing, a truth value, a number as it was spelled, a text, a list, or an object
with its fields in order. -/
inductive Json where
  | null
  | truth (value : Bool)
  | number (spelling : String)
  | text (value : String)
  | list (items : List Json)
  | object (fields : List (String × Json))
deriving Repr

namespace Json

/-- A field of an object. -/
def field? (name : String) : Json → Option Json
  | .object fields => (fields.reverse.find? fun field => field.1 == name).map Prod.snd
  | _ => none

/-- The text that a datum is. -/
def text? : Json → Option String
  | .text value => some value
  | _ => none

/-- Whether a character may stand between the parts of a datum. -/
def isSpace (c : Char) : Bool :=
  c == ' ' || c == '\t' || c == '\n' || c == '\r'

/-- What stands behind the space at the front. -/
def skip (chars : List Char) : List Char :=
  chars.dropWhile isSpace

/-- The code unit that four digits spell, and what stands behind them. -/
def codeUnit? : List Char → Option (Nat × List Char)
  | a :: b :: c :: d :: rest => do
      return (((← Text.hexValue? a) * 16 + (← Text.hexValue? b)) * 256 + (← Text.hexValue? c) * 16 +
        (← Text.hexValue? d), rest)
  | _ => none

/-- Whether a code unit opens a pair. -/
def isHighHalf (unit : Nat) : Bool := 0xD800 ≤ unit && unit ≤ 0xDBFF

/-- Whether a code unit ends a pair. -/
def isLowHalf (unit : Nat) : Bool := 0xDC00 ≤ unit && unit ≤ 0xDFFF

/-- The character that a code unit and its second half stand for. -/
def ofPair (high low : Nat) : Char :=
  Char.ofNat (0x10000 + (high - 0xD800) * 0x400 + (low - 0xDC00))

/-- The character that a code unit stands for on its own. -/
def ofUnit (unit : Nat) : Char :=
  if isHighHalf unit || isLowHalf unit then '\uFFFD' else Char.ofNat unit

/-- The character that an escape of one letter stands for. -/
def simpleEscape? : Char → Option Char
  | '"' => some '"'
  | '\\' => some '\\'
  | '/' => some '/'
  | 'b' => some '\x08'
  | 'f' => some '\x0c'
  | 'n' => some '\n'
  | 'r' => some '\r'
  | 't' => some '\t'
  | _ => none

/-- The second half of a pair at the front of a text, and what stands behind it. -/
def lowHalf? : List Char → Option (Nat × List Char)
  | '\\' :: 'u' :: rest => do
      let (unit, rest) ← codeUnit? rest
      if isLowHalf unit then some (unit, rest) else none
  | _ => none

/-- The character that an escape stands for, behind its backslash. -/
def escape? : List Char → Option (Char × List Char)
  | 'u' :: rest => do
      let (unit, rest) ← codeUnit? rest
      if isHighHalf unit then
        match lowHalf? rest with
        | some (low, rest) => return (ofPair unit low, rest)
        | none => return (ofUnit unit, rest)
      else return (ofUnit unit, rest)
  | letter :: rest => (simpleEscape? letter).map fun c => (c, rest)
  | [] => none

/-- A text up to its closing quote, and what stands behind the quote. -/
def readText : Nat → List Char → List Char → Option (String × List Char)
  | 0, _, _ => none
  | _, _, [] => none
  | fuel + 1, seen, c :: rest =>
      if c == '"' then some (String.ofList seen.reverse, rest)
      else if c == '\\' then do
        let (escaped, rest) ← escape? rest
        readText fuel (escaped :: seen) rest
      else if c.toNat < 0x20 then none
      else readText fuel (c :: seen) rest

/-- A number of digits at the front of a text, and what stands behind them. -/
def digits (chars : List Char) : List Char × List Char :=
  chars.span fun c => '0' ≤ c && c ≤ '9'

/-- The part of a number before its point. -/
def wholePart? (chars : List Char) : Option (List Char × List Char) :=
  match digits chars with
  | ([], _) => none
  | ('0' :: more, rest) => some (['0'], more ++ rest)
  | (found, rest) => some (found, rest)

/-- The part of a number that starts with its point; empty if there is none. -/
def fractionPart : List Char → List Char × List Char
  | '.' :: rest =>
      match digits rest with
      | ([], _) => ([], '.' :: rest)
      | (found, behind) => ('.' :: found, behind)
  | rest => ([], rest)

/-- The sign of an exponent. -/
def exponentSign : List Char → List Char × List Char
  | '-' :: rest => (['-'], rest)
  | '+' :: rest => (['+'], rest)
  | rest => ([], rest)

/-- The part of a number that starts with the letter of its exponent; empty if there is
none. -/
def exponentPart : List Char → List Char × List Char
  | [] => ([], [])
  | c :: rest =>
      if c == 'e' || c == 'E' then
        let (sign, unsigned) := exponentSign rest
        match digits unsigned with
        | ([], _) => ([], c :: rest)
        | (found, behind) => (c :: sign ++ found, behind)
      else ([], c :: rest)

/-- A number without its sign. -/
def readMagnitude (sign : List Char) (chars : List Char) : Option (Json × List Char) := do
  let (whole, rest) ← wholePart? chars
  let (fraction, rest) := fractionPart rest
  let (exponent, rest) := exponentPart rest
  if fraction.isEmpty && exponent.isEmpty && Text.maximumDigits < whole.length then none
  else some (.number (String.ofList (sign ++ whole ++ fraction ++ exponent)), rest)

/-- A number, or one of the names for what is no number. -/
def readNumber (chars : List Char) : Option (Json × List Char) :=
  let named := ["NaN", "Infinity", "-Infinity"].find? fun name => name.toList.isPrefixOf chars
  match named, chars with
  | some name, _ => some (.number name, chars.drop name.length)
  | none, '-' :: rest => readMagnitude ['-'] rest
  | none, _ => readMagnitude [] chars

/-- One of the words for a datum. -/
def readWord? (chars : List Char) : Option (Json × List Char) :=
  let words : List (String × Json) :=
    [("null", .null), ("true", .truth true), ("false", .truth false)]
  (words.find? fun word => word.1.toList.isPrefixOf chars).map fun word =>
    (word.2, chars.drop word.1.length)

mutual

/-- The datum at the front of a text, and what stands behind it. -/
def readDatum : Nat → List Char → Option (Json × List Char)
  | 0, _ => none
  | _ + 1, '"' :: rest => (readText (rest.length + 1) [] rest).map fun (value, rest) =>
      (.text value, rest)
  | fuel + 1, '[' :: rest =>
      match skip rest with
      | ']' :: rest => some (.list [], rest)
      | rest => readItems fuel [] rest
  | fuel + 1, '\x7b' :: rest =>
      match skip rest with
      | '\x7d' :: rest => some (.object [], rest)
      | rest => readFields fuel [] rest
  | _ + 1, chars => (readWord? chars).or (readNumber chars)

/-- The items of a list up to its end; `seen` holds those before, latest first. -/
def readItems : Nat → List Json → List Char → Option (Json × List Char)
  | 0, _, _ => none
  | fuel + 1, seen, chars => do
      let (item, rest) ← readDatum fuel chars
      match skip rest with
      | ',' :: rest => readItems fuel (item :: seen) (skip rest)
      | ']' :: rest => some (.list (item :: seen).reverse, rest)
      | _ => none

/-- The fields of an object up to its end; `seen` holds those before, latest first. -/
def readFields : Nat → List (String × Json) → List Char → Option (Json × List Char)
  | 0, _, _ => none
  | fuel + 1, seen, '"' :: rest => do
      let (name, rest) ← readText (rest.length + 1) [] rest
      match skip rest with
      | ':' :: rest =>
          let (value, rest) ← readDatum fuel (skip rest)
          match skip rest with
          | ',' :: rest => readFields fuel ((name, value) :: seen) (skip rest)
          | '\x7d' :: rest => some (.object ((name, value) :: seen).reverse, rest)
          | _ => none
      | _ => none
  | _ + 1, _, _ => none

end

/-- The characters of a text without the mark of the byte order that may stand in front. -/
def withoutMark : List Char → List Char
  | '\uFEFF' :: rest => rest
  | chars => chars

/-- The datum that a text stands for. -/
def read (source : String) : Option Json :=
  let chars := withoutMark source.toList
  match readDatum (2 * chars.length + 2) (skip chars) with
  | some (found, rest) => if (skip rest).isEmpty then some found else none
  | none => none

end Json

end VirtualShell
