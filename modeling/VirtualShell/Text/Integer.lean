import VirtualShell.Text.Blank
import VirtualShell.Text.Digit
import VirtualShell.Text.Quoted

/-!
Contract: which texts are decimal integers, and which integer each is.

Owns:
- `readInteger`, the value of a text made of optional white space, an optional sign,
  decimal digits of any script in which two digits may have one underscore between
  them, and optional white space.
- `IntegerDefect`, why a text has no value. A text may be well formed and still be
  refused because it has more than `maximumDigits` digits; the count is then judged
  before anything that stands behind the digits.
-/

namespace VirtualShell.Text

/-- The greatest number of digits that is read. -/
def maximumDigits : Nat := 4300

/-- Why a text is not read as an integer. -/
inductive IntegerDefect where
  | malformed (text : String)
  | tooManyDigits (count : Nat)
deriving DecidableEq, Repr

/-- The wording of a defect; a long text is cut after 200 characters of its quoted form. -/
def IntegerDefect.message : IntegerDefect → String
  | .malformed text =>
      "invalid literal for int() with base 10: " ++
        String.ofList ((quoted text).toList.take 200)
  | .tooManyDigits count =>
      "Exceeds the limit (" ++ toString maximumDigits ++
        " digits) for integer string conversion: value has " ++ toString count ++
        " digits; use sys.set_int_max_str_digits() to increase the limit"

/-- White space at the ends of an integer: the ASCII spaces and controls, and the
white space beyond ASCII; the ASCII separators do not count. -/
def isIntegerBlank (c : Char) : Bool :=
  c == ' ' || (0x09 ≤ c.toNat && c.toNat ≤ 0x0D) || (0x7F < c.toNat && isBlank c)

/-- The digits at the front of a text, least significant first, and the text behind
them; `none` if underscores stand anywhere but singly between two digits. -/
def integerDigits (seen : List Nat) (afterUnderscore : Bool) :
    List Char → Option (List Nat × List Char)
  | [] => if afterUnderscore then none else some (seen, [])
  | c :: rest =>
      match decimalValue? c with
      | some digit => integerDigits (digit :: seen) false rest
      | none =>
          if c == '_' then
            if afterUnderscore || seen.isEmpty then none else integerDigits seen true rest
          else if afterUnderscore then none
          else some (seen, c :: rest)

/-- The number with the given digits, most significant first. -/
def ofDigits (digits : List Nat) : Nat :=
  digits.foldl (fun value digit => value * 10 + digit) 0

/-- The sign at the front of a number, as whether it is negative, and the text behind it. -/
def integerSign : List Char → Bool × List Char
  | '-' :: rest => (true, rest)
  | '+' :: rest => (false, rest)
  | rest => (false, rest)

/-- The integer that a text stands for. -/
def readInteger (text : String) : Except IntegerDefect Int :=
  let (negative, unsigned) := integerSign (text.toList.dropWhile isIntegerBlank)
  match integerDigits [] false unsigned with
  | none => .error (.malformed text)
  | some (digits, rest) =>
      if digits.isEmpty then .error (.malformed text)
      else if maximumDigits < digits.length then .error (.tooManyDigits digits.length)
      else if rest.all isIntegerBlank then
        let magnitude : Int := ofDigits digits.reverse
        .ok (if negative then -magnitude else magnitude)
      else .error (.malformed text)

end VirtualShell.Text
