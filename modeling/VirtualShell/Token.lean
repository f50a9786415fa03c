/-!
Contract: the tokens of a line.

Owns:
- `Segment`, a stretch of a word that is quoted in one way, and `Word`, adjacent
  segments with the span of the line that they come from.
- `Operator`, the control and redirection operators, with their spelling.
- `Token`, a word or an operator.

A word remembers how each of its parts was quoted because expansion depends on it:
single-quoted text stands for itself, double-quoted text has its variables
replaced, and only a word without any quoting is a file name pattern.

Does not own: finding the tokens (`VirtualShell.Token.Scan`).
-/

namespace VirtualShell

/-- How a stretch of a word is quoted. -/
inductive Quoting where
  | unquoted
  | single
  | double
deriving DecidableEq, Repr

/-- A stretch of a word that is quoted in one way. -/
structure Segment where
  text : String
  quoting : Quoting
deriving DecidableEq, Repr

/-- Whether a segment was quoted or escaped. -/
def Segment.isQuoted (segment : Segment) : Bool :=
  segment.quoting != .unquoted

/-- Adjacent segments, and the offsets of the first character of the line that
belongs to them and of the character after the last. -/
structure Word where
  segments : List Segment
  start : Nat
  stop : Nat
deriving DecidableEq, Repr

namespace Word

/-- The word without its quotes, and with nothing expanded. -/
def text (word : Word) : String :=
  String.join (word.segments.map Segment.text)

/-- Whether some part of the word was quoted or escaped. -/
def isQuoted (word : Word) : Bool :=
  word.segments.any Segment.isQuoted

/-- The quoting of the word as a whole: of its quoted parts, single if all are. -/
def quoting (word : Word) : Quoting :=
  if !word.isQuoted then .unquoted
  else if word.segments.any (fun segment => segment.quoting == .double) then .double
  else .single

/-- The text of a word that has no quoted part. -/
def bare? (word : Word) : Option String :=
  if word.isQuoted then none else some word.text

end Word

/-- The control and redirection operators. -/
inductive Operator where
  | pipe
  | orElse
  | andThen
  | semicolon
  | newline
  | openParen
  | closeParen
  | writeOut
  | appendOut
  | readIn
  | writeError
  | appendError
  | errorToOut
  | outToError
deriving DecidableEq, Repr

namespace Operator

/-- The canonical spelling of an operator. -/
def text : Operator → String
  | pipe => "|"
  | orElse => "||"
  | andThen => "&&"
  | semicolon => ";"
  | newline => "\n"
  | openParen => "("
  | closeParen => ")"
  | writeOut => ">"
  | appendOut => ">>"
  | readIn => "<"
  | writeError => "2>"
  | appendError => "2>>"
  | errorToOut => "2>&1"
  | outToError => ">&2"

/-- The operators that redirect a stream. -/
def isRedirection : Operator → Bool
  | writeOut | appendOut | readIn | writeError | appendError | errorToOut | outToError => true
  | pipe | orElse | andThen | semicolon | newline | openParen | closeParen => false

/-- The operators that only separate statements. -/
def isSeparator : Operator → Bool
  | semicolon | newline => true
  | _ => false

end Operator

/-- A token of a line. -/
inductive Token where
  | word (word : Word)
  | operator (operator : Operator) (start stop : Nat)
deriving DecidableEq, Repr

namespace Token

/-- The offset of the first character of a token. -/
def start : Token → Nat
  | .word found => found.start
  | .operator _ start _ => start

/-- The offset of the character after a token. -/
def stop : Token → Nat
  | .word found => found.stop
  | .operator _ _ stop => stop

/-- The text of a word without its quotes, or the spelling of an operator. -/
def text : Token → String
  | .word found => found.text
  | .operator kind _ _ => kind.text

/-- The operator that a token is. -/
def operator? : Token → Option Operator
  | .word _ => none
  | .operator kind _ _ => some kind

/-- The word that a token is. -/
def word? : Token → Option Word
  | .word found => some found
  | .operator _ _ _ => none

/-- Whether a token only separates statements. -/
def isSeparator (token : Token) : Bool :=
  token.operator?.any Operator.isSeparator

/-- The text of a word without quotes; `none` for a quoted word and for an operator. -/
def bare? (token : Token) : Option String :=
  token.word?.bind Word.bare?

end Token

end VirtualShell
