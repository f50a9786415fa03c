import VirtualShell.SyntaxError
import VirtualShell.Token

/-!
Contract: the smallest part of a line that is read as a whole.

Owns:
- `Lexeme`, what can stand at the front of a line.
- `Lexeme.read`, which lexeme stands there and how many characters it takes. The
  answer depends on the characters and on whether a word is in progress, and on
  nothing else: only then `#` starts a comment and a digit can start an operator.

The rules:
- A single quote keeps everything up to the next single quote.
- Between double quotes a backslash escapes the double quote, the backslash, the
  dollar and the grave accent, and joins lines; it is kept before anything else.
- Elsewhere a backslash escapes the next character, joins lines, and stands for
  itself at the very end.
- `$` and an opening brace take everything up to the closing brace, if there is one.
- Of two operators that fit, the longer one is read.
-/

namespace VirtualShell

/-- What stands at the front of a line. -/
inductive Lexeme where
  | blank
  | joint
  | comment
  | plain (text : List Char)
  | quoted (segments : List Segment)
  | operator (operator : Operator)
deriving DecidableEq, Repr

namespace Lexeme

/-- The spellings that are operators anywhere; a longer one stands before its start. -/
def operatorSpellings : List (List Char × Operator) :=
  [(['>', '&', '2'], .outToError), (['>', '>'], .appendOut), (['|', '|'], .orElse),
    (['&', '&'], .andThen), (['>'], .writeOut), (['<'], .readIn), (['|'], .pipe),
    ([';'], .semicolon), (['\n'], .newline), (['('], .openParen), ([')'], .closeParen)]

/-- The spellings that are operators only where no word is in progress. -/
def numberedSpellings : List (List Char × Operator) :=
  [(['2', '>', '&', '1'], .errorToOut), (['1', '>', '&', '2'], .outToError),
    (['2', '>', '>'], .appendError), (['1', '>', '>'], .appendOut), (['2', '>'], .writeError),
    (['1', '>'], .writeOut)]

/-- The operator at the front of `chars`, with its spelling. -/
def operatorAt (inWord : Bool) (chars : List Char) : Option (List Char × Operator) :=
  let spellings := if inWord then operatorSpellings else numberedSpellings ++ operatorSpellings
  spellings.find? fun entry => entry.1.isPrefixOf chars

/-- The characters that a backslash escapes between double quotes. -/
def isDoubleEscape (c : Char) : Bool :=
  c == '"' || c == '\\' || c == '$' || c == '`'

/-- The segments up to the closing double quote and the number of characters read,
the quote included; `buffer` holds, latest first, what the open segment has so far. -/
def doubleQuoted (buffer : List Char) : List Char → Option (List Segment × Nat)
  | [] => none
  | '"' :: _ => some ([⟨String.ofList buffer.reverse, .double⟩], 1)
  | '\\' :: '\n' :: rest =>
      (doubleQuoted buffer rest).map fun (segments, width) => (segments, width + 2)
  | '\\' :: c :: rest =>
      if isDoubleEscape c then
        (doubleQuoted [] rest).map fun (segments, width) =>
          (⟨String.ofList buffer.reverse, .double⟩ :: ⟨String.singleton c, .single⟩ :: segments,
            width + 2)
      else
        (doubleQuoted ('\\' :: buffer) (c :: rest)).map fun (segments, width) =>
          (segments, width + 1)
  | c :: rest =>
      (doubleQuoted (c :: buffer) rest).map fun (segments, width) => (segments, width + 1)

/-- A lexeme and the number of characters that it takes. -/
structure Reading where
  lexeme : Lexeme
  width : Nat
  width_pos : 0 < width

/-- The lexeme behind a backslash. -/
def readEscape : List Char → Reading
  | [] => ⟨.quoted [⟨"\\", .single⟩], 1, by decide⟩
  | '\n' :: _ => ⟨.joint, 2, by decide⟩
  | c :: _ => ⟨.quoted [⟨String.singleton c, .single⟩], 2, by decide⟩

/-- The lexeme behind an opening single quote. -/
def readSingle (rest : List Char) : Except SyntaxError Reading :=
  let text := rest.takeWhile (· != '\'')
  if text.length < rest.length then
    .ok ⟨.quoted [⟨String.ofList text, .single⟩], text.length + 2, by omega⟩
  else .error (.unclosedQuote '\'')

/-- The lexeme behind an opening double quote. -/
def readDouble (rest : List Char) : Except SyntaxError Reading :=
  match doubleQuoted [] rest with
  | some (segments, width) => .ok ⟨.quoted segments, width + 1, by omega⟩
  | none => .error (.unclosedQuote '"')

/-- The braced reference behind a dollar, up to its closing brace. -/
def bracedReference? : List Char → Option (List Char)
  | '{' :: rest =>
      let name := rest.takeWhile (· != '}')
      if name.length < rest.length then some ('$' :: '{' :: name ++ ['}']) else none
  | _ => none

/-- An operator, or else a single character that stands for itself. -/
def readPlain (inWord : Bool) (c : Char) (rest : List Char) : Reading :=
  match operatorAt inWord (c :: rest) with
  | some (spelling, kind) =>
      if positive : 0 < spelling.length then ⟨.operator kind, spelling.length, positive⟩
      else ⟨.plain [c], 1, by decide⟩
  | none => ⟨.plain [c], 1, by decide⟩

/-- The lexeme at the front of the text `c :: rest`. -/
def read (inWord : Bool) (c : Char) (rest : List Char) : Except SyntaxError Reading :=
  if c = ' ' ∨ c = '\t' then .ok ⟨.blank, 1, by decide⟩
  else if c = '\\' then .ok (readEscape rest)
  else if c = '\'' then readSingle rest
  else if c = '"' then readDouble rest
  else if c = '#' ∧ inWord = false then
    .ok ⟨.comment, (rest.takeWhile (· != '\n')).length + 1, by omega⟩
  else if c = '$' then
    match bracedReference? rest with
    | some text => .ok (if positive : 0 < text.length then ⟨.plain text, text.length, positive⟩
        else ⟨.plain ['$'], 1, by decide⟩)
    | none => .ok ⟨.plain ['$'], 1, by decide⟩
  else .ok (readPlain inWord c rest)

end Lexeme

end VirtualShell
