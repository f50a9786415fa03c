import VirtualShell.Token.Lexeme

/-!
Contract: the tokens of a line, in order, with their offsets in code points.

Owns:
- `Draft`, a word in progress, and `Scan`, how far a line has been read.
- `Token.scan`, all tokens of a line.

A scan reads one lexeme at a time. Plain characters and quoted segments extend the
word in progress, blanks and operators end it, and comments and joined lines leave
it as it is.
-/

namespace VirtualShell

/-- A word in progress: where it starts, its finished segments, and the unquoted
characters behind them; both latest first. -/
structure Draft where
  start : Nat
  segments : List Segment
  plain : List Char

namespace Draft

/-- The finished segments once the unquoted characters are made one of them. -/
def settled (draft : Draft) : List Segment :=
  if draft.plain.isEmpty then draft.segments
  else ⟨String.ofList draft.plain.reverse, .unquoted⟩ :: draft.segments

/-- The draft with more unquoted characters. -/
def addPlain (draft : Draft) (text : List Char) : Draft :=
  { draft with plain := text.reverse ++ draft.plain }

/-- The draft with more quoted segments. -/
def addQuoted (draft : Draft) (segments : List Segment) : Draft :=
  { draft with segments := segments.reverse ++ draft.settled, plain := [] }

/-- The word that a draft has become when it ends at `stop`. -/
def word (draft : Draft) (stop : Nat) : Word :=
  ⟨draft.settled.reverse, draft.start, stop⟩

end Draft

/-- How far a line has been read: the offset, the word in progress, and the tokens
so far, latest first. -/
structure Scan where
  position : Nat
  draft : Option Draft
  tokens : List Token

namespace Scan

/-- A line of which nothing has been read. -/
def initial : Scan := ⟨0, none, []⟩

/-- The word in progress, or a fresh one that starts here. -/
def openDraft (scan : Scan) : Draft :=
  scan.draft.getD ⟨scan.position, [], []⟩

/-- The tokens once the word in progress has ended here, latest first. -/
def closedTokens (scan : Scan) : List Token :=
  match scan.draft with
  | none => scan.tokens
  | some draft => .word (draft.word scan.position) :: scan.tokens

/-- The scan after one more lexeme. -/
def advance (scan : Scan) (reading : Lexeme.Reading) : Scan :=
  let next := scan.position + reading.width
  match reading.lexeme with
  | .blank => ⟨next, none, scan.closedTokens⟩
  | .operator operator => ⟨next, none, .operator operator scan.position next :: scan.closedTokens⟩
  | .joint | .comment => { scan with position := next }
  | .plain text => ⟨next, some (scan.openDraft.addPlain text), scan.tokens⟩
  | .quoted segments => ⟨next, some (scan.openDraft.addQuoted segments), scan.tokens⟩

/-- The tokens of what has been read and of the characters that follow. -/
def finish (scan : Scan) : List Char → Except SyntaxError (List Token)
  | [] => .ok scan.closedTokens.reverse
  | c :: rest =>
      match Lexeme.read scan.draft.isSome c rest with
      | .error error => .error error
      | .ok reading => finish (scan.advance reading) ((c :: rest).drop reading.width)
termination_by chars => chars.length
decreasing_by
  have := reading.width_pos
  simp only [List.length_drop, List.length_cons]
  omega

end Scan

/-- The tokens of a line, in order. -/
def Token.scan (line : String) : Except SyntaxError (List Token) :=
  Scan.initial.finish line.toList

end VirtualShell
