/-!
Contract: how a text falls into lines.

Owns:
- `isLineBreak`, the characters that end a line; a carriage return and the line
  feed right after it end one line together.
- `linesWithEnds`, the lines with what ends them, so that they join to the text.
- `lines`, the same lines without their ends.
- `joinLines`, lines written one under the other, each with a line feed.

An ending at the very end of a text opens no further line, so the empty text has no
line and `"a\n"` has one.
-/

namespace VirtualShell.Text

/-- The characters that end a line. -/
def isLineBreak (c : Char) : Bool :=
  let code := c.val
  (0x0A ≤ code && code ≤ 0x0D) || (0x1C ≤ code && code ≤ 0x1E) ||
    code == 0x85 || code == 0x2028 || code == 0x2029

/-- The lines of a text with one more character in front. -/
def pushToLines (c : Char) : List (List Char) → List (List Char)
  | [] => [[c]]
  | line :: others =>
      if isLineBreak c then
        if c == '\r' && line.head? == some '\n' then (c :: line) :: others
        else [c] :: line :: others
      else (c :: line) :: others

/-- The lines of a text, each with the characters that end it. -/
def linesWithEnds (chars : List Char) : List (List Char) :=
  chars.foldr pushToLines []

/-- A line without the characters that end it. -/
def lineBody (line : List Char) : List Char :=
  line.takeWhile (fun c => !isLineBreak c)

/-- The lines of a text without their ends. -/
def lines (text : String) : List String :=
  (linesWithEnds text.toList).map fun line => String.ofList (lineBody line)

/-- Lines written one under the other, each followed by a line feed. -/
def joinLines (texts : List String) : String :=
  String.join (texts.map (· ++ "\n"))

theorem flatten_pushToLines (c : Char) (rest : List (List Char)) :
    (pushToLines c rest).flatten = c :: rest.flatten := by
  cases rest with
  | nil => rfl
  | cons line others =>
      simp only [pushToLines]
      split
      · split <;> simp
      · simp

/-- No character is lost: the lines of a text join to the text. -/
theorem flatten_linesWithEnds (chars : List Char) :
    (linesWithEnds chars).flatten = chars := by
  induction chars with
  | nil => rfl
  | cons c rest inductionHypothesis =>
      show (pushToLines c (linesWithEnds rest)).flatten = c :: rest
      rw [flatten_pushToLines, inductionHypothesis]

end VirtualShell.Text
