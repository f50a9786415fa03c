/-!
Contract: which characters separate fields, and the two operations built on them.

Owns:
- `isBlank`, the white space of a text: the ASCII controls from tab to carriage
  return, the four ASCII separators, and the Unicode spaces and line separators.
- `trim`, a text without the white space at its two ends.
- `fields`, the maximal runs of a text without white space.

Does not own: the blanks between the tokens of a line, which are the space and the
tab only (`VirtualShell.Token`).
-/

namespace VirtualShell.Text

/-- White space in the sense of trimming and field splitting. -/
def isBlank (c : Char) : Bool :=
  let code := c.val
  (0x09 ≤ code && code ≤ 0x0D) || (0x1C ≤ code && code ≤ 0x20) ||
    code == 0x85 || code == 0xA0 || code == 0x1680 ||
    (0x2000 ≤ code && code ≤ 0x200A) || code == 0x2028 || code == 0x2029 ||
    code == 0x202F || code == 0x205F || code == 0x3000

/-- The characters from the first that is not white space. -/
def trimStart (chars : List Char) : List Char :=
  chars.dropWhile isBlank

/-- The characters up to the last that is not white space. -/
def trimEnd (chars : List Char) : List Char :=
  (chars.reverse.dropWhile isBlank).reverse

/-- The characters between the first and the last that is not white space. -/
def trimChars (chars : List Char) : List Char :=
  trimEnd (trimStart chars)

/-- A text without the white space at its two ends. -/
def trim (text : String) : String :=
  String.ofList (trimChars text.toList)

/-- Whether a text holds white space only. -/
def isBlankText (text : String) : Bool :=
  text.toList.all isBlank

/-- What a field splitter knows about a text it has read from the right: the field
that touches its start, and the fields after that. -/
structure Fields where
  opening : List Char
  others : List (List Char)

/-- All fields, the opening one included if it is not empty. -/
def Fields.all (fields : Fields) : List (List Char) :=
  if fields.opening.isEmpty then fields.others else fields.opening :: fields.others

/-- The fields of a text with one more character in front. -/
def Fields.push (c : Char) (fields : Fields) : Fields :=
  if isBlank c then ⟨[], fields.all⟩ else ⟨c :: fields.opening, fields.others⟩

/-- The maximal runs without white space, in order. -/
def fieldsOf (chars : List Char) : List (List Char) :=
  (chars.foldr Fields.push ⟨[], []⟩).all

/-- The maximal runs of a text without white space, in order. -/
def fields (text : String) : List String :=
  (fieldsOf text.toList).map String.ofList

end VirtualShell.Text
