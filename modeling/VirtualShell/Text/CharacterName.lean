import VirtualShell.Text.CharacterName.Aliases
import VirtualShell.Text.CharacterName.Alphabets
import VirtualShell.Text.CharacterName.Ancient
import VirtualShell.Text.CharacterName.EastAsian
import VirtualShell.Text.CharacterName.Pictures
import VirtualShell.Text.CharacterName.Symbols
import VirtualShell.Text.Digit
import VirtualShell.Text.Pieces

/-!
Contract: the characters that can be asked for by name.

Owns:
- `codeOfName?`, the code point that has a name, as version 14 of the character
  database gives it; upper and lower case are one.
- `syllable?` and `ideograph?`, the names that are made by a rule, which are in upper
  case only, and `numbered?`, the names that end in the number of their code point.

Does not own: names of several characters in a row, which name no code point.
-/

namespace VirtualShell.Text

/-! ## Rows -/

/-- The code point that a row of names gives a name to. -/
def codeInRow? (name : List Char) (row : Nat × String × List String) : Option Nat :=
  let (first, heading, lines) := row
  let whole (ending : List Char) :=
    if heading.isEmpty || ending.isEmpty then heading.toList ++ ending
    else heading.toList ++ ' ' :: ending
  let endings := lines.flatMap fun line => piecesOf '|' line.toList
  (endings.zipIdx.find? fun (ending, _) => whole ending == name).map fun (_, index) =>
    first + index

/-- All rows of names. -/
def nameRows : List (Nat × String × List String) :=
  alphabetNames ++ symbolNames ++ eastAsianNames ++ ancientNames ++ pictureNames ++ selectorNames

/-! ## Names that are made by a rule -/

/-- The consonants that a syllable can start with; one of them is silent. -/
def leadingSounds : List String :=
  ["G", "GG", "N", "D", "DD", "R", "M", "B", "BB", "S", "SS", "", "J", "JJ", "C", "K", "T", "P",
    "H"]

/-- The vowels of syllables. -/
def vowelSounds : List String :=
  ["A", "AE", "YA", "YAE", "EO", "E", "YEO", "YE", "O", "WA", "WAE", "OE", "YO", "U", "WEO", "WE",
    "WI", "YU", "EU", "YI", "I"]

/-- The consonants that a syllable can end in, or none. -/
def finalSounds : List String :=
  ["", "G", "GG", "GS", "N", "NJ", "NH", "D", "L", "LG", "LM", "LB", "LS", "LT", "LP", "LH", "M",
    "B", "BS", "S", "SS", "NG", "J", "C", "K", "T", "P", "H"]

/-- The longest of some sounds that comes first, as its index, and what is behind it. -/
def takeSound (sounds : List String) (chars : List Char) : Option (Nat × List Char) :=
  let fitting := sounds.zipIdx.filter fun (sound, _) => sound.toList.isPrefixOf chars
  let longest := fitting.foldl
    (fun best (sound, index) =>
      if best.any fun (known, _) => sound.length ≤ known.length then best
      else some (sound, index))
    (none : Option (String × Nat))
  longest.map fun (sound, index) => (index, chars.drop sound.length)

/-- The code point of the Hangul syllable of some sounds. -/
def syllable? (sounds : List Char) : Option Nat := do
  let (leading, rest) ← takeSound leadingSounds sounds
  let (vowel, rest) ← takeSound vowelSounds rest
  let (ending, rest) ← takeSound finalSounds rest
  if rest.isEmpty then
    some (0xAC00 + (leading * vowelSounds.length + vowel) * finalSounds.length + ending)
  else none

/-- Whether a character is a digit to the base sixteen in upper case. -/
def isUpperHex (c : Char) : Bool :=
  c.isDigit || ('A' ≤ c && c ≤ 'F')

/-- The unified ideographs, as ranges of code points. -/
def ideographRanges : List (Nat × Nat) :=
  [(0x3400, 0x4DBF), (0x4E00, 0x9FFF), (0x20000, 0x2A6DF), (0x2A700, 0x2B738),
    (0x2B740, 0x2B81D), (0x2B820, 0x2CEA1), (0x2CEB0, 0x2EBE0), (0x30000, 0x3134A)]

/-- The code point of the unified ideograph with a number of four or five digits. -/
def ideograph? (digits : List Char) : Option Nat :=
  let code := numberIn 16 digits
  if (digits.length = 4 ∨ digits.length = 5) ∧ digits.all isUpperHex ∧
      inRanges ideographRanges code then some code
  else none

/-- What the names that end in the number of their code point start with, and which code
points they name. -/
def numberedRows : List (String × List (Nat × Nat)) :=
  [("CJK COMPATIBILITY IDEOGRAPH-", [(0xF900, 0xFA6D), (0xFA70, 0xFAD9), (0x2F800, 0x2FA1D)]),
    ("KHITAN SMALL SCRIPT CHARACTER-", [(0x18B00, 0x18CD5)]),
    ("NUSHU CHARACTER-", [(0x1B170, 0x1B2FB)])]

/-- The code point of a name that ends in its number. -/
def numbered? (name : List Char) : Option Nat :=
  numberedRows.findSome? fun (heading, ranges) =>
    let digits := name.drop heading.length
    let code := numberIn 16 digits
    if heading.toList.isPrefixOf name && digits.all isUpperHex &&
        digits.length == (if code < 0x10000 then 4 else 5) && inRanges ranges code then some code
    else none

/-! ## Names -/

/-- The code point that has a name. -/
def codeOfName? (name : String) : Option Nat :=
  if startsWith name "HANGUL SYLLABLE " then syllable? (name.toList.drop 16)
  else if startsWith name "CJK UNIFIED IDEOGRAPH-" then ideograph? (name.toList.drop 22)
  else
    let upper := name.toList.map Char.toUpper
    let byAlias := aliases.find? fun (_, names) => (piecesOf '|' names.toList).contains upper
    (nameRows.findSome? (codeInRow? upper)).or ((byAlias.map Prod.fst).or (numbered? upper))

end VirtualShell.Text
