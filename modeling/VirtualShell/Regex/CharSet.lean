import VirtualShell.Text.Blank
import VirtualShell.Text.Case
import VirtualShell.Text.Digit
import VirtualShell.Text.Letter

/-!
Contract: sets of characters, as a pattern describes them.

Owns:
- `CaseRule`, whether letters that differ in case only are told apart.
- `SetItem` and `CharSet`, and `CharSet.contains`, which characters a set holds.

The rules for a set that ignores case: if the set describes a character that has two
cases, or one beyond the basic plane, then the lower-case form of a character is
looked up among the lower-case forms of what the set describes; otherwise the
character itself is looked up. Categories are asked about the same form. Of several
items, one beyond the basic plane is compared as it is written.
-/

namespace VirtualShell.Regex

/-- Whether letters that differ in case only are told apart, and among which letters. -/
inductive CaseRule where
  | exact
  | ascii
  | unicode
deriving DecidableEq, Repr

/-- The categories that have an escape of their own. -/
inductive Category where
  | digit
  | space
  | word
deriving DecidableEq, Repr

/-- A part of a character set; code points that are no characters match nothing. -/
inductive SetItem where
  | code (value : Nat)
  | range (first last : Nat)
  | category (category : Category) (asciiOnly negated : Bool)
deriving DecidableEq, Repr

/-- A set of characters. -/
structure CharSet where
  negated : Bool
  items : List SetItem
  caseRule : CaseRule
deriving DecidableEq, Repr

/-- Whether a character is in a category. -/
def Category.contains (category : Category) (asciiOnly : Bool) (c : Char) : Bool :=
  if asciiOnly then
    c.toNat < 0x80 &&
      match category with
      | .digit => c.isDigit
      | .space => c == ' ' || (0x09 ≤ c.toNat && c.toNat ≤ 0x0D)
      | .word => c.isAlphanum || c == '_'
  else
    match category with
    | .digit => Text.isDecimal c
    | .space => Text.isBlank c
    | .word => Text.isWordChar c

namespace CaseRule

/-- The lower-case form of a code point. -/
def lower (rule : CaseRule) (code : Nat) : Nat :=
  match rule with
  | .exact => code
  | .ascii => if code < 0x80 then Text.lowerCode code else code
  | .unicode => Text.lowerCode code

/-- Whether a code point has two cases. -/
def isCased (rule : CaseRule) (code : Nat) : Bool :=
  match rule with
  | .exact => false
  | .ascii => code < 0x80 && Text.isCasedCode code
  | .unicode => Text.isCasedCode code

/-- Whether some code point of a range has two cases. -/
def isCasedRange (rule : CaseRule) (first last : Nat) : Bool :=
  let meets : Nat × Nat × Nat × Nat → Bool := fun (start, stop, step, _) =>
    let next := if start < first then start + (first - start + step - 1) / step * step else start
    next ≤ stop && next ≤ last
  match rule with
  | .exact => false
  | .ascii => (first ≤ 0x5A && 0x41 ≤ last) || (first ≤ 0x7A && 0x61 ≤ last)
  | .unicode => Text.lowerCaseRows.any meets || Text.upperCaseRows.any meets

/-- The code points that compare equal to the lower-case code point `code`. -/
def sources (rule : CaseRule) (code : Nat) : List Nat :=
  match rule with
  | .exact => [code]
  | .ascii => if 0x61 ≤ code && code ≤ 0x7A then [code, code - 0x20] else [code]
  | .unicode =>
      Text.lowerCaseSources code ++ (Text.caseTwins code).flatMap Text.lowerCaseSources

end CaseRule

/-- Whether an item describes a character with two cases or one beyond the basic plane. -/
def SetItem.needsFolding (rule : CaseRule) : SetItem → Bool
  | .code value => 0xFFFF < value || rule.isCased value
  | .range first last => 0xFFFF < last || rule.isCasedRange first last
  | .category _ _ _ => false

/-- Whether an item describes a character as it is. -/
def SetItem.contains (c : Char) : SetItem → Bool
  | .code value => c.toNat == value
  | .range first last => first ≤ c.toNat && c.toNat ≤ last
  | .category kind asciiOnly inverted => kind.contains asciiOnly c != inverted

/-- Whether an item describes a character that is given by its lower-case form. -/
def SetItem.containsFolded (rule : CaseRule) (c : Char) : SetItem → Bool
  | .code value =>
      if 0xFFFF < value then c.toNat == value else (rule.sources c.toNat).contains value
  | .range first last =>
      (rule.sources c.toNat).any (fun source =>
        source ≤ 0xFFFF && first ≤ source && source ≤ last) ||
      (0xFFFF < last &&
        ((first ≤ c.toNat && c.toNat ≤ last) ||
          (first ≤ Text.upperCode c.toNat && Text.upperCode c.toNat ≤ last)))
  | .category kind asciiOnly inverted => kind.contains asciiOnly c != inverted

/-- Whether some of the items describe a character. -/
def containsItem (rule : CaseRule) (items : List SetItem) (c : Char) : Bool :=
  match rule, items with
  | .exact, items => items.any (SetItem.contains c)
  | rule, [.code value] =>
      if rule.isCased value then
        (rule.sources (rule.lower c.toNat)).any fun source => rule.lower source == rule.lower value
      else c.toNat == value
  | rule, items =>
      if items.any (SetItem.needsFolding rule) then
        items.any (SetItem.containsFolded rule (Char.ofNat (rule.lower c.toNat)))
      else items.any (SetItem.contains c)

/-- Whether a set holds a character. -/
def CharSet.contains (set : CharSet) (c : Char) : Bool :=
  containsItem set.caseRule set.items c != set.negated

end VirtualShell.Regex
