import VirtualShell.Regex.CharSet

/-!
Contract: patterns as trees.

Owns:
- `Pattern` and its leaves: character sets, anchors, repetition.
- `Pattern.width`, the least and the greatest number of characters that a pattern
  can match; both are capped.

Every node carries what the flags around it say, so a pattern means the same
wherever it is put.
-/

namespace VirtualShell.Regex

/-- Places in a text that match without a character. -/
inductive Anchor where
  | textStart
  | firstLineStart
  | lineStart
  | textEnd
  | lastLineEnd
  | lineEnd
  | wordBoundary (asciiOnly : Bool)
  | notWordBoundary (asciiOnly : Bool)
deriving DecidableEq, Repr

/-- In which order the numbers of repetitions are tried; a possessive repetition is
never tried again. -/
inductive Greed where
  | greedy
  | lazy
  | possessive
deriving DecidableEq, Repr

/-- How often something is repeated. -/
structure Repetition where
  least : Nat
  most : Option Nat
  greed : Greed
deriving DecidableEq, Repr

/-- The least and the greatest number of characters of a match. -/
structure Width where
  least : Nat
  most : Nat
deriving DecidableEq, Repr

/-- A regular expression. A group without a number is one that has flags of its own; what
other parentheses without a number hold stands where they stand. -/
inductive Pattern where
  | empty
  | one (set : CharSet)
  | span (set : CharSet) (repetition : Repetition)
  | anchor (anchor : Anchor)
  | both (first second : Pattern)
  | either (left right : Pattern)
  | repeated (body : Pattern) (repetition : Repetition)
  | group (number : Option Nat) (body : Pattern)
  | atomic (body : Pattern)
  | lookAhead (negated : Bool) (body : Pattern)
  | lookBehind (negated : Bool) (distance : Nat) (body : Pattern)
  | reference (group : Nat) (width : Width) (caseRule : CaseRule)
  | conditional (group : Nat) (set unset : Pattern)
deriving DecidableEq, Repr

/-- Where counts of characters are cut off. -/
def widthLimit : Nat := 0x10000000000000000

namespace Width

/-- A width cut off at the limit. -/
def capped (least most : Nat) : Width := ⟨min least widthLimit, min most widthLimit⟩

/-- The width of two matches in a row. -/
def add (left right : Width) : Width :=
  capped (left.least + right.least) (left.most + right.most)

/-- The width of a match of one of two. -/
def join (left right : Width) : Width :=
  ⟨min left.least right.least, max left.most right.most⟩

/-- The width of repeated matches. -/
def times (width : Width) (repetition : Repetition) : Width :=
  capped (width.least * repetition.least)
    (match repetition.most with
      | some most => width.most * most
      | none => if width.most = 0 then 0 else widthLimit)

end Width

namespace Pattern

/-- The least and the greatest number of characters that a pattern can match. -/
def width : Pattern → Width
  | empty | anchor _ | lookAhead _ _ | lookBehind _ _ _ => ⟨0, 0⟩
  | one _ => ⟨1, 1⟩
  | span _ repetition => Width.times ⟨1, 1⟩ repetition
  | both first second => first.width.add second.width
  | either left right => left.width.join right.width
  | repeated body repetition => body.width.times repetition
  | group _ body | atomic body => body.width
  | reference _ width _ => width
  | conditional _ set unset => set.width.join unset.width

/-- Whether a pattern is an anchor, which cannot be repeated. -/
def isAnchor : Pattern → Bool
  | anchor _ => true
  | _ => false

/-- Whether a pattern is a repetition, which cannot be repeated again. -/
def isRepetition : Pattern → Bool
  | span _ _ | repeated _ _ => true
  | _ => false

/-- Patterns one behind the other. -/
def inOrder (patterns : List Pattern) : Pattern :=
  patterns.foldr both empty

/-- A pattern repeated. -/
def repeatedBy (repetition : Repetition) : Pattern → Pattern
  | one set => span set repetition
  | pattern => repeated pattern repetition

end Pattern

end VirtualShell.Regex
