import VirtualShell.Regex.Pattern

/-!
Contract: what becomes of alternatives once an expression has been read.

Owns:
- `joined`, the pieces that alternatives are looked for as: what all of them start with
  comes once in front, and if each then is one set of characters they become one set.
- `Pattern.branches`, the alternatives of a pattern, each as its pieces, with what is
  inside the pieces condensed, and `Pattern.condensed`, the pattern that they make.

A set that ignores case need not hold just what the sets hold that it is made of, so
that a condensed pattern can match less, or more, than one of the alternatives does.
-/

namespace VirtualShell.Regex

/-- Whether two pieces are the same piece; what holds a pattern of its own is the same
as nothing. -/
def Pattern.isSame : Pattern → Pattern → Bool
  | one set, one other => set == other
  | anchor condition, anchor other => condition == other
  | reference number width rule, reference other otherWidth otherRule =>
      number == other && width == otherWidth && rule == otherRule
  | _, _ => false

/-- The pieces that all alternatives start with, and what is left of the alternatives. -/
def splitCommon : (first : List Pattern) → (others : List (List Pattern)) →
    List Pattern × List (List Pattern)
  | [], others => ([], [] :: others)
  | piece :: rest, others =>
      if others.all fun other => other.head?.any piece.isSame then
        let (common, behind) := splitCommon rest (others.map List.tail)
        (piece :: common, behind)
      else ([], (piece :: rest) :: others)

/-- The set that an alternative is, unless it is of all characters but some. -/
def onlySet? : List Pattern → Option CharSet
  | [.one set] => if set.negated then none else some set
  | _ => none

/-- One set of what some sets describe. -/
def CharSet.union (sets : List CharSet) : CharSet where
  negated := false
  items := (sets.flatMap CharSet.items).eraseDups
  caseRule := (sets.head?.map CharSet.caseRule).getD .exact

/-- A choice between patterns, in order. -/
def Pattern.choice : List Pattern → Pattern
  | [] => empty
  | [only] => only
  | first :: others => either first (choice others)

/-- The piece that one of some alternatives is looked for as: a set if each of them is
one, and else a choice. -/
def oneOf (alternatives : List (List Pattern)) : Pattern :=
  match alternatives.mapM onlySet? with
  | some sets => .one (CharSet.union sets)
  | none => .choice (alternatives.map Pattern.inOrder)

/-- The pieces that some alternatives are looked for as. -/
def joined : List (List Pattern) → List Pattern
  | [] => []
  | [only] => only
  | first :: others =>
      let (common, behind) := splitCommon first others
      common ++ [oneOf behind]

namespace Pattern

/-- The alternatives of a pattern, each as its pieces. -/
def branches : Pattern → List (List Pattern)
  | empty => [[]]
  | both first second => [joined first.branches ++ joined second.branches]
  | either left right => joined left.branches :: right.branches
  | repeated body repetition => [[repeated (inOrder (joined body.branches)) repetition]]
  | group number body => [[group number (inOrder (joined body.branches))]]
  | atomic body => [[atomic (inOrder (joined body.branches))]]
  | lookAhead negated body => [[lookAhead negated (inOrder (joined body.branches))]]
  | lookBehind negated distance body =>
      [[lookBehind negated distance (inOrder (joined body.branches))]]
  | conditional number set unset =>
      [[conditional number (inOrder (joined set.branches)) (inOrder (joined unset.branches))]]
  | pattern => [[pattern]]

/-- The pattern with its alternatives joined, those inside of it first. -/
def condensed (pattern : Pattern) : Pattern :=
  inOrder (joined pattern.branches)

end Pattern

end VirtualShell.Regex
