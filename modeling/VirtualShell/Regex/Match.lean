import VirtualShell.Regex.Pattern

/-!
Contract: where a pattern matches a text.

Owns:
- `Place`, a position in a text with what the groups have matched so far.
- `Pattern.run`, the backtracking search: it tries the ways to match a pattern in
  the order of preference and hands each place reached to what follows, until
  what follows succeeds.
- `Pattern.matchesAtStart` and `Pattern.occursIn`.

A repetition that may stop is not tried again at the place where its last try
started, so a body that matches nothing is repeated at most once.
-/

namespace VirtualShell.Regex

/-- A position in a text: the characters before it, nearest first, and behind it, and
the text that each group has matched. -/
structure Place where
  position : Nat
  before : List Char
  after : List Char
  captures : List (Nat × List Char)

namespace Place

/-- The place at the front of a text. -/
def start (text : List Char) : Place := ⟨0, [], text, []⟩

/-- The place one character further. -/
def next? (place : Place) : Option (Char × Place) :=
  match place.after with
  | [] => none
  | c :: rest => some (c, ⟨place.position + 1, c :: place.before, rest, place.captures⟩)

/-- The place `distance` characters back. -/
def back? : Nat → Place → Option Place
  | 0, place => some place
  | distance + 1, place =>
      match place.before with
      | [] => none
      | c :: rest => back? distance ⟨place.position - 1, rest, c :: place.after, place.captures⟩

/-- The text that a group has matched. -/
def captured? (place : Place) (group : Nat) : Option (List Char) :=
  (place.captures.find? fun entry => entry.1 == group).map Prod.snd

/-- The place once `group` has matched what lies between `from` and here. -/
def capture (place start : Place) (group : Nat) : Place :=
  { place with
    captures := (group, start.after.take (place.position - start.position)) :: place.captures }

/-- The places reached by reading up to `most` characters of a set, nearest first; this
place is among them. -/
def run (set : CharSet) (most : Option Nat) (place : Place) : List Char → List Place
  | [] => [place]
  | c :: rest =>
      if most != some 0 && set.contains c then
        place :: run set (most.map (· - 1))
          ⟨place.position + 1, c :: place.before, rest, place.captures⟩ rest
      else [place]

/-- Whether a character is part of a word. -/
def isWord (asciiOnly : Bool) (c : Option Char) : Bool :=
  c.any (Category.word.contains asciiOnly)

/-- Whether there is a word boundary here; an empty text has none, and no place that
is not a boundary either. -/
def isBoundary (place : Place) (asciiOnly : Bool) : Bool :=
  isWord asciiOnly place.before.head? != isWord asciiOnly place.after.head?

/-- Whether an anchor matches here. -/
def satisfies (place : Place) : Anchor → Bool
  | .textStart | .firstLineStart => place.before.isEmpty
  | .lineStart => place.before.isEmpty || place.before.head? == some '\n'
  | .textEnd => place.after.isEmpty
  | .lastLineEnd => place.after.isEmpty || place.after == ['\n']
  | .lineEnd => place.after.isEmpty || place.after.head? == some '\n'
  | .wordBoundary asciiOnly => place.isBoundary asciiOnly
  | .notWordBoundary asciiOnly =>
      !(place.before.isEmpty && place.after.isEmpty) && !place.isBoundary asciiOnly

/-- The place behind `text`, if `text` stands here. -/
def skip? (rule : CaseRule) : List Char → Place → Option Place
  | [], place => some place
  | expected :: others, place =>
      match place.next? with
      | none => none
      | some (c, further) =>
          if rule.lower c.toNat == rule.lower expected.toNat then skip? rule others further
          else none

end Place

/-- What can follow a match: it succeeds at a place or it does not. -/
abbrev Follow := Place → Option Place

/-- Repeats a match a fixed number of times. -/
def runTimes (body : Follow → Place → Option Place) : Nat → Follow → Place → Option Place
  | 0, follow, place => follow place
  | count + 1, follow, place => body (runTimes body count follow) place

/-- Repeats a match as often as possible, up to `most` times, and then less often;
`fuel` is more than the number of places at which a repetition can start. -/
def runGreedy (body : Follow → Place → Option Place) (follow : Follow) :
    Nat → Option Nat → Option Nat → Place → Option Place
  | 0, _, _, place => follow place
  | fuel + 1, most, last, place =>
      if most == some 0 || last == some place.position then follow place
      else
        match body (runGreedy body follow fuel (most.map (· - 1)) (some place.position)) place with
        | some reached => some reached
        | none => follow place

/-- Repeats a match as seldom as possible, and then more often, up to `most` times. -/
def runLazy (body : Follow → Place → Option Place) (follow : Follow) :
    Nat → Option Nat → Option Nat → Place → Option Place
  | 0, _, _, place => follow place
  | fuel + 1, most, last, place =>
      match follow place with
      | some reached => some reached
      | none =>
          if most == some 0 || last == some place.position then none
          else body (runLazy body follow fuel (most.map (· - 1)) (some place.position)) place

/-- Repeats a match as often as possible, up to `most` times, and keeps to that. -/
def runPossessive (body : Follow → Place → Option Place) :
    Nat → Option Nat → Option Nat → Place → Place
  | 0, _, _, place => place
  | fuel + 1, most, last, place =>
      if most == some 0 || last == some place.position then place
      else
        match body some place with
        | some reached =>
            runPossessive body fuel (most.map (· - 1)) (some place.position) reached
        | none => place

/-- Repeats a match as a repetition says. -/
def runRepeated
    (body : Follow → Place → Option Place)
    (repetition : Repetition)
    (follow : Follow)
    (place : Place) : Option Place :=
  let optional := repetition.most.map (· - repetition.least)
  match repetition.greed with
  | .greedy =>
      runTimes body repetition.least
        (fun here => runGreedy body follow (here.after.length + 2) optional none here) place
  | .lazy =>
      runTimes body repetition.least
        (fun here => runLazy body follow (here.after.length + 2) optional none here) place
  | .possessive =>
      match runTimes (fun next here => (body some here).bind next) repetition.least some place with
      | none => none
      | some here => follow (runPossessive body (here.after.length + 2) optional none here)

/-- Repeats a character set as a repetition says. -/
def runSpan (set : CharSet) (repetition : Repetition) (follow : Follow) (place : Place) :
    Option Place :=
  let places := (place.run set repetition.most place.after).drop repetition.least
  match repetition.greed with
  | .greedy => places.reverse.findSome? follow
  | .lazy => places.findSome? follow
  | .possessive => places.getLast?.bind follow

/-- Tries the ways to match a pattern at a place, in order, until `follow` succeeds. -/
def Pattern.run : Pattern → Follow → Place → Option Place
  | .empty, follow, place => follow place
  | .one set, follow, place =>
      match place.next? with
      | some (c, further) => if set.contains c then follow further else none
      | none => none
  | .span set repetition, follow, place => runSpan set repetition follow place
  | .anchor condition, follow, place => if place.satisfies condition then follow place else none
  | .both first second, follow, place => first.run (second.run follow) place
  | .either left right, follow, place =>
      match left.run follow place with
      | some reached => some reached
      | none => right.run follow place
  | .repeated body repetition, follow, place => runRepeated body.run repetition follow place
  | .group none body, follow, place => body.run follow place
  | .group (some number) body, follow, place =>
      body.run (fun reached => follow (reached.capture place number)) place
  | .atomic body, follow, place => (body.run some place).bind follow
  | .lookAhead false body, follow, place =>
      (body.run some place).bind fun reached =>
        follow { place with captures := reached.captures }
  | .lookAhead true body, follow, place =>
      if (body.run some place).isSome then none else follow place
  | .lookBehind negated distance body, follow, place =>
      match (place.back? distance).bind (body.run some), negated with
      | some reached, false => follow { place with captures := reached.captures }
      | none, true => follow place
      | _, _ => none
  | .reference number _ rule, follow, place =>
      ((place.captured? number).bind fun text => Place.skip? rule text place).bind follow
  | .conditional number set unset, follow, place =>
      if (place.captured? number).isSome then set.run follow place else unset.run follow place

/-- Whether a pattern matches some characters at the front of a text. -/
def Pattern.matchesAtStart (pattern : Pattern) (text : List Char) : Bool :=
  (pattern.run some (Place.start text)).isSome

/-- Whether a pattern matches at a place or further on. -/
def Pattern.occursFrom (pattern : Pattern) (position : Nat) (before : List Char) :
    List Char → Bool
  | [] => (pattern.run some ⟨position, before, [], []⟩).isSome
  | c :: rest =>
      (pattern.run some ⟨position, before, c :: rest, []⟩).isSome ||
        pattern.occursFrom (position + 1) (c :: before) rest

/-- Whether a pattern matches somewhere in a text. -/
def Pattern.occursIn (pattern : Pattern) (text : String) : Bool :=
  pattern.occursFrom 0 [] text.toList

end VirtualShell.Regex
