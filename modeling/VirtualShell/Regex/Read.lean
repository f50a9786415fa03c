import VirtualShell.Regex.Alternation
import VirtualShell.Text.CharacterName
import VirtualShell.Text.Identifier
import VirtualShell.Text.Integer

/-!
Contract: the pattern that a regular expression stands for.

Owns:
- `Defect`, why a text is no regular expression.
- `Flags`, the flags that a pattern can set for itself.
- `Pattern.parse`, the pattern of a text as it is written, and `Pattern.read`, the
  pattern that is looked for.

The expression is read from left to right with a stack of the parentheses that are
open. Flags for the whole expression may stand at its very start only. A number of
repetitions that is too large is reported where it stands, and so comes before a
later fault in the form of the expression; two kinds of alphabet at once and the
distance of a look behind are judged after the whole expression has been read.
-/

namespace VirtualShell.Regex

/-- Why a text is no regular expression. -/
inductive Defect where
  | malformed
  | repetitionTooLarge
  | numberTooLong (digits : Nat)
  | alphabetsMixed
deriving DecidableEq, Repr

/-- The wording of a defect. -/
def Defect.message : Defect → String
  | .malformed => "invalid regular expression"
  | .repetitionTooLarge => "the repetition number is too large"
  | .numberTooLong digits => (Text.IntegerDefect.tooManyDigits digits).message
  | .alphabetsMixed => "ASCII and UNICODE flags are incompatible"

/-- The first number of repetitions that is too large. -/
def repetitionLimit : Nat := 0xFFFFFFFF

/-- The first number that no group can have. -/
def groupLimit : Nat := 0x3FFFFFFF

/-- The flags in force. -/
structure Flags where
  ignoreCase : Bool
  multiline : Bool
  dotAll : Bool
  verbose : Bool
  ascii : Bool
  unicode : Bool
  fixedOnly : Bool
deriving DecidableEq, Repr

namespace Flags

/-- No flag is set. -/
def none : Flags := ⟨false, false, false, false, false, false, false⟩

/-- The flags with those that a letter stands for set to `value`. -/
def withLetter (flags : Flags) (letter : Char) (value : Bool) : Option Flags :=
  match letter with
  | 'i' => some { flags with ignoreCase := value }
  | 'm' => some { flags with multiline := value }
  | 's' => some { flags with dotAll := value }
  | 'x' => some { flags with verbose := value }
  | 'a' => some { flags with ascii := value }
  | 'u' => some { flags with unicode := value }
  | 't' => some { flags with fixedOnly := value }
  | _ => Option.none

/-- Whether the flags choose an alphabet. -/
def choosesAlphabet (flags : Flags) : Bool :=
  flags.ascii || flags.unicode

/-- All flags that are set in one of two. -/
def union (left right : Flags) : Flags :=
  ⟨left.ignoreCase || right.ignoreCase, left.multiline || right.multiline,
    left.dotAll || right.dotAll, left.verbose || right.verbose, left.ascii || right.ascii,
    left.unicode || right.unicode, left.fixedOnly || right.fixedOnly⟩

/-- The flags inside a group that sets some flags and clears others. -/
def inside (outer added removed : Flags) : Flags :=
  let base :=
    if added.choosesAlphabet then { outer with ascii := false, unicode := false } else outer
  let all := base.union added
  ⟨all.ignoreCase && !removed.ignoreCase, all.multiline && !removed.multiline,
    all.dotAll && !removed.dotAll, all.verbose && !removed.verbose, all.ascii, all.unicode,
    all.fixedOnly⟩

/-- Whether some flag is set in both. -/
def overlap (left right : Flags) : Bool :=
  (left.ignoreCase && right.ignoreCase) || (left.multiline && right.multiline) ||
    (left.dotAll && right.dotAll) || (left.verbose && right.verbose)

/-- How letters are compared under the flags. -/
def caseRule (flags : Flags) : CaseRule :=
  if flags.ignoreCase then (if flags.ascii then .ascii else .unicode) else .exact

end Flags

/-- A character of an expression, with the backslash before it if there is one; a
backslash at the very end is `broken`. -/
inductive Sign where
  | plain (c : Char)
  | escaped (c : Char)
  | broken
deriving DecidableEq, Repr

/-- The signs of an expression. -/
def signsOf : List Char → List Sign
  | [] => []
  | ['\\'] => [.broken]
  | '\\' :: c :: rest => .escaped c :: signsOf rest
  | c :: rest => .plain c :: signsOf rest

/-- The longest run of at most `most` plain characters that are allowed, and the signs
behind it. -/
def takePlain (allowed : Char → Bool) : Option Nat → List Sign → List Char × List Sign
  | some 0, signs => ([], signs)
  | most, .plain c :: rest =>
      if allowed c then
        let (chars, behind) := takePlain allowed (most.map (· - 1)) rest
        (c :: chars, behind)
      else ([], .plain c :: rest)
  | _, signs => ([], signs)

/-- Whether a character is an octal digit. -/
def isOctal (c : Char) : Bool := '0' ≤ c && c ≤ '7'

/-- A code point written with exactly `count` hexadecimal digits. -/
def readHex (count : Nat) (signs : List Sign) : Except Defect (Nat × List Sign) :=
  let (digits, rest) := takePlain (fun c => (Text.hexValue? c).isSome) (some count) signs
  let value := Text.numberIn 16 digits
  if digits.length = count ∧ value ≤ 0x10FFFF then .ok (value, rest) else .error .malformed

/-- The control character of an escape letter. -/
def controlCode? : Char → Option Nat
  | 'a' => some 7
  | 'f' => some 12
  | 'n' => some 10
  | 'r' => some 13
  | 't' => some 9
  | 'v' => some 11
  | '\\' => some 92
  | _ => none

/-- The category of an escape letter. -/
def category? (asciiOnly : Bool) : Char → Option SetItem
  | 'd' => some (.category .digit asciiOnly false)
  | 'D' => some (.category .digit asciiOnly true)
  | 's' => some (.category .space asciiOnly false)
  | 'S' => some (.category .space asciiOnly true)
  | 'w' => some (.category .word asciiOnly false)
  | 'W' => some (.category .word asciiOnly true)
  | _ => none

/-- The text up to a closing sign, which must be there, and must not be empty. -/
def readName (closing : Char) (signs : List Sign) : Except Defect (List Char × List Sign) :=
  let (name, rest) := takePlain (· != closing) none signs
  match rest with
  | .plain _ :: behind => if name.isEmpty then .error .malformed else .ok (name, behind)
  | _ => .error .malformed

/-- A code point given by the name of its character between braces. -/
def readNamedCode (signs : List Sign) : Except Defect (Nat × List Sign) :=
  match signs with
  | .plain '{' :: rest => do
      let (name, behind) ← readName '}' rest
      match Text.codeOfName? (String.ofList name) with
      | some code => return (code, behind)
      | none => throw .malformed
  | _ => .error .malformed

/-- A code point escaped by its number or name, or by a sign that is no letter or digit. -/
def readCodeEscape (c : Char) (rest : List Sign) : Except Defect (Nat × List Sign) :=
  match c with
  | 'x' => readHex 2 rest
  | 'u' => readHex 4 rest
  | 'U' => readHex 8 rest
  | 'N' => readNamedCode rest
  | c => if c.isAlphanum then .error .malformed else .ok (c.toNat, rest)

/-- An octal code point of up to three digits, of which `first` is the first. -/
def readOctal (first : Char) (rest : List Sign) : Except Defect (Nat × List Sign) :=
  let (digits, behind) := takePlain isOctal (some 2) rest
  let value := Text.numberIn 8 (first :: digits)
  if value ≤ 0o377 then .ok (value, behind) else .error .malformed

/-- An escape inside a character set. -/
def readSetEscape (flags : Flags) (c : Char) (rest : List Sign) :
    Except Defect (SetItem × List Sign) :=
  match (if c = 'b' then some 8 else controlCode? c), category? flags.ascii c with
  | some code, _ => .ok (.code code, rest)
  | none, some item => .ok (item, rest)
  | none, none =>
      (if isOctal c then readOctal c rest else readCodeEscape c rest).map
        fun (code, behind) => (.code code, behind)

/-- One member of a character set, which may be the start of a range. -/
def readMember (flags : Flags) : List Sign → Except Defect (SetItem × List Sign)
  | .plain c :: rest => .ok (.code c.toNat, rest)
  | .escaped c :: rest => readSetEscape flags c rest
  | _ => .error .malformed

/-- The members of a character set up to its closing bracket; `items` holds those read
so far, latest first, and a bracket that comes first is a member. -/
def readMembers (flags : Flags) : Nat → List SetItem → List Sign →
    Except Defect (List SetItem × List Sign)
  | 0, _, _ => .error .malformed
  | fuel + 1, items, signs =>
      match signs, items with
      | .plain ']' :: rest, _ :: _ => .ok (items.reverse, rest)
      | signs, items => do
          let (first, behind) ← readMember flags signs
          match behind with
          | .plain '-' :: .plain ']' :: rest =>
              return ((.code '-'.toNat :: first :: items).reverse, rest)
          | .plain '-' :: rest =>
              let (last, further) ← readMember flags rest
              match first, last with
              | .code low, .code high =>
                  if high < low then throw .malformed
                  readMembers flags fuel (.range low high :: items) further
              | _, _ => throw .malformed
          | behind => readMembers flags fuel (first :: items) behind

/-- A character set behind its opening bracket. -/
def readSet (flags : Flags) (signs : List Sign) : Except Defect (Pattern × List Sign) := do
  let (negated, members) := match signs with
    | .plain '^' :: rest => (true, rest)
    | other => (false, other)
  let (items, rest) ← readMembers flags (members.length + 1) [] members
  return (.one ⟨negated, items.eraseDups, flags.caseRule⟩, rest)

/-- A single code point under the flags. -/
def single (flags : Flags) (code : Nat) : Pattern :=
  .one ⟨false, [.code code], flags.caseRule⟩

/-- What an open parenthesis is for. -/
inductive Opener where
  | whole
  | plain
  | group (number : Option Nat)
  | atomic
  | lookAhead (negated : Bool)
  | lookBehind (negated isOutermost : Bool)
  | condition (group : Nat) (set : Option Pattern)

/-- What has been read inside the parenthesis that was opened last; lists hold the
latest first. -/
structure Level where
  opener : Opener
  flags : Flags
  alternatives : List Pattern
  items : List Pattern

/-- How far an expression has been read: the open parentheses, innermost first, the
number of groups and the widths of the closed ones, the names of groups, the number
of groups at the outermost open look behind, the flags of the whole expression, and
whether it is known to be faulty once it has been read to its end. -/
structure Progress where
  level : Level
  outer : List Level
  groups : Nat
  widths : List (Nat × Width)
  names : List (String × Nat)
  behindFrom : Option Nat
  flags : Flags
  conditions : List Nat
  isFaulty : Bool

namespace Progress

/-- Nothing has been read. -/
def initial (flags : Flags) : Progress :=
  ⟨⟨.whole, flags, [], []⟩, [], 0, [], [], none, flags, [], false⟩

/-- One more item in the innermost parenthesis. -/
def add (progress : Progress) (item : Pattern) : Progress :=
  { progress with level := { progress.level with items := item :: progress.level.items } }

/-- A parenthesis is opened. -/
def push (progress : Progress) (opener : Opener) (flags : Flags) : Progress :=
  { progress with
    level := ⟨opener, flags, [], []⟩
    outer := progress.level :: progress.outer }

/-- The width of a closed group. -/
def widthOf? (progress : Progress) (group : Nat) : Option Width :=
  (progress.widths.find? fun entry => entry.1 == group).map Prod.snd

/-- A group may be referred to here: it is closed, and inside a look behind it was
there before. -/
def checkReference (progress : Progress) (group : Nat) : Except Defect Width :=
  match progress.widthOf? group with
  | none => .error .malformed
  | some width =>
      match progress.behindFrom with
      | some first => if first < group then .error .malformed else .ok width
      | none => .ok width

/-- A reference to what a group has matched. -/
def addReference (progress : Progress) (group : Nat) : Except Defect Progress := do
  let width ← progress.checkReference group
  return progress.add (.reference group width progress.level.flags.caseRule)

/-- What the innermost parenthesis holds. -/
def content (level : Level) : Pattern :=
  match level.alternatives with
  | [] => Pattern.inOrder level.items.reverse
  | last :: others =>
      others.foldl (fun right left => .either left right)
        (.either last (Pattern.inOrder level.items.reverse))

/-- A bar: what follows is another alternative. -/
def alternate (progress : Progress) : Except Defect Progress :=
  let level := progress.level
  match level.opener with
  | .condition group none =>
      .ok { progress with
        level :=
          ⟨.condition group (some (Pattern.inOrder level.items.reverse)), level.flags, [], []⟩ }
  | .condition _ (some _) => .error .malformed
  | _ =>
      .ok { progress with
        level := { level with
          alternatives := Pattern.inOrder level.items.reverse :: level.alternatives
          items := [] } }

/-- A closing parenthesis. -/
def close (progress : Progress) : Except Defect Progress :=
  match progress.outer with
  | [] => .error .malformed
  | below :: outer =>
      let body := content progress.level
      let closed := { progress with level := below, outer := outer }
      match progress.level.opener with
      | .whole => .error .malformed
      | .plain => .ok (closed.add body)
      | .group none => .ok (closed.add (.group none body))
      | .group (some number) =>
          .ok ({ closed with widths := (number, body.width) :: closed.widths }.add
            (.group (some number) body))
      | .atomic => .ok (closed.add (.atomic body))
      | .lookAhead negated => .ok (closed.add (.lookAhead negated body))
      | .lookBehind negated isOutermost =>
          let width := body.width
          let unfit := width.least != width.most || repetitionLimit < width.least
          .ok ({ closed with
            behindFrom := if isOutermost then none else closed.behindFrom
            isFaulty := closed.isFaulty || unfit }.add (.lookBehind negated width.least body))
      | .condition group none => .ok (closed.add (.conditional group body .empty))
      | .condition group (some set) => .ok (closed.add (.conditional group set body))

/-- The last item is repeated. -/
def repeatLast (progress : Progress) (least : Nat) (most : Option Nat) (signs : List Sign) :
    Except Defect (Progress × List Sign) :=
  match progress.level.items with
  | [] => .error .malformed
  | item :: others =>
      if item.isAnchor || item.isRepetition then .error .malformed
      else
        let (greed, rest) := match signs with
          | .plain '?' :: rest => (Greed.lazy, rest)
          | .plain '+' :: rest => (Greed.possessive, rest)
          | other => (Greed.greedy, other)
        let repetition : Repetition := ⟨least, most, greed⟩
        .ok ({ progress with
          level := { progress.level with items := item.repeatedBy repetition :: others }
          isFaulty := progress.isFaulty || progress.level.flags.fixedOnly }, rest)

/-- The number that some digits stand for, as a number of repetitions. -/
def repetitionNumber (digits : List Char) : Except Defect (Option Nat) :=
  if digits.isEmpty then .ok none
  else if Text.maximumDigits < digits.length then .error (.numberTooLong digits.length)
  else
    let number := Text.numberIn 10 digits
    if repetitionLimit ≤ number then .error .repetitionTooLarge else .ok (some number)

/-- An opening brace: a number of repetitions, or else a character like any other. -/
def readBraces (progress : Progress) (signs : List Sign) :
    Except Defect (Progress × List Sign) :=
  let literal := progress.add (single progress.level.flags '{'.toNat)
  match signs with
  | .plain '}' :: _ => .ok (literal, signs)
  | _ =>
      let (low, behindLow) := takePlain Char.isDigit none signs
      let (high, behind) := match behindLow with
        | .plain ',' :: rest => takePlain Char.isDigit none rest
        | other => (low, other)
      match behind with
      | .plain '}' :: rest => do
          if rest.head? = some .broken then throw .malformed
          let least := (← repetitionNumber low).getD 0
          let most ← repetitionNumber high
          if most.any (· < least) then throw .malformed
          progress.repeatLast least most rest
      | _ => .ok (literal, signs)

/-- A group that captures is opened. -/
def openGroup (progress : Progress) : Progress :=
  { progress with groups := progress.groups + 1 }.push (.group (some (progress.groups + 1)))
    progress.level.flags

/-- A named group is opened, or referred to. -/
def readNamed (progress : Progress) (signs : List Sign) :
    Except Defect (Progress × List Sign) := do
  match signs with
  | .plain '<' :: rest =>
      let (name, behind) ← readName '>' rest
      if !Text.isIdentifier name ||
          progress.names.any (fun entry => entry.1 == String.ofList name) then
        throw .malformed
      let named := { progress with
        names := (String.ofList name, progress.groups + 1) :: progress.names }
      return (named.openGroup, behind)
  | .plain '=' :: rest =>
      let (name, behind) ← readName ')' rest
      match progress.names.find? fun entry => entry.1 == String.ofList name with
      | none => throw .malformed
      | some (_, group) => return (← progress.addReference group, behind)
  | _ => throw .malformed

/-- A condition on a group is opened. -/
def readCondition (progress : Progress) (signs : List Sign) :
    Except Defect (Progress × List Sign) := do
  let (name, rest) ← readName ')' signs
  let group ←
    if Text.isIdentifier name then
      match progress.names.find? fun entry => entry.1 == String.ofList name with
      | none => throw .malformed
      | some (_, group) => pure group
    else
      match Text.readInteger (String.ofList name) with
      | .ok number =>
          if 0 < number ∧ number < groupLimit then pure number.toNat else throw .malformed
      | .error _ => throw .malformed
  if progress.behindFrom.isSome then
    let _ ← progress.checkReference group
  let noted := { progress with conditions := group :: progress.conditions }
  return (noted.push (.condition group none) progress.level.flags, rest)

/-- The flags that some letters set, up to the sign behind them, which is kept. -/
def readLetters (adding : Bool) (seen : Flags) : List Sign → Except Defect (Flags × List Sign)
  | .plain c :: rest =>
      match seen.withLetter c true with
      | none => .ok (seen, .plain c :: rest)
      | some flags =>
          if adding && flags.ascii && flags.unicode then .error .malformed
          else readLetters adding flags rest
  | signs => .ok (seen, signs)

/-- Flags are set, for the whole expression or for a group that is opened here. -/
def readFlags (progress : Progress) (signs : List Sign) :
    Except Defect (Progress × List Sign) := do
  if signs.head? = some (.plain ')') then throw .malformed
  let (added, behind) ← readLetters true .none signs
  match behind with
  | .plain ')' :: rest =>
      let isFirst := progress.outer.isEmpty && progress.level.alternatives.isEmpty &&
        progress.level.items.isEmpty
      if !isFirst then throw .malformed
      let flags := progress.flags.union added
      return ({ progress with
        flags := flags
        level := { progress.level with flags := flags } }, rest)
  | .plain ':' :: rest =>
      if added.fixedOnly then throw .malformed
      return (progress.push (.group none) (progress.level.flags.inside added .none), rest)
  | .plain '-' :: rest =>
      let (removed, further) ← readLetters false .none rest
      match further with
      | .plain ':' :: after =>
          if added.fixedOnly || removed.fixedOnly || removed.choosesAlphabet ||
              removed = .none || added.overlap removed then throw .malformed
          return (progress.push (.group none) (progress.level.flags.inside added removed), after)
      | _ => throw .malformed
  | _ => throw .malformed

/-- The signs behind the end of a comment. -/
def skipComment (signs : List Sign) : Except Defect (List Sign) :=
  match signs.dropWhile (· != .plain ')') with
  | _ :: rest => .ok rest
  | [] => .error .malformed

/-- A look behind is opened. -/
def openLookBehind (progress : Progress) (negated : Bool) : Progress :=
  let isOutermost := progress.behindFrom.isNone
  { progress with behindFrom := some (progress.behindFrom.getD progress.groups) }.push
    (.lookBehind negated isOutermost) progress.level.flags

/-- What an opening parenthesis and a question mark start. -/
def readExtension (progress : Progress) (signs : List Sign) :
    Except Defect (Progress × List Sign) :=
  let flags := progress.level.flags
  match signs with
  | .plain 'P' :: rest => progress.readNamed rest
  | .plain ':' :: rest => .ok (progress.push .plain flags, rest)
  | .plain '#' :: rest => (skipComment rest).map fun behind => (progress, behind)
  | .plain '=' :: rest => .ok (progress.push (.lookAhead false) flags, rest)
  | .plain '!' :: rest => .ok (progress.push (.lookAhead true) flags, rest)
  | .plain '<' :: .plain '=' :: rest => .ok (progress.openLookBehind false, rest)
  | .plain '<' :: .plain '!' :: rest => .ok (progress.openLookBehind true, rest)
  | .plain '(' :: rest => progress.readCondition rest
  | .plain '>' :: rest => .ok (progress.push .atomic flags, rest)
  | signs => progress.readFlags signs

/-- A reference to a group by its number, or an octal code point of three digits. -/
def readNumberEscape (progress : Progress) (c : Char) (rest : List Sign) :
    Except Defect (Progress × List Sign) :=
  let reference (digits : List Char) (behind : List Sign) := do
    return (← progress.addReference (Text.numberIn 10 digits), behind)
  match rest with
  | .plain second :: behind =>
      if second.isDigit then
        match behind with
        | .plain third :: further =>
            if isOctal c && isOctal second && isOctal third then
              let value := Text.numberIn 8 [c, second, third]
              if value ≤ 0o377 then .ok (progress.add (single progress.level.flags value), further)
              else .error .malformed
            else reference [c, second] behind
        | _ => reference [c, second] behind
      else reference [c] rest
  | _ => reference [c] rest

/-- The anchor of an escape letter. -/
def anchor? (asciiOnly : Bool) : Char → Option Anchor
  | 'A' => some .textStart
  | 'Z' => some .textEnd
  | 'b' => some (.wordBoundary asciiOnly)
  | 'B' => some (.notWordBoundary asciiOnly)
  | _ => none

/-- An escape outside character sets. -/
def readEscape (progress : Progress) (c : Char) (rest : List Sign) :
    Except Defect (Progress × List Sign) :=
  let flags := progress.level.flags
  match anchor? flags.ascii c, category? flags.ascii c, controlCode? c with
  | some anchor, _, _ => .ok (progress.add (.anchor anchor), rest)
  | none, some item, _ => .ok (progress.add (.one ⟨false, [item], flags.caseRule⟩), rest)
  | none, none, some code => .ok (progress.add (single flags code), rest)
  | none, none, none =>
      if c = '0' then
        let (digits, behind) := takePlain isOctal (some 2) rest
        .ok (progress.add (single flags (Text.numberIn 8 digits)), behind)
      else if c.isDigit then progress.readNumberEscape c rest
      else
        (readCodeEscape c rest).map fun (code, behind) => (progress.add (single flags code), behind)

/-- A line feed, which the dot does not match. -/
def lineFeedOnly : SetItem := .code '\n'.toNat

/-- A character that is not escaped. -/
def readPlain (progress : Progress) (c : Char) (rest : List Sign) :
    Except Defect (Progress × List Sign) :=
  let flags := progress.level.flags
  match c with
  | '[' => (readSet flags rest).map fun (set, behind) => (progress.add set, behind)
  | '?' => progress.repeatLast 0 (some 1) rest
  | '*' => progress.repeatLast 0 none rest
  | '+' => progress.repeatLast 1 none rest
  | '{' => progress.readBraces rest
  | '.' =>
      let items := if flags.dotAll then [] else [lineFeedOnly]
      .ok (progress.add (.one ⟨true, items, .exact⟩), rest)
  | '(' =>
      match rest with
      | .plain '?' :: behind => progress.readExtension behind
      | _ => .ok (progress.openGroup, rest)
  | ')' => progress.close.map fun closed => (closed, rest)
  | '|' => progress.alternate.map fun next => (next, rest)
  | '^' =>
      .ok (progress.add (.anchor (if flags.multiline then .lineStart else .firstLineStart)), rest)
  | '$' => .ok (progress.add (.anchor (if flags.multiline then .lineEnd else .lastLineEnd)), rest)
  | c => .ok (progress.add (single flags c.toNat), rest)

/-- Whether a character is skipped where spacing does not count. -/
def isSpacing (c : Char) : Bool :=
  c == ' ' || (0x09 ≤ c.toNat && c.toNat ≤ 0x0D)

/-- One step further through an expression. -/
def step (progress : Progress) (sign : Sign) (rest : List Sign) :
    Except Defect (Progress × List Sign) :=
  match sign with
  | .broken => .error .malformed
  | .escaped c => progress.readEscape c rest
  | .plain c =>
      if progress.level.flags.verbose && isSpacing c then .ok (progress, rest)
      else if progress.level.flags.verbose && c = '#' then
        let behind := rest.dropWhile (· != .plain '\n')
        if behind.isEmpty && rest.getLast? = some .broken then .error .malformed
        else .ok (progress, behind.tail)
      else progress.readPlain c rest

/-- The pattern, once the expression has been read; `isComplete` says that nothing is
left of it. -/
def finish (progress : Progress) (isComplete : Bool) : Except Defect Pattern :=
  if !progress.outer.isEmpty then .error .malformed
  else if progress.flags.ascii && progress.flags.unicode then .error .alphabetsMixed
  else if !isComplete || progress.isFaulty ||
      progress.conditions.any (progress.groups < ·) then .error .malformed
  else .ok (content progress.level)

/-- The pattern of the rest of an expression; a step takes a sign or more, so `fuel` is
enough if it is not less than their number. -/
def readAll : Nat → Progress → List Sign → Except Defect Pattern
  | _, progress, [] => progress.finish true
  | 0, _, _ :: _ => .error .malformed
  | fuel + 1, progress, sign :: rest =>
      if sign = .plain ')' ∧ progress.outer.isEmpty then progress.finish false
      else
        match progress.step sign rest with
        | .error defect => .error defect
        | .ok (next, behind) => next.readAll fuel behind

end Progress

/-- The pattern of a regular expression as it is written; `ignoreCase` is set for all of it. -/
def Pattern.parse (ignoreCase : Bool) (text : String) : Except Defect Pattern :=
  let signs := signsOf text.toList
  (Progress.initial { Flags.none with ignoreCase := ignoreCase }).readAll signs.length signs

/-- The pattern of a regular expression, with its alternatives condensed. -/
def Pattern.read (ignoreCase : Bool) (text : String) : Except Defect Pattern :=
  (Pattern.parse ignoreCase text).map Pattern.condensed

/-- The characters that have a meaning of their own in an expression. -/
def isSpecial (c : Char) : Bool :=
  "()[]\x7b\x7d?*+-|^$\\.&~# \t\n\r\x0b\x0c".toList.contains c

/-- The expression that matches some characters as they are. -/
def escapeChars (chars : List Char) : List Char :=
  chars.flatMap fun c => if isSpecial c then ['\\', c] else [c]

/-- The expression that matches a text as it is. -/
def escape (text : String) : String :=
  String.ofList (escapeChars text.toList)

end VirtualShell.Regex
