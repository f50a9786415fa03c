import VirtualShell.Proofs.Token.Trim

/-!
Contract: what the unquoted segments of words consist of.

Owns:
- `NeedsQuotesAt`, where a text has a blank, a quote or a character of operators;
- `Woven`, a text of references between braces and of characters that need no quotes, and
  `woven_of_scan`: every unquoted segment of every word of a line is woven;
- `Woven.inBraces`: what needs quotes in such a text stands between the braces of a reference.

An ampersand stands for itself unless another one is right behind it on the line. Two that meet
in a segment are parted on the line by continuations (`PartsAmpersands`), which leave nothing
behind.

Does not own: which references the expansion of a segment finds.
-/

namespace VirtualShell

/-- A blank, a quote or a character of operators. -/
def needsQuotes (c : Char) : Bool :=
  c == ' ' || c == '\t' || c == '\\' || c == '\'' || c == '"' || Lexeme.operatorFronts.contains c

/-- Line continuations, one right behind the other. -/
def continuations (count : Nat) : List Char :=
  (List.replicate count ['\\', '\n']).flatten

theorem continuations_succ (count : Nat) (behind : List Char) :
    continuations (count + 1) ++ behind = continuations count ++ '\\' :: '\n' :: behind := by
  rw [continuations, continuations, List.replicate_succ', List.flatten_append]
  simp

/-- Two ampersands of a line, none of them quoted, have only continuations between them. -/
def PartsAmpersands (line : List Char) : Prop :=
  ∃ (scan : Scan) (count : Nat) (behind : List Char),
    Scan.Reads .initial line scan ('&' :: (continuations (count + 1) ++ '&' :: behind))

/-- Only a line with a backslash parts ampersands. -/
theorem PartsAmpersands.backslash_mem {line : List Char} (parts : PartsAmpersands line) :
    '\\' ∈ line := by
  obtain ⟨scan, count, behind, reads⟩ := parts
  obtain ⟨front, rfl, -⟩ := reads.consumed
  simp [continuations_succ]

/-! ## Woven texts -/

/-- A text of references between braces and of characters that stand for themselves. Ampersands
do so one by one. -/
inductive Woven (line : List Char) : List Char → Prop where
  | nil : Woven line []
  | char {c : Char} {rest : List Char} (bare : needsQuotes c = true → c = '&')
      (lone : c = '&' → rest.head? = some '&' → PartsAmpersands line)
      (behind : Woven line rest) : Woven line (c :: rest)
  | braced {inner rest : List Char} (closed : '}' ∉ inner) (behind : Woven line rest) :
      Woven line ('$' :: '{' :: (inner ++ '}' :: rest))

/-- The character at an offset stands behind a dollar with a brace, and before the next closing
brace. -/
def InBraces (text : List Char) (index : Nat) : Prop :=
  ∃ before inner rest, text = before ++ '$' :: '{' :: (inner ++ '}' :: rest) ∧
    '}' ∉ inner ∧ before.length + 2 ≤ index ∧ index < before.length + 2 + inner.length

theorem InBraces.behind {rest : List Char} {index : Nat} (within : InBraces rest index)
    (front : List Char) : InBraces (front ++ rest) (front.length + index) := by
  obtain ⟨before, inner, others, rfl, closed, left, right⟩ := within
  refine ⟨front ++ before, inner, others, (List.append_assoc _ _ _).symm, closed, ?_, ?_⟩
  · rw [List.length_append]
    omega
  · rw [List.length_append]
    omega

/-- The character at an offset needs quotes. An ampersand does only beside another one. -/
def NeedsQuotesAt (text : List Char) (index : Nat) : Prop :=
  ∃ c, text[index]? = some c ∧ needsQuotes c = true ∧
    (c = '&' → text[index + 1]? = some '&' ∨
      ∃ before, index = before + 1 ∧ text[before]? = some '&')

namespace NeedsQuotesAt

/-- What needs quotes in the back of a text needs them there by itself, unless two ampersands
touch where the back starts. -/
theorem behind {front rest : List Char} {index : Nat}
    (needs : NeedsQuotesAt (front ++ rest) (front.length + index)) :
    NeedsQuotesAt rest index ∨
      front.getLast? = some '&' ∧ index = 0 ∧ rest.head? = some '&' := by
  obtain ⟨c, here, quotes, beside⟩ := needs
  rw [List.getElem?_append_right (Nat.le_add_right _ _), Nat.add_sub_cancel_left] at here
  have next : (front ++ rest)[front.length + index + 1]? = rest[index + 1]? := by
    rw [Nat.add_assoc, List.getElem?_append_right (Nat.le_add_right _ _), Nat.add_sub_cancel_left]
  rw [next] at beside
  cases index with
  | zero =>
      by_cases touches : c = '&' ∧ front.getLast? = some '&'
      · exact .inr ⟨touches.2, rfl, by rw [List.head?_eq_getElem?, here, touches.1]⟩
      · refine .inl ⟨c, here, quotes, fun ampersand => (beside ampersand).imp_right ?_⟩
        rintro ⟨before, same, previous⟩
        rw [Nat.add_zero] at same
        have last : front.getLast? = some '&' := by
          rw [List.getLast?_eq_getElem?, same, Nat.add_sub_cancel, ← previous,
            List.getElem?_append_left (by omega)]
        exact absurd ⟨ampersand, last⟩ touches
  | succ index =>
      refine .inl ⟨c, here, quotes, fun ampersand => (beside ampersand).imp_right ?_⟩
      rintro ⟨before, same, previous⟩
      have place : before = front.length + index := by omega
      rw [place, List.getElem?_append_right (Nat.le_add_right _ _),
        Nat.add_sub_cancel_left] at previous
      exact ⟨index, rfl, previous⟩

/-- What needs quotes in a reference between braces stands between them. -/
theorem inBraces {inner rest : List Char} {index : Nat}
    (needs : NeedsQuotesAt ('$' :: '{' :: (inner ++ '}' :: rest)) index) (closed : '}' ∉ inner)
    (within : index < inner.length + 3) :
    InBraces ('$' :: '{' :: (inner ++ '}' :: rest)) index := by
  obtain ⟨c, here, quotes, -⟩ := needs
  rcases index with _ | _ | index
  · cases here
    cases quotes
  · cases here
    cases quotes
  · rw [List.getElem?_cons_succ, List.getElem?_cons_succ] at here
    refine ⟨[], inner, rest, rfl, closed, Nat.le_add_left _ _, ?_⟩
    refine Nat.lt_of_not_le fun outside => ?_
    have place : index = inner.length := by
      rw [List.length_nil] at outside
      omega
    rw [place, List.getElem?_append_right (Nat.le_refl _), Nat.sub_self] at here
    cases here
    cases quotes

end NeedsQuotesAt

namespace Woven

variable {line text more : List Char}

theorem append (front : Woven line text) (back : Woven line more)
    (apart : text.getLast? = some '&' → more.head? = some '&' → PartsAmpersands line) :
    Woven line (text ++ more) := by
  induction front with
  | nil => exact back
  | @char c rest bare lone behind inductionHypothesis =>
      refine .char bare (fun ampersand next => ?_) (inductionHypothesis fun last => apart ?_)
      · cases rest with
        | nil => exact apart (by rw [ampersand]; rfl) next
        | cons d rest => exact lone ampersand next
      · rw [List.getLast?_cons, last]
        rfl
  | @braced inner rest closed behind inductionHypothesis =>
      have onward := inductionHypothesis fun last =>
        apart (by simp [List.getLast?_cons, List.getLast?_append, last])
      simpa using Woven.braced closed onward

/-- What needs quotes in a woven text stands between the braces of one of its references. -/
theorem inBraces (woven : Woven line text) {index : Nat} (needs : NeedsQuotesAt text index)
    (lone : text[index]? = some '&' → ¬ PartsAmpersands line) : InBraces text index := by
  induction woven generalizing index with
  | nil =>
      obtain ⟨c, here, -⟩ := needs
      cases here
  | @char c rest bare alone behind inductionHypothesis =>
      cases index with
      | zero =>
          obtain ⟨d, here, quotes, beside⟩ := needs
          cases here
          have ampersand := bare quotes
          rw [ampersand] at lone
          obtain next | ⟨before, same, -⟩ := beside ampersand
          · rw [List.getElem?_cons_succ, ← List.head?_eq_getElem?] at next
            exact absurd (alone ampersand next) (lone rfl)
          · cases same
      | succ index =>
          rw [List.getElem?_cons_succ] at lone
          rw [Nat.add_comm] at needs ⊢
          change NeedsQuotesAt ([c] ++ rest) ([c].length + index) at needs
          obtain later | ⟨last, rfl, first⟩ := needs.behind
          · exact (inductionHypothesis later lone).behind [c]
          · rw [← List.head?_eq_getElem?] at lone
            exact absurd (alone (by simpa using last) first) (lone first)
  | @braced inner rest closed behind inductionHypothesis =>
      by_cases within : index < inner.length + 3
      · exact needs.inBraces closed within
      · -- The reference ends with a brace, so that no ampersand touches what is behind it.
        have whole : '$' :: '{' :: (inner ++ '}' :: rest) =
            '$' :: '{' :: inner ++ ['}'] ++ rest := by simp
        have length : ('$' :: '{' :: inner ++ ['}']).length = inner.length + 3 := by simp
        obtain ⟨later, rfl⟩ := Nat.exists_eq_add_of_le (Nat.le_of_not_lt within)
        rw [whole, ← length] at needs lone ⊢
        rw [List.getElem?_append_right (Nat.le_add_right _ _), Nat.add_sub_cancel_left] at lone
        obtain further | ⟨last, -⟩ := needs.behind
        · exact (inductionHypothesis further lone).behind _
        · rw [List.getLast?_concat] at last
          cases last

end Woven

/-! ## What a lexeme adds -/

namespace Lexeme

variable {c : Char} {rest : List Char} {inWord : Bool} {reading : Reading}

theorem isQuoted_of_doubleQuoted {buffer chars : List Char} {segments : List Segment} {width : Nat}
    (found : doubleQuoted buffer chars = some (segments, width)) :
    ∀ segment ∈ segments, segment.isQuoted = true := by
  fun_induction doubleQuoted buffer chars generalizing segments width with
  | case1 => cases found
  | case2 =>
      cases found
      exact List.forall_mem_singleton.2 rfl
  | case4 buffer c chars notJoint escape inductionHypothesis =>
      obtain ⟨inner, present, same⟩ := Option.map_eq_some_iff.1 found
      cases same
      exact List.forall_mem_cons.2 ⟨rfl, List.forall_mem_cons.2 ⟨rfl, inductionHypothesis present⟩⟩
  | case3 _ _ inductionHypothesis | case5 _ _ _ _ _ inductionHypothesis
  | case6 _ _ _ _ _ _ inductionHypothesis =>
      obtain ⟨inner, present, same⟩ := Option.map_eq_some_iff.1 found
      cases same
      exact inductionHypothesis present

/-- Where no operator is read, the character is part of none, or it is a lone ampersand. -/
theorem ampersand_of_operatorAt (unread : operatorAt inWord (c :: rest) = none)
    (front : c ∈ operatorFronts) : c = '&' ∧ rest.head? ≠ some '&' := by
  have apart : ∀ entry ∈ operatorSpellings, ¬ entry.1 <+: c :: rest := by
    intro entry member matched
    have offered : entry ∈ if inWord then operatorSpellings
        else numberedSpellings ++ operatorSpellings := by
      split
      · exact member
      · exact List.mem_append_right _ member
    exact List.find?_eq_none.1 unread entry offered (List.isPrefixOf_iff_prefix.2 matched)
  have alone : ∀ kind, ([c], kind) ∉ operatorSpellings := fun kind member =>
    apart _ member (List.prefix_append [c] rest)
  have ampersand : c = '&' := by
    simp only [operatorFronts, List.mem_cons, List.not_mem_nil, or_false] at front
    rcases front with rfl | rfl | rfl | rfl | rfl | rfl | rfl | rfl
    · exact absurd (by decide) (alone .writeOut)
    · exact absurd (by decide) (alone .pipe)
    · rfl
    · exact absurd (by decide) (alone .readIn)
    · exact absurd (by decide) (alone .semicolon)
    · exact absurd (by decide) (alone .newline)
    · exact absurd (by decide) (alone .openParen)
    · exact absurd (by decide) (alone .closeParen)
  refine ⟨ampersand, fun next => ?_⟩
  obtain ⟨others, rfl⟩ := List.head?_eq_some_iff.1 next
  refine apart (['&', '&'], .andThen) (by decide) ?_
  rw [ampersand]
  exact List.prefix_append ['&', '&'] others

/-- A character that is read as such or as an operator needs quotes only for the operator. -/
theorem mem_operatorFronts_of_needsQuotes
    (plain : ∀ rest, read inWord c rest = .ok (readPlain inWord c rest))
    (quotes : needsQuotes c = true) : c ∈ operatorFronts := by
  have alone := plain []
  simp only [needsQuotes, Bool.or_eq_true, beq_iff_eq, List.contains_iff_mem] at quotes
  rcases quotes with ((((rfl | rfl) | rfl) | rfl) | rfl) | front
  · cases inWord <;> cases alone
  · cases inWord <;> cases alone
  · cases inWord <;> cases alone
  · cases inWord <;> cases alone
  · cases inWord <;> cases alone
  · exact front

theorem exists_of_bracedReference? {text : List Char} (found : bracedReference? rest = some text) :
    ∃ inner, '}' ∉ inner ∧ text = '$' :: '{' :: inner ++ ['}'] := by
  unfold bracedReference? at found
  split at found
  · rename_i others
    simp only at found
    split at found
    · cases found
      refine ⟨others.takeWhile (· != '}'), fun member => ?_, rfl⟩
      have passes := List.all_eq_true.1 List.all_takeWhile _ member
      simp at passes
    · cases found
  · cases found

/-- What a lexeme adds to a word: unquoted, a reference between braces or a single character that
needs no quotes; quoted, no segment that is unquoted. -/
theorem contents_of_read (found : read inWord c rest = .ok reading) :
    (∀ text, reading.lexeme = .plain text →
      (∃ inner, '}' ∉ inner ∧ text = '$' :: '{' :: inner ++ ['}']) ∨
        text = [c] ∧ reading.width = 1 ∧
          (needsQuotes c = true → c = '&' ∧ rest.head? ≠ some '&')) ∧
      ∀ segments, reading.lexeme = .quoted segments →
        ∀ segment ∈ segments, segment.isQuoted = true := by
  cases front inWord c with
  | blank blank =>
      rw [read_blank inWord blank] at found
      cases found
      exact ⟨by simp, by simp⟩
  | backslash =>
      rw [read_backslash] at found
      cases found
      unfold readEscape
      split
      · exact ⟨by simp, by rintro _ ⟨⟩; exact List.forall_mem_singleton.2 rfl⟩
      · exact ⟨by simp, by simp⟩
      · exact ⟨by simp, by rintro _ ⟨⟩; exact List.forall_mem_singleton.2 rfl⟩
  | singleQuote =>
      rw [read_singleQuote] at found
      unfold readSingle at found
      simp only at found
      split at found
      · cases found
        exact ⟨by simp, by rintro _ ⟨⟩; exact List.forall_mem_singleton.2 rfl⟩
      · cases found
  | doubleQuote =>
      rw [read_doubleQuote] at found
      unfold readDouble at found
      split at found
      · rename_i inner width closed
        cases found
        exact ⟨by simp, by rintro _ ⟨⟩; exact isQuoted_of_doubleQuoted closed⟩
      · cases found
  | hash outside =>
      rw [outside, read_hash] at found
      cases found
      exact ⟨by simp, by simp⟩
  | dollar =>
      cases reference : bracedReference? rest with
      | none =>
          rw [read_dollar_none inWord reference] at found
          cases found
          refine ⟨?_, by simp⟩
          rintro _ ⟨⟩
          exact .inr ⟨rfl, rfl, fun quotes => absurd quotes (by decide)⟩
      | some whole =>
          rw [read_dollar_some inWord reference] at found
          cases found
          refine ⟨?_, by simp⟩
          rintro _ ⟨⟩
          exact .inl (exists_of_bracedReference? reference)
  | other plain =>
      rw [plain] at found
      cases found
      cases spelled : operatorAt inWord (c :: rest) with
      | none =>
          unfold readPlain
          rw [spelled]
          refine ⟨?_, by simp⟩
          rintro _ ⟨⟩
          exact .inr ⟨rfl, rfl, fun quotes =>
            ampersand_of_operatorAt spelled (mem_operatorFronts_of_needsQuotes plain quotes)⟩
      | some entry =>
          rw [readPlain_of_operatorAt spelled]
          exact ⟨by simp, by simp⟩

end Lexeme

/-! ## What a scan makes of a line -/

/-- The unquoted segments are woven. -/
def AllWoven (line : List Char) (segments : List Segment) : Prop :=
  ∀ segment ∈ segments, segment.quoting = .unquoted → Woven line segment.text.toList

/-- What is left of a line comes right behind an ampersand, or behind one with continuations. -/
def BehindAmpersand (line left : List Char) : Prop :=
  ∃ (scan : Scan) (count : Nat),
    Scan.Reads .initial line scan ('&' :: (continuations count ++ left)) ∧
      (count = 0 → left.head? ≠ some '&')

namespace BehindAmpersand

variable {line left : List Char}

theorem joint (behind : BehindAmpersand line ('\\' :: '\n' :: left)) :
    BehindAmpersand line left := by
  obtain ⟨scan, count, reads, -⟩ := behind
  rw [← continuations_succ] at reads
  exact ⟨scan, count + 1, reads, fun none => absurd none (Nat.succ_ne_zero count)⟩

theorem partsAmpersands (behind : BehindAmpersand line left) (next : left.head? = some '&') :
    PartsAmpersands line := by
  obtain ⟨scan, count, reads, apart⟩ := behind
  obtain ⟨others, rfl⟩ := List.head?_eq_some_iff.1 next
  cases count with
  | zero => exact absurd next (apart rfl)
  | succ count => exact ⟨scan, count, others, reads⟩

end BehindAmpersand

/-- A word in progress with woven segments, in front of what is left of its line. -/
structure Draft.IsWoven (line left : List Char) (draft : Draft) : Prop where
  segments : AllWoven line draft.segments
  plain : Woven line draft.plain.reverse
  ampersand : draft.plain.head? = some '&' → BehindAmpersand line left

namespace Draft.IsWoven

variable {line left : List Char} {draft : Draft}

theorem settled (woven : draft.IsWoven line left) : AllWoven line draft.settled := by
  unfold Draft.settled
  split
  · exact woven.segments
  · refine List.forall_mem_cons.2 ⟨fun _ => ?_, woven.segments⟩
    rw [String.toList_ofList]
    exact woven.plain

theorem addReference (woven : draft.IsWoven line left) {inner : List Char}
    (closed : '}' ∉ inner) (behind : List Char) :
    (draft.addPlain ('$' :: '{' :: inner ++ ['}'])).IsWoven line behind where
  segments := woven.segments
  plain := by
    simp only [Draft.addPlain, List.reverse_append, List.reverse_reverse]
    have reference : Woven line ('$' :: '{' :: inner ++ ['}']) := .braced closed .nil
    refine woven.plain.append ?_ fun _ dollar => by cases dollar
    simpa using reference
  ampersand := fun brace => by simp [Draft.addPlain] at brace

theorem addChar {c : Char} {rest : List Char} (woven : draft.IsWoven line (c :: rest))
    {scan : Scan} (reads : Scan.Reads .initial line scan (c :: rest))
    (bare : needsQuotes c = true → c = '&' ∧ rest.head? ≠ some '&') :
    (draft.addPlain [c]).IsWoven line rest where
  segments := woven.segments
  plain := by
    simp only [Draft.addPlain, List.reverse_append, List.reverse_reverse]
    refine woven.plain.append ?_ fun last next => ?_
    · exact .char (fun quotes => (bare quotes).1) (fun _ none => by cases none) .nil
    · rw [List.getLast?_reverse] at last
      exact (woven.ampersand last).partsAmpersands next
  ampersand := by
    rintro ⟨⟩
    exact ⟨scan, 0, reads, fun _ => (bare (by decide)).2⟩

theorem addQuoted (woven : draft.IsWoven line left) {segments : List Segment}
    (quoted : ∀ segment ∈ segments, segment.isQuoted = true) (behind : List Char) :
    (draft.addQuoted segments).IsWoven line behind where
  segments := by
    refine List.forall_mem_append.2 ⟨fun segment member unquoted => ?_, woven.settled⟩
    have isQuoted := quoted segment (List.mem_reverse.1 member)
    simp [Segment.isQuoted, unquoted] at isQuoted
  plain := .nil
  ampersand := nofun

end Draft.IsWoven

namespace Scan

variable {scan : Scan} {line left rest : List Char} {c : Char} {reading : Lexeme.Reading}
  {tokens : List Token}

/-- What a scan has found so far of a line consists of words with woven segments. -/
structure IsWoven (line left : List Char) (scan : Scan) : Prop where
  words : ∀ word, .word word ∈ scan.tokens → AllWoven line word.segments
  draft : ∀ draft ∈ scan.draft, draft.IsWoven line left

theorem IsWoven.closedTokens (woven : scan.IsWoven line left) :
    ∀ word, .word word ∈ scan.closedTokens → AllWoven line word.segments := by
  unfold Scan.closedTokens
  cases inside : scan.draft with
  | none => exact woven.words
  | some draft =>
      intro word member
      obtain same | earlier := List.mem_cons.1 member
      · cases same
        intro segment part
        exact (woven.draft draft inside).settled segment (List.mem_reverse.1 part)
      · exact woven.words word earlier

theorem IsWoven.openDraft (woven : scan.IsWoven line left) :
    scan.openDraft.IsWoven line left := by
  unfold Scan.openDraft
  cases inside : scan.draft with
  | none => exact ⟨nofun, .nil, nofun⟩
  | some draft => exact woven.draft draft inside

/-- A lexeme keeps the words woven. -/
theorem IsWoven.advance (woven : scan.IsWoven line (c :: rest))
    (reads : Reads .initial line scan (c :: rest))
    (found : Lexeme.read scan.draft.isSome c rest = .ok reading) :
    (scan.advance reading).IsWoven line ((c :: rest).drop reading.width) := by
  have contents := Lexeme.contents_of_read found
  unfold Scan.advance
  cases Lexeme.origin found with
  | blank front lexeme width =>
      rw [lexeme]
      exact ⟨woven.closedTokens, nofun⟩
  | operator spelled lexeme width =>
      rw [lexeme]
      exact ⟨fun word member => woven.closedTokens word (by simpa using member), nofun⟩
  | joint front behind lexeme width =>
      -- The word stays as it is, and an ampersand at its end still waits for what follows.
      rw [lexeme, width, front, behind]
      refine ⟨woven.words, fun draft inside => ?_⟩
      have earlier := woven.draft draft inside
      rw [front, behind] at earlier
      exact ⟨earlier.segments, earlier.plain, fun last => (earlier.ampersand last).joint⟩
  | comment front outside lexeme width =>
      rw [lexeme]
      refine ⟨woven.words, fun draft inside => ?_⟩
      rw [Option.mem_def.1 inside] at outside
      cases outside
  | plain lexeme =>
      rw [lexeme]
      refine ⟨woven.words, ?_⟩
      rintro _ ⟨⟩
      obtain ⟨inner, closed, rfl⟩ | ⟨rfl, width, bare⟩ := contents.1 _ lexeme
      · exact woven.openDraft.addReference closed _
      · rw [width]
        exact woven.openDraft.addChar reads bare
  | quoted lexeme =>
      rw [lexeme]
      refine ⟨woven.words, ?_⟩
      rintro _ ⟨⟩
      exact woven.openDraft.addQuoted (contents.2 _ lexeme) _

theorem woven_of_finish (reads : Reads .initial line scan left) (woven : scan.IsWoven line left)
    (finished : scan.finish left = .ok tokens) :
    ∀ word, .word word ∈ tokens → AllWoven line word.segments := by
  fun_induction finish scan left with
  | case1 scan =>
      cases finished
      exact fun word member => woven.closedTokens word (List.mem_reverse.1 member)
  | case2 scan c rest error failed => cases finished
  | case3 scan c rest reading found inductionHypothesis =>
      exact inductionHypothesis (reads.trans (.step found .done)) (woven.advance reads found)
        finished

end Scan

/-- The unquoted segments of the words of a line are woven. -/
theorem woven_of_scan {line : String} {tokens : List Token}
    (scanned : Token.scan line = .ok tokens) {word : Word} (isWord : .word word ∈ tokens)
    {segment : Segment} (part : segment ∈ word.segments) (unquoted : segment.quoting = .unquoted) :
    Woven line.toList segment.text.toList :=
  Scan.woven_of_finish .done ⟨nofun, nofun⟩ scanned word isWord segment part unquoted

end VirtualShell
