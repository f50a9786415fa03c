import VirtualShell.Proofs.Token.Scan
import VirtualShell.Text.Blank

/-!
Contract: what trimming white space off a stretch of a line does to its tokens.

Owns:
- `Token.isNewline`, the operators that trimming may take along;
- `TrimsCleanly`, trimming takes nothing off a word and cuts no joined line;
- `scan_trim`: then the trimmed stretch is scanned to the tokens of the stretch, without
  some line breaks at its two ends.

White space in the sense of trimming is more than the blanks between tokens: a vertical tab
or a wide space belongs to a word, and so does a blank behind a backslash.
-/

namespace VirtualShell

open VirtualShell.Text

/-- Whether a token is a line break. -/
def Token.isNewline (token : Token) : Prop :=
  token.operator? = some .newline

theorem Token.operator?_shift (count : Nat) (token : Token) :
    (token.shift count).operator? = token.operator? := by
  cases token <;> rfl

/-! ## White space as lexemes -/

namespace Lexeme

variable {rest : List Char} {reading : Reading}

/-- White space other than blanks and line breaks stands in no operator. -/
theorem operatorAt_of_isBlank {inWord : Bool} {c : Char} (blank : isBlank c = true)
    (newline : c ≠ '\n') : operatorAt inWord (c :: rest) = none := by
  have fronts : ∀ entry ∈ numberedSpellings ++ operatorSpellings,
      entry.1.head?.all (fun c => c == '\n' || !isBlank c) = true := by decide
  cases spelled : operatorAt inWord (c :: rest) with
  | none => rfl
  | some entry =>
      have member := operatorAt_spelling spelled
      have fits := List.find?_some spelled
      have before : entry.1 <+: c :: rest := List.isPrefixOf_iff_prefix.1 fits
      have positive := length_pos_of_spelling member
      rcases entry with ⟨_ | ⟨d, spelling⟩, kind⟩
      · exact absurd positive (Nat.lt_irrefl 0)
      · have solid : (d == '\n' || !isBlank d) = true := fronts _ member
        rw [(List.cons_prefix_cons.1 before).1, blank] at solid
        simp [newline] at solid

theorem read_newline (inWord : Bool) (rest : List Char) :
    read inWord '\n' rest = .ok ⟨.operator .newline, 1, Nat.one_pos⟩ := by
  cases inWord <;> rfl

/-- Other white space is read as part of a word. -/
theorem read_of_isBlank {inWord : Bool} {c : Char} (blank : isBlank c = true)
    (wide : ¬ (c = ' ' ∨ c = '\t')) (newline : c ≠ '\n') :
    read inWord c rest = .ok ⟨.plain [c], 1, Nat.one_pos⟩ := by
  cases front inWord c with
  | blank narrow => exact absurd narrow wide
  | backslash => cases blank
  | singleQuote => cases blank
  | doubleQuote => cases blank
  | hash => cases blank
  | dollar => cases blank
  | other plain =>
      rw [plain, readPlain, operatorAt_of_isBlank blank newline]

end Lexeme

namespace Scan

variable {scan after : Scan} {chars behind blanks : List Char} {tokens : List Token}

theorem Reads.trans {last : Scan} {rest : List Char} (first : Reads scan chars after behind)
    (second : Reads after behind last rest) : Reads scan chars last rest := by
  induction first with
  | done => exact second
  | step found _ inductionHypothesis => exact .step found (inductionHypothesis second)

/-- What one character of white space makes of a scan: it ends the word in progress, maybe with
a line break, or it goes on with the word. -/
inductive BlankStep (scan : Scan) (c : Char) : Prop where
  | passing {reading : Lexeme.Reading} {breaks : List Token}
      (read : ∀ rest, Lexeme.read scan.draft.isSome c rest = .ok reading)
      (width : reading.width = 1) (newlines : ∀ token ∈ breaks, token.isNewline)
      (step : scan.advance reading = ⟨scan.position + 1, none, breaks ++ scan.closedTokens⟩)
  | extending {reading : Lexeme.Reading} {draft : Draft}
      (read : ∀ rest, Lexeme.read scan.draft.isSome c rest = .ok reading)
      (width : reading.width = 1) (opened : (scan.advance reading).draft = some draft)
      (start : draft.start = scan.openDraft.start)

theorem blankStep (scan : Scan) {c : Char} (blank : isBlank c = true) : BlankStep scan c := by
  by_cases narrow : c = ' ' ∨ c = '\t'
  · have step : scan.advance ⟨.blank, 1, Nat.one_pos⟩ =
        ⟨scan.position + 1, none, [] ++ scan.closedTokens⟩ := rfl
    exact .passing (Lexeme.read_blank scan.draft.isSome narrow) rfl (by simp) step
  · by_cases newline : c = '\n'
    · have step : scan.advance ⟨.operator .newline, 1, Nat.one_pos⟩ =
          ⟨scan.position + 1, none,
            [.operator .newline scan.position (scan.position + 1)] ++ scan.closedTokens⟩ := rfl
      refine .passing ?_ rfl ?_ step
      · rw [newline]
        exact Lexeme.read_newline scan.draft.isSome
      · intro token member
        rw [List.mem_singleton.1 member]
        rfl
    · exact .extending (fun rest => Lexeme.read_of_isBlank blank narrow newline) rfl rfl rfl

/-- Where no word reaches into white space, a scan passes through it and finds line breaks. -/
theorem reads_blanks (closed : scan.draft = none)
    (finished : scan.finish (blanks ++ behind) = .ok tokens)
    (blank : ∀ c ∈ blanks, isBlank c = true)
    (clear : ∀ word, .word word ∈ tokens →
      word.stop ≤ scan.position ∨ scan.position + blanks.length ≤ word.start) :
    ∃ breaks, (∀ token ∈ breaks, token.isNewline) ∧
      Reads scan (blanks ++ behind)
        ⟨scan.position + blanks.length, none, breaks ++ scan.tokens⟩ behind := by
  induction blanks generalizing scan with
  | nil =>
      rcases scan with ⟨position, draft, found⟩
      cases closed
      exact ⟨[], by simp, .done⟩
  | cons c blanks inductionHypothesis =>
      have later := fun other member => blank other (List.mem_cons_of_mem c member)
      have ahead : scan.position + 1 + blanks.length = scan.position + (c :: blanks).length := by
        rw [List.length_cons]
        omega
      have same : scan.closedTokens = scan.tokens := by rw [closedTokens, closed]
      cases blankStep scan (blank c List.mem_cons_self) with
      | @passing reading breaks read width newlines step =>
          have clearAhead : ∀ word, .word word ∈ tokens →
              word.stop ≤ scan.position + 1 ∨ scan.position + 1 + blanks.length ≤ word.start := by
            intro word member
            rw [ahead]
            exact (clear word member).imp_left fun stop => Nat.le_succ_of_le stop
          rw [List.cons_append, finish_cons (read _), step, width] at finished
          rcases inductionHypothesis rfl finished later clearAhead with
            ⟨more, moreNewlines, onward⟩
          refine ⟨more ++ breaks, ?_, .step (read _) ?_⟩
          · exact List.forall_mem_append.2 ⟨moreNewlines, newlines⟩
          · rw [step, width, ← ahead, List.append_assoc, ← same]
            exact onward
      | extending read width opened start =>
          rw [List.cons_append, finish_cons (read _)] at finished
          rcases word_of_draft opened finished with ⟨word, more, found, began, stop⟩
          have started : word.start = scan.position := by
            rw [began, start, openDraft, closed]
            rfl
          have := clear word (by rw [found]; simp)
          rw [position_advance, width] at stop
          rw [List.length_cons] at this
          omega

theorem finish_blanks_of_closed (closed : scan.draft = none)
    (finished : scan.finish blanks = .ok tokens) (blank : ∀ c ∈ blanks, isBlank c = true)
    (clear : ∀ word, .word word ∈ tokens → word.stop ≤ scan.position) :
    ∃ breaks, (∀ token ∈ breaks, token.isNewline) ∧ tokens = scan.tokens.reverse ++ breaks := by
  rw [← List.append_nil blanks] at finished
  rcases reads_blanks closed finished blank fun word member => .inl (clear word member) with
    ⟨breaks, newlines, reads⟩
  rw [reads.finish_eq, finish_nil] at finished
  cases finished
  refine ⟨breaks.reverse, fun token member => newlines token (List.mem_reverse.1 member), ?_⟩
  rw [closedTokens, List.reverse_append]

/-- Where no word reaches into the white space at the end of a line, nothing but line breaks
is found there. -/
theorem finish_blanks (finished : scan.finish blanks = .ok tokens)
    (blank : ∀ c ∈ blanks, isBlank c = true)
    (clear : ∀ word, .word word ∈ tokens → word.stop ≤ scan.position) :
    ∃ breaks, (∀ token ∈ breaks, token.isNewline) ∧
      tokens = scan.closedTokens.reverse ++ breaks := by
  cases blanks with
  | nil =>
      rw [finish_nil] at finished
      cases finished
      exact ⟨[], by simp, by simp⟩
  | cons c blanks =>
      cases blankStep scan (blank c List.mem_cons_self) with
      | @passing reading breaks read width newlines step =>
          have later := fun other member => blank other (List.mem_cons_of_mem c member)
          rw [finish_cons (read _), step, width] at finished
          rcases finish_blanks_of_closed rfl finished later fun word member =>
            Nat.le_succ_of_le (clear word member) with ⟨more, moreNewlines, same⟩
          refine ⟨breaks.reverse ++ more, ?_, ?_⟩
          · refine List.forall_mem_append.2 ⟨fun token member => ?_, moreNewlines⟩
            exact newlines token (List.mem_reverse.1 member)
          · rw [same, List.reverse_append, List.append_assoc]
      | extending read width opened start =>
          rw [finish_cons (read _)] at finished
          rcases word_of_draft opened finished with ⟨word, more, found, -, stop⟩
          have := clear word (by rw [found]; simp)
          rw [position_advance, width] at stop
          omega

/-- No operator reaches from other characters into white space. -/
theorem width_le_of_operator {inWord : Bool} {c : Char} {front spelling : List Char}
    {kind : Operator} (blank : ∀ c ∈ blanks, isBlank c = true)
    (spelled : Lexeme.operatorAt inWord (c :: (front ++ blanks)) = some (spelling, kind)) :
    spelling.length ≤ (c :: front).length := by
  have solid : ∀ entry ∈ Lexeme.numberedSpellings ++ Lexeme.operatorSpellings,
      entry.1.tail.all (fun c => !isBlank c) = true := by decide
  have member := Lexeme.operatorAt_spelling spelled
  have fits := List.find?_some spelled
  have before : spelling <+: c :: (front ++ blanks) := List.isPrefixOf_iff_prefix.1 fits
  refine Nat.le_of_not_lt fun longer => ?_
  rcases before with ⟨behind, whole⟩
  cases spelling with
  | nil => exact absurd longer (Nat.not_lt_zero _)
  | cons d spelling =>
      rw [List.cons_append] at whole
      have fronts : (spelling ++ behind).take (front.length + 1) =
          (front ++ blanks).take (front.length + 1) := by
        rw [(List.cons.inj whole).2]
      have longEnough : front.length + 1 ≤ spelling.length := Nat.succ_le_of_lt
        (Nat.lt_of_succ_lt_succ longer)
      rw [List.take_append_of_le_length longEnough, List.take_append,
        List.take_of_length_le (Nat.le_succ _), Nat.add_sub_cancel_left] at fronts
      cases blanks with
      | nil =>
          have lengths := congrArg List.length fronts
          rw [List.length_take_of_le longEnough] at lengths
          simp only [List.take_nil, List.append_nil] at lengths
          omega
      | cons e blanks =>
          have inside : e ∈ spelling := by
            refine List.mem_of_mem_take (i := front.length + 1) ?_
            rw [fronts]
            simp
          have visible := List.all_eq_true.1 (solid (d :: spelling, kind) member) e inside
          rw [blank e List.mem_cons_self] at visible
          cases visible

/-- A comment that reaches into the white space is the comment that ends before it. -/
theorem finish_comment {front : List Char} (closed : scan.draft = none)
    (finished : scan.finish ('#' :: (front ++ blanks)) = .ok tokens)
    (reaches : front.length < ((front ++ blanks).takeWhile (· != '\n')).length)
    (blank : ∀ c ∈ blanks, isBlank c = true)
    (clear : ∀ word, .word word ∈ tokens → word.stop ≤ scan.position + front.length + 1) :
    ∃ breaks, scan.finish ('#' :: front) = .ok scan.closedTokens.reverse ∧
      (∀ token ∈ breaks, token.isNewline) ∧ tokens = scan.closedTokens.reverse ++ breaks := by
  have silent : front.takeWhile (· != '\n') = front := by
    refine (List.takeWhile_prefix _).eq_of_length ?_
    refine Decidable.byContradiction fun shorter => ?_
    rw [List.takeWhile_append, if_neg shorter] at reaches
    exact absurd (List.takeWhile_prefix _).length_le (Nat.not_le_of_lt reaches)
  have read : ∀ rest, Lexeme.read scan.draft.isSome '#' rest =
      .ok ⟨.comment, (rest.takeWhile (· != '\n')).length + 1, Nat.succ_pos _⟩ := by
    intro rest
    rw [closed]
    exact Lexeme.read_hash rest
  have same : ∀ position, ({ scan with position := position } : Scan).closedTokens =
      scan.closedTokens := by
    intro position
    rw [closedTokens, closedTokens, closed]
  rw [finish_cons (read _), List.drop_succ_cons, List.drop_append,
    List.drop_eq_nil_of_le (Nat.le_of_lt reaches), List.nil_append] at finished
  rcases finish_blanks finished (fun c member => blank c (List.mem_of_mem_drop member))
    (fun word member => Nat.le_trans (clear word member) (by
      rw [position_advance]
      simp only
      omega)) with ⟨breaks, newlines, whole⟩
  simp only [advance, same] at whole
  refine ⟨breaks, ?_, newlines, whole⟩
  rw [finish_cons (read front), silent, List.drop_succ_cons, List.drop_length, finish_nil]
  simp only [advance, same]

/-- A lexeme that reaches into the white space is a comment, since no word reaches there and no
joined line is cut. -/
theorem finish_of_reaching {front : List Char} {c : Char} {reading : Lexeme.Reading}
    (found : Lexeme.read scan.draft.isSome c (front ++ blanks) = .ok reading)
    (reaches : (c :: front).length < reading.width)
    (finished : scan.finish (c :: (front ++ blanks)) = .ok tokens)
    (blank : ∀ c ∈ blanks, isBlank c = true)
    (clear : ∀ word, .word word ∈ tokens → word.stop ≤ scan.position + (c :: front).length)
    (uncut : ∀ after rest, Reads scan (c :: (front ++ blanks)) after ('\\' :: '\n' :: rest) →
      after.position + 1 ≠ scan.position + (c :: front).length) :
    ∃ found breaks, scan.finish (c :: front) = .ok found ∧
      (∀ token ∈ breaks, token.isNewline) ∧ tokens = found ++ breaks := by
  have noWord : ∀ draft, (scan.advance reading).draft ≠ some draft := by
    intro draft opened
    rw [finish_cons found] at finished
    rcases word_of_draft opened finished with ⟨word, more, same, -, stop⟩
    have := clear word (by rw [same]; simp)
    rw [position_advance] at stop
    omega
  cases Lexeme.origin found with
  | blank _ _ width =>
      rw [width, List.length_cons] at reaches
      omega
  | @joint first more behind _ width =>
      rw [width, List.length_cons] at reaches
      have nothing : front = [] := List.length_eq_zero_iff.1 (by omega)
      refine absurd ?_ (uncut scan more ?_)
      · rw [nothing]
        rfl
      · rw [first, behind]
        exact .done
  | comment first outside lexeme width =>
      rw [width, List.length_cons, Nat.add_lt_add_iff_right] at reaches
      rw [Option.isSome_eq_false_iff, Option.isNone_iff_eq_none] at outside
      rw [first] at finished
      rw [List.length_cons] at clear
      rcases finish_comment outside finished reaches blank fun word member =>
        Nat.le_trans (clear word member) (by omega) with ⟨breaks, whole, holds⟩
      exact ⟨_, breaks, by rw [first]; exact whole, holds⟩
  | operator spelled _ width =>
      rw [width] at reaches
      exact absurd reaches (Nat.not_lt_of_le (width_le_of_operator blank spelled))
  | plain lexeme => exact absurd (by rw [advance, lexeme]) (noWord _)
  | quoted lexeme => exact absurd (by rw [advance, lexeme]) (noWord _)

/-- Up to white space at its end, a line is scanned to what it is scanned to with it, less line
breaks, provided that no word reaches into the white space and no joined line is cut. -/
theorem finish_front {front : List Char} (finished : scan.finish (front ++ blanks) = .ok tokens)
    (blank : ∀ c ∈ blanks, isBlank c = true)
    (clear : ∀ word, .word word ∈ tokens → word.stop ≤ scan.position + front.length)
    (uncut : ∀ after rest, Reads scan (front ++ blanks) after ('\\' :: '\n' :: rest) →
      after.position + 1 ≠ scan.position + front.length) :
    ∃ found breaks, scan.finish front = .ok found ∧ (∀ token ∈ breaks, token.isNewline) ∧
      tokens = found ++ breaks := by
  generalize whole : front ++ blanks = chars at finished uncut
  -- The lexemes of the whole line are those of its front up to the one that reaches the end.
  fun_induction finish scan chars generalizing front with
  | case1 scan =>
      rcases List.append_eq_nil_iff.1 whole with ⟨rfl, rfl⟩
      exact ⟨tokens, [], by rw [finish_nil]; exact finished, by simp, by simp⟩
  | case2 scan c rest error failed => cases finished
  | case3 scan c rest reading found inductionHypothesis =>
      rw [← finish_cons found] at finished
      cases front with
      | nil =>
          rw [List.nil_append] at whole
          rw [← whole] at finished
          rcases finish_blanks finished blank clear with ⟨breaks, newlines, same⟩
          exact ⟨_, breaks, finish_nil, newlines, same⟩
      | cons d front =>
          rw [List.cons_append] at whole
          cases whole
          by_cases fits : reading.width ≤ (c :: front).length
          · have read := Lexeme.read_append found fits
            have dropped : (c :: (front ++ blanks)).drop reading.width =
                (c :: front).drop reading.width ++ blanks := by
              rw [← List.cons_append, List.drop_append_of_le_length fits]
            have ahead : (scan.advance reading).position +
                ((c :: front).drop reading.width).length =
                scan.position + (c :: front).length := by
              rw [position_advance, List.length_drop]
              omega
            rw [finish_cons found, dropped] at finished
            rw [dropped] at inductionHypothesis
            have uncutAhead : ∀ after rest, Reads (scan.advance reading)
                ((c :: front).drop reading.width ++ blanks) after ('\\' :: '\n' :: rest) →
                after.position + 1 ≠ (scan.advance reading).position +
                  ((c :: front).drop reading.width).length := by
              intro after rest reads
              rw [ahead]
              exact uncut after rest (.step found (by rw [dropped]; exact reads))
            rcases inductionHypothesis (by rw [ahead]; exact clear) rfl finished uncutAhead with
              ⟨inner, breaks, innerFinished, holds⟩
            exact ⟨inner, breaks, by rw [finish_cons read]; exact innerFinished, holds⟩
          · exact finish_of_reaching found (Nat.lt_of_not_le fits) finished blank clear uncut

end Scan

/-! ## Trimmed stretches -/

/-- How much white space trimming takes off the front. -/
def keptStart (stretch : List Char) : Nat :=
  (stretch.takeWhile isBlank).length

/-- The offset behind what trimming keeps. -/
def keptStop (stretch : List Char) : Nat :=
  keptStart stretch + (trimChars stretch).length

/-- Trimming takes nothing off the words of a stretch, and it takes the line break of no
joined line while it keeps the backslash. -/
structure TrimsCleanly (stretch : List Char) : Prop where
  words : ∀ tokens, Scan.initial.finish stretch = .ok tokens → ∀ word, .word word ∈ tokens →
    keptStart stretch ≤ word.start ∧ word.stop ≤ keptStop stretch
  joints : ∀ after rest, Scan.Reads .initial stretch after ('\\' :: '\n' :: rest) →
    after.position + 1 ≠ keptStop stretch

theorem isBlank_of_mem_takeWhile {c : Char} {chars : List Char}
    (member : c ∈ chars.takeWhile isBlank) : isBlank c = true :=
  List.all_eq_true.1 List.all_takeWhile c member

/-- What trimming takes off is white space. -/
theorem exists_trim (chars : List Char) :
    ∃ trailing, (∀ c ∈ trailing, isBlank c = true) ∧
      chars = chars.takeWhile isBlank ++ (trimChars chars ++ trailing) := by
  refine ⟨((trimStart chars).reverse.takeWhile isBlank).reverse, ?_, ?_⟩
  · intro c member
    exact isBlank_of_mem_takeWhile (List.mem_reverse.1 member)
  · rw [trimChars, trimEnd, ← List.reverse_append, List.takeWhile_append_dropWhile,
      List.reverse_reverse, trimStart, List.takeWhile_append_dropWhile]

/-- A stretch that trimming leaves as it is, is trimmed cleanly. -/
theorem trimsCleanly_of_eq {stretch : List Char} (same : trimChars stretch = stretch) :
    TrimsCleanly stretch := by
  have start : keptStart stretch = 0 := by
    rcases exists_trim stretch with ⟨trailing, -, whole⟩
    have lengths := congrArg List.length whole
    rw [List.length_append, List.length_append, same] at lengths
    rw [keptStart]
    omega
  have stop : keptStop stretch = stretch.length := by
    rw [keptStop, start, same, Nat.zero_add]
  refine ⟨fun tokens finished word member => ⟨?_, ?_⟩, fun after rest reads => ?_⟩
  · rw [start]
    exact Nat.zero_le _
  · rw [stop]
    exact Scan.stop_le_length finished member
  · rcases reads.consumed with ⟨front, whole, position⟩
    rw [stop, position, whole, List.length_append, List.length_cons, List.length_cons]
    change 0 + front.length + 1 ≠ _
    omega

/-- A stretch that is trimmed cleanly is scanned to the tokens of the whole stretch, less
line breaks at its two ends. -/
theorem scan_trim {stretch : List Char} {tokens : List Token} (clean : TrimsCleanly stretch)
    (finished : Scan.initial.finish stretch = .ok tokens) :
    ∃ leading middle trailing, (∀ token ∈ leading ++ trailing, token.isNewline) ∧
      Scan.initial.finish (trimChars stretch) = .ok middle ∧
      tokens = leading ++ middle.map (Token.shift (keptStart stretch)) ++ trailing := by
  rcases exists_trim stretch with ⟨blanks, trailingBlank, whole⟩
  have leadingBlank : ∀ c ∈ stretch.takeWhile isBlank, isBlank c = true :=
    fun c member => isBlank_of_mem_takeWhile member
  have words := clean.words tokens finished
  have joints := clean.joints
  rw [keptStop] at words joints
  rw [keptStart] at words joints ⊢
  generalize stretch.takeWhile isBlank = front at whole leadingBlank words joints ⊢
  generalize trimChars stretch = kept at whole words joints ⊢
  rw [whole] at finished joints
  rcases Scan.reads_blanks rfl finished leadingBlank fun word member =>
      .inr (by rw [Scan.initial, Nat.zero_add]; exact (words word member).1) with
    ⟨leading, leadingBreaks, reads⟩
  have onward : Scan.Reads .initial (front ++ (kept ++ blanks))
      (Scan.initial.rebased front.length leading) (kept ++ blanks) := by
    simpa [Scan.rebased, Scan.initial] using reads
  rw [onward.finish_eq, Scan.finish_rebased] at finished
  cases later : Scan.initial.finish (kept ++ blanks) with
  | error error =>
      rw [later] at finished
      cases finished
  | ok inner =>
      rw [later] at finished
      cases finished
      have innerWords : ∀ word, .word word ∈ inner →
          word.stop ≤ Scan.initial.position + kept.length := by
        intro word member
        have shifted := (words (word.shift front.length) (List.mem_append_right _
          (List.mem_map.2 ⟨.word word, member, rfl⟩))).2
        change word.stop + front.length ≤ front.length + kept.length at shifted
        change word.stop ≤ 0 + kept.length
        omega
      have innerJoints : ∀ after rest,
          Scan.Reads .initial (kept ++ blanks) after ('\\' :: '\n' :: rest) →
          after.position + 1 ≠ Scan.initial.position + kept.length := by
        intro after rest more
        have far := joints _ rest (onward.trans (more.elsewhere front.length leading))
        change after.position + front.length + 1 ≠ front.length + kept.length at far
        change after.position + 1 ≠ 0 + kept.length
        omega
      rcases Scan.finish_front later trailingBlank innerWords innerJoints with
        ⟨middle, trailing, scanned, trailingBreaks, rfl⟩
      refine ⟨leading.reverse, middle, trailing.map (Token.shift front.length), ?_, scanned, ?_⟩
      · intro token member
        rcases List.mem_append.1 member with before | behind
        · exact leadingBreaks token (List.mem_reverse.1 before)
        · rcases List.mem_map.1 behind with ⟨inside, found, rfl⟩
          exact (Token.operator?_shift _ _).trans (trailingBreaks inside found)
      · rw [List.append_assoc, ← List.map_append]

end VirtualShell
