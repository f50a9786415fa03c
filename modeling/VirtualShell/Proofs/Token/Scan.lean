import VirtualShell.Proofs.Token.Lexeme
import VirtualShell.Token.Scan

/-!
Contract: how a scan passes through a line, and what a stretch of the line is scanned to.

Owns:
- `Token.shift`, a token with its offsets counted from further left;
- `Scan.Reads`, how far a scan gets by reading lexemes;
- `finish_rebased`: a scan does not depend on its offset, nor on the tokens before it;
- where tokens start and stop: `exists_start` and `exists_stop`;
- `scan_slice`: the stretch of a line from the start of one of its tokens to the end of
  another is scanned to exactly the tokens between them.
-/

namespace VirtualShell

/-- A word whose offsets are counted from `count` characters further left. -/
def Word.shift (count : Nat) (word : Word) : Word :=
  { word with start := word.start + count, stop := word.stop + count }

/-- A token whose offsets are counted from `count` characters further left. -/
def Token.shift (count : Nat) : Token → Token
  | .word found => .word (found.shift count)
  | .operator kind start stop => .operator kind (start + count) (stop + count)

theorem Token.stop_shift (count : Nat) (token : Token) :
    (token.shift count).stop = token.stop + count := by
  cases token <;> rfl

theorem Token.shift_shift (count more : Nat) (token : Token) :
    (token.shift count).shift more = token.shift (count + more) := by
  cases token <;> simp [Token.shift, Word.shift, Nat.add_assoc]

namespace Scan

variable {scan after : Scan} {chars behind rest : List Char} {tokens : List Token}

theorem finish_nil : scan.finish [] = .ok scan.closedTokens.reverse := by
  rw [finish]

theorem finish_cons {c : Char} {reading : Lexeme.Reading}
    (found : Lexeme.read scan.draft.isSome c rest = .ok reading) :
    scan.finish (c :: rest) = (scan.advance reading).finish ((c :: rest).drop reading.width) := by
  rw [finish, found]

/-- What a lexeme makes of a scan: it leaves the word in progress as it is, ends it, ends it
with an operator behind it, or goes on with it. -/
inductive Advance (scan : Scan) (reading : Lexeme.Reading) : Scan → Prop where
  | quiet (lexeme : reading.lexeme = .joint ∨ reading.lexeme = .comment) :
      Advance scan reading { scan with position := scan.position + reading.width }
  | closing (lexeme : reading.lexeme = .blank) :
      Advance scan reading ⟨scan.position + reading.width, none, scan.closedTokens⟩
  | operator {kind : Operator} (lexeme : reading.lexeme = .operator kind) :
      Advance scan reading ⟨scan.position + reading.width, none,
        .operator kind scan.position (scan.position + reading.width) :: scan.closedTokens⟩
  | extending {draft : Draft}
      (start : draft.start = (scan.draft.map Draft.start).getD scan.position) :
      Advance scan reading ⟨scan.position + reading.width, some draft, scan.tokens⟩

theorem advance_spec (scan : Scan) (reading : Lexeme.Reading) :
    Advance scan reading (scan.advance reading) := by
  have start : scan.openDraft.start = (scan.draft.map Draft.start).getD scan.position := by
    unfold openDraft
    cases scan.draft <;> rfl
  unfold advance
  cases lexeme : reading.lexeme with
  | blank => exact .closing lexeme
  | joint => exact .quiet (.inl lexeme)
  | comment => exact .quiet (.inr lexeme)
  | plain text => exact .extending start
  | quoted segments => exact .extending start
  | operator kind => exact .operator lexeme

theorem position_advance (scan : Scan) (reading : Lexeme.Reading) :
    (scan.advance reading).position = scan.position + reading.width := by
  have spec := advance_spec scan reading
  generalize scan.advance reading = next at spec ⊢
  cases spec <;> rfl

/-! ## How far a scan gets -/

/-- By reading lexemes a scan gets from one place of a line to another. -/
inductive Reads : Scan → List Char → Scan → List Char → Prop where
  | done {scan : Scan} {chars : List Char} : Reads scan chars scan chars
  | step {scan after : Scan} {c : Char} {rest behind : List Char} {reading : Lexeme.Reading}
      (found : Lexeme.read scan.draft.isSome c rest = .ok reading)
      (onward : Reads (scan.advance reading) ((c :: rest).drop reading.width) after behind) :
      Reads scan (c :: rest) after behind

theorem Reads.finish_eq (reads : Reads scan chars after behind) :
    scan.finish chars = after.finish behind := by
  induction reads with
  | done => rfl
  | step found onward inductionHypothesis => rw [finish_cons found, inductionHypothesis]

/-- The characters that have been read are the front of the line. -/
theorem Reads.consumed (reads : Reads scan chars after behind) :
    ∃ front, chars = front ++ behind ∧ after.position = scan.position + front.length := by
  induction reads with
  | done => exact ⟨[], rfl, rfl⟩
  | @step scan after c rest behind reading found onward inductionHypothesis =>
      rcases inductionHypothesis with ⟨front, same, position⟩
      have fits : reading.width ≤ (c :: rest).length := Lexeme.width_le_length found
      refine ⟨(c :: rest).take reading.width ++ front, ?_, ?_⟩
      · rw [List.append_assoc, ← same, List.take_append_drop]
      · rw [position, position_advance, List.length_append, List.length_take_of_le fits]
        omega

/-- What follows the characters that are read does not matter. -/
theorem Reads.of_append {front : List Char}
    (reads : Reads scan (front ++ behind) after (rest ++ behind)) :
    Reads scan front after rest := by
  generalize whole : front ++ behind = chars at reads
  generalize left : rest ++ behind = remaining at reads
  induction reads generalizing front with
  | done =>
      rw [← left] at whole
      rw [List.append_cancel_right whole]
      exact .done
  | @step scan after c others remaining reading found onward inductionHypothesis =>
      rcases onward.consumed with ⟨inner, same, -⟩
      have within : reading.width ≤ (c :: others).length := Lexeme.width_le_length found
      have lengths := congrArg List.length same
      rw [← whole, List.length_append] at within
      rw [← left, ← whole] at lengths
      simp only [List.length_drop, List.length_append] at lengths
      have positive := reading.width_pos
      cases front with
      | nil =>
          rw [List.length_nil] at within lengths
          omega
      | cons d front =>
          have fits : reading.width ≤ (d :: front).length := by omega
          rw [List.cons_append] at whole
          cases whole
          refine .step (Lexeme.read_append found fits) (inductionHypothesis ?_ left)
          rw [← List.cons_append, List.drop_append_of_le_length fits]

/-! ## Scans elsewhere -/

/-- A draft whose offsets are counted from `count` characters further left. -/
def shiftDraft (count : Nat) (draft : Draft) : Draft :=
  { draft with start := draft.start + count }

/-- The same scan `count` characters further right, behind the tokens `earlier`. -/
def rebased (count : Nat) (earlier : List Token) (scan : Scan) : Scan :=
  ⟨scan.position + count, scan.draft.map (shiftDraft count),
    scan.tokens.map (Token.shift count) ++ earlier⟩

section Rebased

variable (count : Nat) (earlier : List Token)

theorem closedTokens_rebased (scan : Scan) :
    (scan.rebased count earlier).closedTokens =
      scan.closedTokens.map (Token.shift count) ++ earlier := by
  rcases scan with ⟨position, _ | draft, tokens⟩ <;> rfl

theorem openDraft_rebased (scan : Scan) :
    (scan.rebased count earlier).openDraft = shiftDraft count scan.openDraft := by
  rcases scan with ⟨position, _ | draft, tokens⟩ <;> rfl

theorem advance_rebased (scan : Scan) (reading : Lexeme.Reading) :
    (scan.rebased count earlier).advance reading =
      (scan.advance reading).rebased count earlier := by
  have next : scan.position + count + reading.width = scan.position + reading.width + count := by
    omega
  unfold advance
  cases reading.lexeme with
  | blank =>
      simp only [closedTokens_rebased]
      simp only [rebased, next]
      rfl
  | joint => simp only [rebased, next]
  | comment => simp only [rebased, next]
  | plain text =>
      simp only [openDraft_rebased]
      simp only [rebased, next]
      rfl
  | quoted segments =>
      simp only [openDraft_rebased]
      simp only [rebased, next]
      rfl
  | operator kind =>
      simp only [closedTokens_rebased]
      simp only [rebased, next]
      rfl

/-- A scan depends neither on its offset nor on the tokens before it. -/
theorem finish_rebased (scan : Scan) (chars : List Char) :
    (scan.rebased count earlier).finish chars =
      (scan.finish chars).map fun tokens =>
        earlier.reverse ++ tokens.map (Token.shift count) := by
  have drafted : (scan.rebased count earlier).draft.isSome = scan.draft.isSome := by
    rw [rebased, Option.isSome_map]
  fun_induction finish scan chars with
  | case1 scan =>
      rw [finish_nil, closedTokens_rebased, List.reverse_append, ← List.map_reverse]
      rfl
  | case2 scan c rest error failed =>
      rw [finish, drafted, failed]
      rfl
  | case3 scan c rest reading found inductionHypothesis =>
      have read : Lexeme.read (scan.rebased count earlier).draft.isSome c rest = .ok reading := by
        rw [drafted, found]
      rw [finish_cons read, advance_rebased, inductionHypothesis]
      rw [rebased, Option.isSome_map]

/-- Elsewhere a scan gets as far. -/
theorem Reads.elsewhere (reads : Reads scan chars after behind) :
    Reads (scan.rebased count earlier) chars (after.rebased count earlier) behind := by
  induction reads with
  | done => exact .done
  | @step scan after c rest behind reading found onward inductionHypothesis =>
      have read : Lexeme.read (scan.rebased count earlier).draft.isSome c rest = .ok reading := by
        rw [rebased, Option.isSome_map]
        exact found
      refine .step read ?_
      rw [advance_rebased]
      exact inductionHypothesis

end Rebased

/-- A token starts here: no word is in progress, or an operator ends it. -/
def StartsToken (scan : Scan) (chars : List Char) : Prop :=
  scan.draft = none ∨ ∃ c rest reading kind, chars = c :: rest ∧
    Lexeme.read scan.draft.isSome c rest = .ok reading ∧ reading.lexeme = .operator kind

theorem rebased_initial (closed : scan.draft = none) :
    scan = initial.rebased scan.position scan.tokens := by
  rcases scan with ⟨position, draft, tokens⟩
  simp only at closed
  rw [closed]
  simp [rebased, initial]

/-- From the start of a token on, a line is scanned as if nothing were before it. -/
theorem finish_of_startsToken (starts : scan.StartsToken chars) :
    scan.finish chars = (initial.finish chars).map fun tokens =>
      scan.closedTokens.reverse ++ tokens.map (Token.shift scan.position) := by
  rcases starts with closed | ⟨c, rest, reading, kind, rfl, found, operator⟩
  · have same := finish_rebased scan.position scan.tokens initial chars
    rw [← rebased_initial closed] at same
    rw [same, closedTokens, closed]
  · have outside : Lexeme.read initial.draft.isSome c rest = .ok reading := by
      cases inWord : scan.draft.isSome with
      | true =>
          rw [inWord] at found
          exact Lexeme.read_of_operator found operator
      | false =>
          rw [inWord] at found
          exact found
    have ahead : scan.advance reading =
        (initial.advance reading).rebased scan.position scan.closedTokens := by
      simp only [advance, operator, rebased, initial, closedTokens, Token.shift, List.map_cons,
        List.map_nil, Option.map_none, Nat.zero_add, Nat.add_comm scan.position]
      rfl
    rw [finish_cons found, finish_cons outside, ahead, finish_rebased]

/-! ## Where tokens start and stop -/

/-- The tokens that a scan has found stay in front. -/
theorem tokens_isPrefix (finished : scan.finish chars = .ok tokens) :
    scan.tokens.reverse <+: tokens := by
  have closed : ∀ scan : Scan, scan.tokens.reverse <+: scan.closedTokens.reverse := by
    intro scan
    unfold closedTokens
    cases scan.draft with
    | none => exact List.prefix_refl _
    | some draft =>
        rw [List.reverse_cons]
        exact List.prefix_append _ _
  fun_induction finish scan chars with
  | case1 scan =>
      cases finished
      exact closed scan
  | case2 scan c rest error failed => cases finished
  | case3 scan c rest reading found inductionHypothesis =>
      have onward := inductionHypothesis finished
      have spec := advance_spec scan reading
      generalize scan.advance reading = next at spec onward
      cases spec with
      | quiet => exact onward
      | closing => exact (closed scan).trans onward
      | operator =>
          rw [List.reverse_cons] at onward
          exact ((closed scan).trans (List.prefix_append _ _)).trans onward
      | extending => exact onward

theorem reverse_closedTokens {draft : Draft} (opened : scan.draft = some draft) :
    scan.closedTokens.reverse = scan.tokens.reverse ++ [.word (draft.word scan.position)] := by
  rw [closedTokens, opened, List.reverse_cons]

/-- A word in progress becomes the next word, and does not end before it has been read. -/
theorem word_of_draft {draft : Draft} (opened : scan.draft = some draft)
    (finished : scan.finish chars = .ok tokens) :
    ∃ word more, tokens = scan.tokens.reverse ++ .word word :: more ∧
      word.start = draft.start ∧ scan.position ≤ word.stop := by
  fun_induction finish scan chars generalizing draft with
  | case1 scan =>
      cases finished
      exact ⟨draft.word scan.position, [], reverse_closedTokens opened, rfl, Nat.le_refl _⟩
  | case2 scan c rest error failed => cases finished
  | case3 scan c rest reading found inductionHypothesis =>
      have front := tokens_isPrefix finished
      have spec := advance_spec scan reading
      generalize scan.advance reading = next at spec front inductionHypothesis finished
      cases spec with
      | quiet =>
          rcases inductionHypothesis opened finished with ⟨word, more, same, start, stop⟩
          exact ⟨word, more, same, start, Nat.le_trans (Nat.le_add_right _ _) stop⟩
      | closing =>
          rw [reverse_closedTokens opened] at front
          rcases front with ⟨more, same⟩
          exact ⟨draft.word scan.position, more, by rw [← same]; simp, rfl, Nat.le_refl _⟩
      | operator =>
          rw [List.reverse_cons, reverse_closedTokens opened] at front
          rcases front with ⟨more, same⟩
          exact ⟨draft.word scan.position, _, by rw [← same]; simp; rfl, rfl, Nat.le_refl _⟩
      | @extending longer start =>
          rcases inductionHypothesis rfl finished with ⟨word, more, same, wordStart, stop⟩
          refine ⟨word, more, same, ?_, Nat.le_trans (Nat.le_add_right _ _) stop⟩
          rw [wordStart, start, opened]
          rfl

theorem length_closedTokens {left right : Scan} (drafts : left.draft.isSome = right.draft.isSome)
    (tokens : left.tokens.length = right.tokens.length) :
    left.closedTokens.length = right.closedTokens.length := by
  rcases left with ⟨_, _ | _, _⟩ <;> rcases right with ⟨_, _ | _, _⟩ <;>
    simp_all [closedTokens]

/-- Where a token starts, the scan has found exactly the tokens before it. -/
theorem exists_start (finished : scan.finish chars = .ok tokens) {left right : List Token}
    {token : Token} (split : tokens = left ++ token :: right)
    (later : scan.closedTokens.length ≤ left.length) :
    ∃ after behind, Reads scan chars after behind ∧ after.position = token.start ∧
      after.closedTokens.reverse = left ∧ after.StartsToken behind := by
  fun_induction finish scan chars with
  | case1 scan =>
      cases finished
      have lengths := congrArg List.length split
      simp only [List.length_reverse, List.length_append, List.length_cons] at lengths
      omega
  | case2 scan c rest error failed => cases finished
  | case3 scan c rest reading found inductionHypothesis =>
      by_cases ahead : (scan.advance reading).closedTokens.length ≤ left.length
      · rcases inductionHypothesis finished ahead with ⟨after, behind, reads, holds⟩
        exact ⟨after, behind, .step found reads, holds⟩
      · -- The token starts with this lexeme.
        refine ⟨scan, c :: rest, .done, ?_⟩
        have front := tokens_isPrefix finished
        have opens : ∀ draft, (scan.advance reading).draft = some draft → ∃ word more,
            tokens = (scan.advance reading).tokens.reverse ++ .word word :: more ∧
              word.start = draft.start ∧ (scan.advance reading).position ≤ word.stop :=
          fun draft opened => word_of_draft opened finished
        have spec := advance_spec scan reading
        generalize scan.advance reading = next at spec front ahead opens
        cases spec with
        | quiet =>
            have same : ({ scan with position := scan.position + reading.width } :
                Scan).closedTokens.length = scan.closedTokens.length := length_closedTokens rfl rfl
            rw [same] at ahead
            exact absurd later ahead
        | closing => exact absurd later ahead
        | @operator kind lexeme =>
            rcases front with ⟨more, same⟩
            rw [List.reverse_cons, List.append_assoc, split] at same
            change ¬ scan.closedTokens.length + 1 ≤ left.length at ahead
            have length : left.length = scan.closedTokens.reverse.length := by
              rw [List.length_reverse]
              omega
            have parts := List.append_inj same.symm length
            refine ⟨?_, parts.1.symm, .inr ⟨c, rest, reading, kind, rfl, found, lexeme⟩⟩
            rw [(List.cons.inj parts.2).1]
            rfl
        | @extending draft start =>
            rcases opens draft rfl with ⟨word, more, same, wordStart, -⟩
            change ¬ scan.tokens.length + 1 ≤ left.length at ahead
            change tokens = scan.tokens.reverse ++ .word word :: more at same
            cases inWord : scan.draft with
            | some old =>
                simp only [closedTokens, inWord, List.length_cons] at later
                exact absurd later ahead
            | none =>
                simp only [closedTokens, inWord] at later
                rw [split] at same
                have parts := List.append_inj same (by rw [List.length_reverse]; omega)
                have started : draft.start = scan.position := by rw [start, inWord]; rfl
                refine ⟨?_, ?_, .inl inWord⟩
                · rw [(List.cons.inj parts.2).1]
                  exact (wordStart.trans started).symm
                · rw [closedTokens, inWord]
                  exact parts.1.symm

/-- A word in progress that is the next token stops here, if it ends here. -/
theorem stop_of_draft {draft : Draft} {left right : List Token} {token : Token}
    (opened : scan.draft = some draft)
    (front : scan.closedTokens.reverse <+: left ++ token :: right)
    (length : scan.tokens.length = left.length) :
    scan.position = token.stop ∧ scan.closedTokens.reverse = left ++ [token] := by
  rw [reverse_closedTokens opened] at front ⊢
  rcases front with ⟨more, same⟩
  rw [List.append_assoc] at same
  have parts := List.append_inj same (by rw [List.length_reverse, length])
  rw [parts.1, ← (List.cons.inj parts.2).1]
  exact ⟨rfl, rfl⟩

/-- Where a token stops, the scan has found exactly the tokens up to it. -/
theorem exists_stop (finished : scan.finish chars = .ok tokens) {left right : List Token}
    {token : Token} (split : tokens = left ++ token :: right)
    (later : scan.tokens.length ≤ left.length) :
    ∃ after behind, Reads scan chars after behind ∧ after.position = token.stop ∧
      after.closedTokens.reverse = left ++ [token] := by
  fun_induction finish scan chars with
  | case1 scan =>
      cases finished
      have lengths := congrArg List.length split
      simp only [List.length_reverse, List.length_append, List.length_cons] at lengths
      cases opened : scan.draft with
      | none =>
          simp only [closedTokens, opened] at lengths
          omega
      | some draft =>
          simp only [closedTokens, opened, List.length_cons] at lengths
          exact ⟨scan, [], .done,
            stop_of_draft opened ⟨[], by rw [List.append_nil, split]⟩ (by omega)⟩
  | case2 scan c rest error failed => cases finished
  | case3 scan c rest reading found inductionHypothesis =>
      by_cases ahead : (scan.advance reading).tokens.length ≤ left.length
      · rcases inductionHypothesis finished ahead with ⟨after, behind, reads, holds⟩
        exact ⟨after, behind, .step found reads, holds⟩
      · -- The token stops with this lexeme, or before it.
        have front := tokens_isPrefix finished
        have spec := advance_spec scan reading
        generalize step : scan.advance reading = next at spec front ahead
        cases spec with
        | quiet => exact absurd later ahead
        | extending => exact absurd later ahead
        | closing =>
            change ¬ scan.closedTokens.length ≤ left.length at ahead
            refine ⟨scan, c :: rest, .done, ?_⟩
            cases opened : scan.draft with
            | none =>
                simp only [closedTokens, opened] at ahead
                exact absurd later ahead
            | some draft =>
                simp only [closedTokens, opened, List.length_cons] at ahead
                exact stop_of_draft opened (split ▸ front) (by omega)
        | @operator kind lexeme =>
            change ¬ scan.closedTokens.length + 1 ≤ left.length at ahead
            rw [List.reverse_cons] at front
            by_cases last : left.length = scan.closedTokens.length
            · refine ⟨_, _, .step found .done, ?_⟩
              rcases front with ⟨more, same⟩
              rw [List.append_assoc, split] at same
              have parts := List.append_inj same.symm (by rw [List.length_reverse, last])
              rw [step, parts.1, (List.cons.inj parts.2).1]
              exact ⟨rfl, List.reverse_cons⟩
            · refine ⟨scan, c :: rest, .done, ?_⟩
              cases opened : scan.draft with
              | none =>
                  simp only [closedTokens, opened] at ahead last
                  omega
              | some draft =>
                  simp only [closedTokens, opened, List.length_cons] at ahead last
                  exact stop_of_draft opened (split ▸ (List.prefix_append _ _).trans front)
                    (by omega)

/-! ## Stretches of a line -/

section Stretches

variable {left right : List Token} {token : Token}

/-- From the start of a token on, a line is scanned to this token and those behind it. -/
theorem finish_drop (finished : initial.finish chars = .ok (left ++ token :: right)) :
    ∃ found, initial.finish (chars.drop token.start) = .ok found ∧
      found.map (Token.shift token.start) = token :: right := by
  rcases exists_start finished rfl (Nat.zero_le _) with
    ⟨after, behind, reads, position, before, starts⟩
  rcases reads.consumed with ⟨front, rfl, consumed⟩
  have length : front.length = token.start := by
    rw [← position, consumed]
    exact (Nat.zero_add _).symm
  have scanned := finish_of_startsToken starts
  rw [← reads.finish_eq, finished, before, position] at scanned
  rw [← length, List.drop_left]
  cases found : initial.finish behind with
  | error error =>
      rw [found] at scanned
      cases scanned
  | ok tokens =>
      rw [found] at scanned
      have same := Except.ok.inj scanned
      exact ⟨tokens, rfl, by rw [length]; exact (List.append_cancel_left same).symm⟩

/-- Tokens stop within the line. -/
theorem stop_le_length (finished : initial.finish chars = .ok tokens) (member : token ∈ tokens) :
    token.stop ≤ chars.length := by
  rcases List.append_of_mem member with ⟨left, right, split⟩
  rcases exists_stop finished split (Nat.zero_le _) with ⟨after, behind, reads, position, -⟩
  rcases reads.consumed with ⟨front, rfl, consumed⟩
  rw [← position, consumed, List.length_append]
  change 0 + front.length ≤ _
  omega

/-- Up to the stop of a token, a line is scanned to the tokens up to it. -/
theorem finish_take (finished : initial.finish chars = .ok (left ++ token :: right)) :
    initial.finish (chars.take token.stop) = .ok (left ++ [token]) := by
  rcases exists_stop finished rfl (Nat.zero_le _) with ⟨after, behind, reads, position, before⟩
  rcases reads.consumed with ⟨front, rfl, consumed⟩
  have length : front.length = token.stop := by
    rw [← position, consumed]
    exact (Nat.zero_add _).symm
  have alone : Reads initial front after [] := Reads.of_append reads
  rw [← length, List.take_left, alone.finish_eq, finish_nil, before]

end Stretches

end Scan

/-- The stretch of a line from the start of one of its tokens to the stop of another is
scanned to the tokens from the one to the other. -/
theorem Token.scan_slice {line : String} {left range right : List Token} {first last : Token}
    (scanned : Token.scan line = .ok (left ++ range ++ right)) (front : range.head? = some first)
    (back : range.getLast? = some last) :
    ∃ found, Token.scan (String.ofList
        ((line.toList.drop first.start).take (last.stop - first.start))) = .ok found ∧
      found.map (Token.shift first.start) = range := by
  rcases List.head?_eq_some_iff.1 front with ⟨others, rfl⟩
  rcases List.getLast?_eq_some_iff.1 back with ⟨before, same⟩
  rw [List.append_assoc, List.cons_append] at scanned
  rcases Scan.finish_drop scanned with ⟨found, dropped, shifted⟩
  rw [← List.cons_append, same, List.append_assoc, List.map_eq_append_iff] at shifted
  rcases shifted with ⟨kept, more, rfl, keptShifted, moreShifted⟩
  rcases List.map_eq_cons_iff.1 moreShifted with ⟨final, behind, rfl, finalShifted, -⟩
  have stop : final.stop = last.stop - first.start := by
    rw [← finalShifted, Token.stop_shift, Nat.add_sub_cancel]
  have taken := Scan.finish_take dropped
  rw [stop] at taken
  refine ⟨kept ++ [final], ?_, ?_⟩
  · rw [Token.scan, String.toList_ofList]
    exact taken
  · rw [List.map_append, keptShifted, same, ← finalShifted]
    rfl

end VirtualShell
