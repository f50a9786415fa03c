import Mathlib.Data.List.TakeWhile
import VirtualShell.Proofs.Statement.Layout
import VirtualShell.Proofs.Token.Breaks

/-!
Contract: what a line with line breaks behind it is read as.

Owns:
- `TrailingBreaks`, another source of a line in which its tokens span the same texts, and the
  tokens of line breaks behind them; line breaks that are added to a line are such tokens;
- `AfterBreaks`, what becomes of a statement when line breaks follow it, and `afterBreaks_of_read`.

Ordinary commands stay as they are. Behind a compound statement and behind a function definition
the second line break is taken for a text to run, an empty one. A closing brace that counts only
as the last token of the line does not count any more.
-/

namespace VirtualShell.Statement

open VirtualShell.Text

/-- Line breaks stand behind a line, and the texts of the line are the same in the other
source. -/
structure TrailingBreaks (source other : List Char) (line breaks : List Token) : Prop where
  newline : ∀ token ∈ breaks, token.isNewline
  spans : ∀ range, range <:+: line → spanText other range = spanText source range
  tails : ∀ token, textFrom other token = textFrom source token
  empty : ∀ token ∈ breaks, textFrom other token = ""

/-- An empty text stands behind a compound statement or a function definition. -/
structure GainsBlank (statement other : Statement) : Prop where
  compound : ∀ pipelines, statement.body ≠ .pipelines pipelines
  before : statement.tail = none
  behind : ∃ joint, joint.isSeparator = true ∧ other = ⟨statement.body, some ⟨joint, ""⟩⟩

/-- What becomes of a statement when line breaks follow it. -/
inductive AfterBreaks (statement : Statement) : Except SyntaxError Statement → Prop where
  | same : AfterBreaks statement (.ok statement)
  | blank {other : Statement} (gains : GainsBlank statement other) :
      AfterBreaks statement (.ok other)
  | unclosed {name text : String} (body : statement.body = .function name text) :
      AfterBreaks statement (.error .unexpectedEnd)

/-! ## Texts -/

theorem trimEnd_append_blanks {blanks : List Char} (blank : ∀ c ∈ blanks, isBlank c = true)
    (chars : List Char) : trimEnd (chars ++ blanks) = trimEnd chars := by
  unfold trimEnd
  rw [List.reverse_append,
    List.dropWhile_append_of_pos fun c member => blank c (List.mem_reverse.1 member)]

/-- White space at the end is trimmed anyway. -/
theorem trimChars_append_blanks {blanks : List Char} (blank : ∀ c ∈ blanks, isBlank c = true)
    (chars : List Char) : trimChars (chars ++ blanks) = trimChars chars := by
  unfold trimChars
  rw [trimStart, List.dropWhile_append]
  split
  · rename_i none
    rw [trimStart, List.isEmpty_iff.1 none, List.dropWhile_eq_nil_iff.2 blank]
  · exact trimEnd_append_blanks blank _

theorem textFrom_append_blanks {behind : List Char} (blank : ∀ c ∈ behind, isBlank c = true)
    (source : List Char) (token : Token) :
    textFrom (source ++ behind) token = textFrom source token := by
  unfold textFrom
  rw [List.drop_append,
    trimChars_append_blanks fun c member => blank c (List.mem_of_mem_drop member)]

theorem slice_append {source : List Char} {start stop : Nat} (within : stop ≤ source.length)
    (behind : List Char) : slice (source ++ behind) start stop = slice source start stop := by
  unfold slice
  rw [List.drop_append, List.take_append_of_le_length]
  rw [List.length_drop]
  omega

/-- What stands behind the last token of a range does not matter for its text. -/
theorem spanText_append {source : List Char} {range : List Token}
    (within : ∀ token ∈ range, token.stop ≤ source.length) (behind : List Char) :
    spanText (source ++ behind) range = spanText source range := by
  unfold spanText
  dsimp only
  split
  · rename_i first last _ ends
    have member := (trimSeparators_isInfix range).subset (List.mem_of_getLast? ends)
    rw [slice_append (within last member)]
  · rfl

theorem trailingBreaks_withBreaks {line : String} {tokens : List Token}
    (scanned : Token.scan line = .ok tokens) (count : Nat) :
    TrailingBreaks line.toList (withBreaks line count).toList tokens
      (breakTokens line.toList.length count) := by
  have blank : ∀ c ∈ List.replicate count '\n', isBlank c = true := fun c member =>
    List.eq_of_mem_replicate member ▸ rfl
  rw [toList_withBreaks]
  have tails := textFrom_append_blanks blank line.toList
  have known : ∀ token ∈ breakTokens line.toList.length count,
      token.isNewline ∧ line.toList.length ≤ token.start := by
    intro token member
    obtain ⟨start, inside, rfl⟩ := List.mem_map.1 member
    exact ⟨rfl, (List.mem_range'_1.1 inside).1⟩
  refine ⟨fun token member => (known token member).1, ?_, tails, ?_⟩
  · intro range inside
    apply spanText_append
    exact fun token member => Scan.stop_le_length scanned (inside.subset member)
  · intro token member
    rw [tails, textFrom, List.drop_of_length_le (known token member).2]
    rfl

/-! ## Keywords -/

section Keywords

variable {breaks : List Token} (newlines : ∀ token ∈ breaks, token.isNewline)
  {stops : List String} {anywhere : Bool} {nesting : Nesting} {tokens before after : List Token}
  {keyword : String}

include newlines

theorem eq_nil_or_newline :
    breaks = [] ∨ ∃ start stop more, breaks = .operator .newline start stop :: more := by
  cases breaks with
  | nil => exact .inl rfl
  | cons token more =>
      have newline := newlines token List.mem_cons_self
      cases token with
      | word word => cases newline
      | operator kind start stop =>
          cases newline
          exact .inr ⟨start, stop, more, rfl⟩

theorem splitAtKeyword_newlines :
    splitAtKeyword stops anywhere nesting breaks = none := by
  induction breaks generalizing nesting with
  | nil => rfl
  | cons token more inductionHypothesis =>
      obtain none | ⟨start, stop, others, same⟩ := eq_nil_or_newline newlines
      · cases none
      · cases same
        rw [splitAtKeyword, inductionHypothesis fun other member =>
          newlines other (List.mem_cons_of_mem _ member)]
        rfl

/-- Line breaks behind a line matter only for a closing brace that was its last token. -/
theorem splitAtKeyword_append_breaks
    (found : splitAtKeyword stops anywhere nesting tokens = some (before, keyword, after)) :
    splitAtKeyword stops anywhere nesting (tokens ++ breaks) =
        some (before, keyword, after ++ breaks) ∨
      keyword = "\x7d" ∧ splitAtKeyword stops anywhere nesting (tokens ++ breaks) = none := by
  induction tokens generalizing nesting before with
  | nil => cases found
  | cons token rest inductionHypothesis =>
      cases token with
      | operator kind start stop =>
          obtain ⟨⟨inner, others⟩, innerFound, same⟩ := Option.map_eq_some_iff.1 found
          cases same
          rw [List.cons_append, splitAtKeyword]
          obtain onward | ⟨brace, none⟩ := inductionHypothesis innerFound
          · rw [onward]
            exact .inl rfl
          · rw [none]
            exact .inr ⟨brace, rfl⟩
      | word word =>
          rw [splitAtKeyword] at found
          rw [List.cons_append, splitAtKeyword]
          dsimp only at found ⊢
          split at found
          · rename_i stopping
            cases found
            by_cases still : nesting.stopsAt stops anywhere word.bare? (after ++ breaks).isEmpty
            · rw [if_pos still]
              exact .inl rfl
            · obtain ⟨brace, last⟩ : word.bare? = some "\x7d" ∧ after = [] := by
                constructor
                · apply Classical.byContradiction
                  intro other
                  have plain : (word.bare? == some "\x7d") = false := beq_eq_false_iff_ne.2 other
                  simp only [Nesting.stopsAt, Nesting.mayClose, plain, Bool.false_and]
                    at stopping still
                  exact still stopping
                · cases after with
                  | nil => rfl
                  | cons next others => exact absurd stopping still
              rw [if_neg still, last, List.nil_append, splitAtKeyword_newlines newlines]
              exact .inr ⟨text_of_bare? brace, rfl⟩
          · rename_i passing
            obtain ⟨⟨inner, others⟩, innerFound, same⟩ := Option.map_eq_some_iff.1 found
            cases same
            have more : (rest ++ breaks).isEmpty = rest.isEmpty := by
              cases rest with
              | nil => cases innerFound
              | cons next others => rfl
            rw [more, if_neg passing]
            obtain onward | ⟨brace, none⟩ := inductionHypothesis innerFound
            · rw [onward]
              exact .inl rfl
            · rw [none]
              exact .inr ⟨brace, rfl⟩

theorem requireKeyword_append_breaks
    (found : requireKeyword stops anywhere tokens = .ok (before, keyword, after)) :
    requireKeyword stops anywhere (tokens ++ breaks) = .ok (before, keyword, after ++ breaks) ∨
      keyword = "\x7d" ∧
        requireKeyword stops anywhere (tokens ++ breaks) = .error .unexpectedEnd := by
  unfold requireKeyword at found ⊢
  split at found
  · rename_i split
    cases found
    obtain onward | ⟨brace, none⟩ := splitAtKeyword_append_breaks newlines split
    · rw [onward]
      exact .inl rfl
    · rw [none]
      exact .inr ⟨brace, rfl⟩
  · cases found

/-- The other keywords are found where they were. -/
theorem requireKeyword_append_breaks_of_not_mem (unbraced : "\x7d" ∉ stops)
    (found : requireKeyword stops anywhere tokens = .ok (before, keyword, after)) :
    requireKeyword stops anywhere (tokens ++ breaks) = .ok (before, keyword, after ++ breaks) := by
  obtain onward | ⟨rfl, -⟩ := requireKeyword_append_breaks newlines found
  · exact onward
  · obtain ⟨token, -, member, -⟩ := division_of_requireKeyword (List.suffix_refl _) found
    exact absurd member unbraced

end Keywords

/-! ## Compound statements -/

section Compound

variable {source other : List Char} {line tokens after breaks : List Token}
  (trails : TrailingBreaks source other line breaks)

include trails

theorem TrailingBreaks.filledText_eq {range : List Token} (inside : range <:+: line)
    (keyword : String) : filledText other range keyword = filledText source range keyword := by
  unfold filledText
  rw [trails.spans range inside]

theorem readElse_append_breaks {branches : List Branch} (within : tokens <:+ line)
    (found : readElse source tokens = .ok (branches, after)) :
    readElse other (tokens ++ breaks) = .ok (branches, after ++ breaks) := by
  obtain ⟨⟨body, keyword, rest⟩, divided, found⟩ := Fallible.exists_of_bind found
  obtain ⟨_, -, -, -, inside, -⟩ := division_of_requireKeyword within divided
  have onward := requireKeyword_append_breaks_of_not_mem trails.newline (by decide) divided
  rw [readElse, onward]
  simp only [bind, Except.bind] at found ⊢
  split at found
  · cases found
  · rename_i last
    rw [if_neg last, trails.filledText_eq inside]
    cases filled : filledText source body "fi" with
    | error error =>
        rw [filled] at found
        cases found
    | ok text =>
        rw [filled] at found
        cases found
        rfl

/-- A branch is found where it was. -/
theorem readBranches_branch_append_breaks {condition body afterThen rest : List Token}
    {closing conditionText bodyText : String} (within : tokens <:+ line)
    (divided : requireKeyword branchKeywords false tokens = .ok (condition, "then", afterThen))
    (conditionFilled : filledText source condition "then" = .ok conditionText)
    (bodyDivided : requireKeyword branchKeywords false afterThen = .ok (body, closing, rest))
    (bodyFilled : filledText source body closing = .ok bodyText) (closes : closing ≠ "then") :
    rest <:+ line ∧ readBranches other (tokens ++ breaks) =
      if closing = "elif" then
        (readBranches other (rest ++ breaks)).map
          fun (branches, after) => (⟨some conditionText, bodyText⟩ :: branches, after)
      else if closing = "else" then
        (readElse other (rest ++ breaks)).map
          fun (branches, after) => (⟨some conditionText, bodyText⟩ :: branches, after)
      else .ok ([⟨some conditionText, bodyText⟩], rest ++ breaks) := by
  have unbraced : "\x7d" ∉ branchKeywords := by decide
  obtain ⟨_, -, -, -, conditionInside, afterInside⟩ := division_of_requireKeyword within divided
  obtain ⟨_, -, -, -, bodyInside, restInside⟩ := division_of_requireKeyword afterInside bodyDivided
  have conditionFound :=
    requireKeyword_append_breaks_of_not_mem trails.newline unbraced divided
  have bodyFound := requireKeyword_append_breaks_of_not_mem trails.newline unbraced bodyDivided
  rw [← trails.filledText_eq conditionInside] at conditionFilled
  rw [← trails.filledText_eq bodyInside] at bodyFilled
  exact ⟨restInside,
    readBranches_of_branch conditionFound conditionFilled bodyFound bodyFilled closes⟩

theorem readBranches_append_breaks {branches : List Branch} (within : tokens <:+ line)
    (found : readBranches source tokens = .ok (branches, after)) :
    readBranches other (tokens ++ breaks) = .ok (branches, after ++ breaks) := by
  fun_induction readBranches source tokens generalizing branches with
  | case1 | case2 | case3 | case4 | case5 | case6 => cases found
  | case7 tokens condition keyword afterThen divided opens conditionText conditionFilled body rest
      bodyText branch bodyDivided notThen bodyFilled =>
      rename_i inductionHypothesis
      rw [Classical.not_not] at opens
      subst opens
      obtain ⟨inside, onward⟩ := readBranches_branch_append_breaks trails within divided
        conditionFilled bodyDivided bodyFilled notThen
      obtain ⟨⟨others, behind⟩, othersFound, same⟩ := Fallible.exists_of_map found
      cases same
      rw [onward, if_pos rfl, inductionHypothesis inside othersFound]
      rfl
  | case8 tokens condition keyword afterThen divided opens conditionText conditionFilled body rest
      bodyText branch bodyDivided notThen bodyFilled =>
      rw [Classical.not_not] at opens
      subst opens
      obtain ⟨inside, onward⟩ := readBranches_branch_append_breaks trails within divided
        conditionFilled bodyDivided bodyFilled notThen
      obtain ⟨⟨others, behind⟩, othersFound, same⟩ := Fallible.exists_of_map found
      cases same
      rw [onward, if_neg (by decide), if_pos rfl, readElse_append_breaks trails inside othersFound]
      rfl
  | case9 tokens condition keyword afterThen divided opens conditionText conditionFilled body
      closing rest bodyDivided notThen bodyText bodyFilled branch notElif =>
      rename_i notElse
      rw [Classical.not_not] at opens
      subst opens
      obtain ⟨-, onward⟩ := readBranches_branch_append_breaks trails within divided
        conditionFilled bodyDivided bodyFilled notThen
      cases found
      rw [onward, if_neg notElif, if_neg notElse]

theorem readLoopBody_append_breaks {text : String} (within : tokens <:+ line)
    (found : readLoopBody source tokens = .ok (text, after)) :
    readLoopBody other (tokens ++ breaks) = .ok (text, after ++ breaks) := by
  obtain ⟨⟨body, keyword, rest⟩, divided, found⟩ := Fallible.exists_of_bind found
  obtain ⟨filled, bodyFilled, done⟩ := Fallible.exists_of_bind found
  cases done
  obtain ⟨_, -, -, -, inside, -⟩ := division_of_requireKeyword within divided
  have onward := requireKeyword_append_breaks_of_not_mem trails.newline (by decide) divided
  rw [readLoopBody, onward]
  simp only [bind, Except.bind, trails.filledText_eq inside, bodyFilled]
  rfl

theorem readLoop_append_breaks {kind : LoopKind} {compound : Compound} (within : tokens <:+ line)
    (found : readLoop kind source tokens = .ok (compound, after)) :
    readLoop kind other (tokens ++ breaks) = .ok (compound, after ++ breaks) := by
  obtain ⟨⟨condition, keyword, rest⟩, divided, found⟩ := Fallible.exists_of_bind found
  obtain ⟨conditionText, conditionFilled, found⟩ := Fallible.exists_of_bind found
  obtain ⟨⟨bodyText, behind⟩, bodyFound, done⟩ := Fallible.exists_of_bind found
  cases done
  obtain ⟨_, -, -, -, inside, restInside⟩ := division_of_requireKeyword within divided
  have onward := requireKeyword_append_breaks_of_not_mem trails.newline (by decide) divided
  rw [readLoop, onward]
  simp only [bind, Except.bind, trails.filledText_eq inside, conditionFilled,
    readLoopBody_append_breaks trails restInside bodyFound]
  rfl

theorem readForEach_append_breaks {compound : Compound} (within : tokens <:+ line)
    (found : readForEach source tokens = .ok (compound, after)) :
    readForEach other (tokens ++ breaks) = .ok (compound, after ++ breaks) := by
  unfold readForEach at found
  split at found
  · rename_i name rest
    cases named : isName name.text with
    | false =>
        rw [named] at found
        cases found
    | true =>
        rw [named] at found
        by_cases separated : (rest.head?.bind Token.bare?) = some "in"
        · simp only [separated] at found
          obtain ⟨⟨list, keyword, afterDo⟩, divided, found⟩ := Fallible.exists_of_bind found
          obtain ⟨⟨bodyText, behind⟩, bodyFound, done⟩ := Fallible.exists_of_bind found
          cases done
          cases rest with
          | nil => cases separated
          | cons separator others =>
              have inside : others <:+ line :=
                ((List.suffix_cons _ _).trans (List.suffix_cons _ _)).trans within
              obtain ⟨_, -, -, -, listInside, afterInside⟩ :=
                division_of_requireKeyword inside divided
              have onward :=
                requireKeyword_append_breaks_of_not_mem trails.newline (by decide) divided
              have bare : separator.bare? = some "in" := separated
              rw [List.tail_cons] at onward
              simp only [readForEach, List.cons_append, named, List.head?_cons, Option.bind_some,
                bare, List.tail_cons, onward, bind, Except.bind, trails.spans _ listInside,
                readLoopBody_append_breaks trails afterInside bodyFound]
              rfl
        · simp only [ne_eq, separated] at found
          cases found
  · cases found

theorem readOpened_append_breaks {keyword : String} {compound : Compound}
    (within : tokens <:+ line) (found : readOpened source keyword tokens = .ok (compound, after)) :
    readOpened other keyword (tokens ++ breaks) = .ok (compound, after ++ breaks) := by
  unfold readOpened at found ⊢
  split at found
  · rename_i conditional
    obtain ⟨⟨branches, behind⟩, branchesFound, same⟩ := Fallible.exists_of_map found
    cases same
    rw [if_pos conditional, readBranches_append_breaks trails within branchesFound]
    rfl
  · rename_i conditional
    rw [if_neg conditional]
    split at found
    · rename_i forEach
      rw [if_pos forEach, readForEach_append_breaks trails within found]
    · rename_i forEach
      rw [if_neg forEach, readLoop_append_breaks trails within found]

end Compound

/-! ## What stands behind a statement -/

theorem readRedirections_append_breaks {tokens after breaks : List Token}
    (newlines : ∀ token ∈ breaks, token.isNewline) {redirections : List Redirection}
    (found : readRedirections tokens = .ok (redirections, after)) :
    readRedirections (tokens ++ breaks) = .ok (redirections, after ++ breaks) := by
  fun_induction readRedirections tokens generalizing redirections with
  | case1 =>
      cases found
      obtain rfl | ⟨start, stop, more, rfl⟩ := eq_nil_or_newline newlines
      · rfl
      · rfl
  | case2 =>
      cases found
      rfl
  | case3 kind start stop rest redirection duplicates inductionHypothesis =>
      obtain ⟨⟨others, behind⟩, othersFound, same⟩ := Fallible.exists_of_map found
      cases same
      rw [List.cons_append, readRedirections, duplicates]
      simp only [inductionHypothesis othersFound]
      rfl
  | case4 kind start stop rest single plain =>
      cases found
      rw [List.cons_append, readRedirections, single, plain]
  | case5 kind start stop single redirectionTo redirects target behind inductionHypothesis =>
      obtain ⟨⟨others, after⟩, othersFound, same⟩ := Fallible.exists_of_map found
      cases same
      rw [List.cons_append, List.cons_append, readRedirections, single, redirects]
      simp only [inductionHypothesis othersFound]
      rfl
  | case6 => cases found

/-- Where nothing followed a statement, a second separator is taken for a text to run. -/
theorem readTail_append_breaks {source other : List Char} {line tokens breaks : List Token}
    (trails : TrailingBreaks source other line breaks) {tail : Option Tail}
    (found : readTail source tokens = .ok tail) :
    readTail other (tokens ++ breaks) = .ok tail ∨
      tail = none ∧ ∃ joint, joint.isSeparator = true ∧
        readTail other (tokens ++ breaks) = .ok (some ⟨joint, ""⟩) := by
  cases tokens with
  | nil =>
      cases found
      rw [List.nil_append]
      obtain rfl | ⟨start, stop, more, rfl⟩ := eq_nil_or_newline trails.newline
      · exact .inl rfl
      · cases more with
        | nil => exact .inl rfl
        | cons second others =>
            have empty := trails.empty second (List.mem_cons_of_mem _ List.mem_cons_self)
            refine .inr ⟨rfl, .newline, rfl, ?_⟩
            rw [← empty]
            rfl
  | cons token rest =>
      unfold readTail at found ⊢
      rw [List.cons_append]
      dsimp only at found ⊢
      cases joined : token.operator?.bind Operator.joint? with
      | none =>
          rw [joined] at found
          cases found
      | some joint =>
          rw [joined] at found
          dsimp only at found ⊢
          cases rest with
          | nil =>
              dsimp only at found
              split at found
              · rename_i separates
                cases found
                rw [List.nil_append]
                cases breaks with
                | nil => exact .inl (if_pos separates)
                | cons second others =>
                    have empty := trails.empty second List.mem_cons_self
                    refine .inr ⟨rfl, joint, separates, ?_⟩
                    rw [← empty]
              · cases found
          | cons next others =>
              cases found
              rw [← trails.tails next]
              exact .inl rfl

/-! ## Function definitions -/

section Function

variable {breaks : List Token} (newlines : ∀ token ∈ breaks, token.isNewline)

include newlines

theorem startsFunction_append_breaks (tokens : List Token) :
    startsFunction (tokens ++ breaks) = startsFunction tokens := by
  cases tokens with
  | nil =>
      obtain rfl | ⟨start, stop, more, rfl⟩ := eq_nil_or_newline newlines
      · rfl
      · rfl
  | cons token rest =>
      cases token with
      | operator kind start stop => rfl
      | word word =>
          rw [List.cons_append]
          cases bare : word.bare? with
          | none => simp only [startsFunction, bare]
          | some text =>
              simp only [startsFunction, bare]
              congr 2
              match rest with
              | [] =>
                  obtain rfl | ⟨start, stop, more, rfl⟩ := eq_nil_or_newline newlines
                  · rfl
                  · rfl
              | [first] =>
                  obtain rfl | ⟨start, stop, more, rfl⟩ := eq_nil_or_newline newlines
                  · rfl
                  · rcases first with word | ⟨kind, start, stop⟩
                    · rfl
                    · cases kind <;> rfl
              | first :: second :: others =>
                  rcases first with word | ⟨kind, start, stop⟩
                  · rfl
                  · cases kind
                    case openParen =>
                      rcases second with word | ⟨kind, start, stop⟩
                      · rfl
                      · cases kind <;> rfl
                    all_goals rfl

theorem commandWord_append_breaks (word : Word) (first : Token) (rest : List Token) :
    commandWord word (first :: (rest ++ breaks)) = commandWord word (first :: rest) := by
  unfold commandWord
  rw [← List.cons_append, startsFunction_append_breaks newlines]

theorem skipParens_append_breaks {tokens after : List Token}
    (skipped : skipParens tokens = .ok after) :
    skipParens (tokens ++ breaks) = .ok (after ++ breaks) := by
  unfold skipParens at skipped
  split at skipped
  · split at skipped
    · cases skipped
      rfl
    · cases skipped
  · rename_i noParen
    cases skipped
    cases tokens with
    | nil =>
        obtain rfl | ⟨start, stop, more, rfl⟩ := eq_nil_or_newline newlines
        · rfl
        · rfl
    | cons first others =>
        rcases first with word | ⟨kind, start, stop⟩
        · rfl
        · cases kind
          case openParen => exact absurd rfl (noParen start stop others)
          all_goals rfl

end Function

section Statements

variable {source other : List Char} {line tokens breaks : List Token} {statement : Statement}
  (trails : TrailingBreaks source other line breaks)

include trails

theorem exists_tail_append_breaks (body : StatementBody) {tail : Option Tail}
    (compound : ∀ pipelines, body ≠ .pipelines pipelines)
    (found : readTail source tokens = .ok tail) :
    ∃ later, readTail other (tokens ++ breaks) = .ok later ∧
      AfterBreaks ⟨body, tail⟩ (.ok ⟨body, later⟩) := by
  obtain same | ⟨rfl, joint, separates, blank⟩ := readTail_append_breaks trails found
  · exact ⟨tail, same, .same⟩
  · exact ⟨_, blank, .blank ⟨compound, rfl, joint, separates, rfl⟩⟩

theorem afterBreaks_of_readFunctionBody {name : String} (within : tokens <:+ line)
    (found : readFunctionBody source name tokens = .ok statement) :
    AfterBreaks statement (readFunctionBody other name (tokens ++ breaks)) := by
  have dropped : ∀ opening others,
      tokens.dropWhile (fun token => token.operator? == some .newline) = opening :: others →
      (tokens ++ breaks).dropWhile (fun token => token.operator? == some .newline) =
        opening :: (others ++ breaks) := by
    intro opening others front
    rw [List.dropWhile_append, front]
    rfl
  have inside : tokens.dropWhile (fun token => token.operator? == some .newline) <:+ line :=
    (List.dropWhile_suffix _).trans within
  unfold readFunctionBody at found ⊢
  generalize tokens.dropWhile (fun token => token.operator? == some .newline) = opened at *
  by_cases opens : (opened.head?.bind Token.bare?) = some "\x7b"
  · cases opened with
    | nil => cases opens
    | cons opening others =>
        simp only [opens] at found
        obtain ⟨⟨body, keyword, rest⟩, divided, found⟩ := Fallible.exists_of_bind found
        obtain ⟨tail, tailRead, done⟩ := Fallible.exists_of_bind found
        cases done
        have bare : opening.bare? = some "\x7b" := opens
        obtain ⟨_, -, -, -, bodyInside, -⟩ :=
          division_of_requireKeyword ((List.suffix_cons _ _).trans inside) divided
        simp only [dropped opening others rfl, List.head?_cons, Option.bind_some, bare,
          List.tail_cons]
        obtain onward | ⟨-, unclosed⟩ := requireKeyword_append_breaks trails.newline divided
        · obtain ⟨later, laterRead, after⟩ := exists_tail_append_breaks trails
            (.function name (spanText source body)) (by simp) tailRead
          rw [List.tail_cons] at onward
          simp only [onward, bind, Except.bind, laterRead, trails.spans body bodyInside]
          exact after
        · rw [List.tail_cons] at unclosed
          simp only [unclosed, bind, Except.bind]
          exact .unclosed rfl
  · simp only [ne_eq, opens] at found
    cases found

theorem afterBreaks_of_readFunction (within : tokens <:+ line)
    (starts : startsFunction tokens = true) (found : readFunction source tokens = .ok statement) :
    AfterBreaks statement (readFunction other (tokens ++ breaks)) := by
  cases tokens with
  | nil => cases starts
  | cons opening others =>
      by_cases keyword : opening.bare? = some "function"
      · have first : ((opening :: others).head?.bind Token.bare?) = some "function" := keyword
        have firstToo : ((opening :: others ++ breaks).head?.bind Token.bare?) =
          some "function" := keyword
        rw [readFunction, if_pos first] at found
        rw [readFunction, if_pos firstToo]
        split at found
        · rename_i name rest behind
          rw [List.tail_cons] at behind
          subst behind
          cases named : isName name.text with
          | false =>
              rw [named] at found
              cases found
          | true =>
              rw [named] at found
              obtain ⟨after, skipped, bodyRead⟩ := Fallible.exists_of_bind found
              obtain ⟨parens, -, rfl⟩ := isParens_of_skipParens skipped
              have inside : after <:+ line := by
                refine List.IsSuffix.trans ?_ within
                exact List.suffix_append (opening :: .word name :: parens) after
              have onward := skipParens_append_breaks trails.newline skipped
              simp only [List.cons_append, List.tail_cons, named, onward, bind, Except.bind]
              exact afterBreaks_of_readFunctionBody trails inside bodyRead
        · cases found
      · obtain ⟨word, parens, -, isParens, whole⟩ := isParens_of_startsFunction starts keyword
        have long : 3 ≤ (opening :: others).length := by
          have two := congrArg List.length isParens
          rw [whole]
          simp only [List.length_map, List.length_cons, List.length_append] at two ⊢
          omega
        have inside : (opening :: others).drop 3 <:+ line := (List.drop_suffix 3 _).trans within
        have plain : ((opening :: others).head?.bind Token.bare?) ≠ some "function" := keyword
        have plainToo : ((opening :: others ++ breaks).head?.bind Token.bare?) ≠
          some "function" := keyword
        rw [readFunction, if_neg plain] at found
        rw [readFunction, if_neg plainToo, List.drop_append_of_le_length long]
        exact afterBreaks_of_readFunctionBody trails inside found

theorem afterBreaks_of_readCompound {keyword : String} (within : tokens <:+ line)
    (found : readCompound source keyword tokens = .ok statement) :
    AfterBreaks statement (readCompound other keyword (tokens ++ breaks)) := by
  obtain ⟨compound, behind, redirections, after, tail, opened, redirected, followed, rfl⟩ :=
    exists_parts_of_readCompound found
  obtain ⟨later, laterRead, kept⟩ := exists_tail_append_breaks trails
    (.compound compound redirections) (by simp) followed
  have redirectedToo := readRedirections_append_breaks trails.newline redirected
  rw [readCompound_of_parts (readOpened_append_breaks trails within opened) redirectedToo
    laterRead]
  exact kept

end Statements

/-! ## Ordinary commands -/

/-- Stages that have become a line are the same lines at the end. -/
theorem PipelineDraft.finish_of_line {draft : PipelineDraft} (empty : draft.stageIsEmpty = true)
    (staged : draft.stages ≠ []) (affirmed : draft.negations = 0) :
    { draft with
      pipelines := ⟨draft.stages.reverse⟩ :: draft.pipelines
      stages := []
      gate := none
      pending := some .newline }.finish = .ok ⟨.pipelines draft.closedPipelines, none⟩ := by
  have bare : draft.words.isEmpty = true ∧ draft.redirections.isEmpty = true :=
    Bool.and_eq_true_iff.1 empty
  simp [finish, stageIsEmpty, isOpen, closedPipelines, bare, staged, affirmed, Joint.isSeparator]

/-- A line break behind complete commands closes them, as the end of the line does. -/
theorem PipelineDraft.finish_breakLine {draft : PipelineDraft} {statement : Statement}
    (found : draft.finish = .ok statement) : draft.breakLine.finish = .ok statement := by
  unfold PipelineDraft.breakLine
  split
  · exact found
  · rename_i broken
    unfold PipelineDraft.finish at found
    cases empty : draft.stageIsEmpty with
    | true =>
        rw [empty] at found broken
        cases opened : draft.isOpen with
        | true =>
            rw [opened] at found
            cases found
        | false =>
            rw [opened] at found broken
            cases found
            have affirmed : draft.negations = 0 := by
              have parts := Bool.or_eq_false_iff.1 opened
              simpa using parts.1
            exact PipelineDraft.finish_of_line empty (by simpa using broken) affirmed
    | false =>
        rw [empty] at found
        cases found
        exact PipelineDraft.finish_of_line rfl (List.cons_ne_nil _ _) rfl

section Pipelines

variable {source other : List Char} {line tokens breaks : List Token} {statement : Statement}
  (trails : TrailingBreaks source other line breaks)

theorem readPipelines_newlines (newlines : ∀ token ∈ breaks, token.isNewline)
    {draft : PipelineDraft} (found : draft.finish = .ok statement) :
    readPipelines source draft breaks = .ok statement := by
  induction breaks generalizing draft with
  | nil =>
      rw [readPipelines]
      exact found
  | cons token more inductionHypothesis =>
      obtain none | ⟨start, stop, others, same⟩ := eq_nil_or_newline newlines
      · cases none
      · cases same
        rw [readPipelines]
        simp only [Operator.duplication?, Operator.redirectionTo?, Operator.joint?]
        have later := fun token member => newlines token (List.mem_cons_of_mem _ member)
        exact inductionHypothesis later (PipelineDraft.finish_breakLine found)

include trails

theorem readPipelines_append_breaks {draft : PipelineDraft}
    (found : readPipelines source draft tokens = .ok statement) :
    readPipelines other draft (tokens ++ breaks) = .ok statement := by
  fun_induction readPipelines source draft tokens with
  | case1 draft => exact readPipelines_newlines trails.newline found
  | case4 | case11 | case12 | case14 => cases found
  | case2 draft word rest filled inductionHypothesis =>
      rw [List.cons_append, readPipelines, if_pos filled]
      exact inductionHypothesis found
  | case3 draft word rest empty kind inductionHypothesis =>
      rw [List.cons_append, readPipelines, if_neg empty,
        commandWord_append_breaks trails.newline, kind]
      exact inductionHypothesis found
  | case5 draft word rest empty kind inductionHypothesis =>
      rw [List.cons_append, readPipelines, if_neg empty,
        commandWord_append_breaks trails.newline, kind]
      exact inductionHypothesis found
  | case6 draft word rest empty kind joint pending affirmed =>
      rw [List.cons_append, readPipelines, if_neg empty,
        commandWord_append_breaks trails.newline, kind, pending]
      dsimp only
      rw [if_pos affirmed, trails.tails]
      exact found
  | case7 draft word rest empty kind joint pending negated inductionHypothesis =>
      rw [List.cons_append, readPipelines, if_neg empty,
        commandWord_append_breaks trails.newline, kind, pending]
      dsimp only
      rw [if_neg negated]
      exact inductionHypothesis found
  | case8 draft word rest empty kind pending inductionHypothesis =>
      rw [List.cons_append, readPipelines, if_neg empty,
        commandWord_append_breaks trails.newline, kind, pending]
      exact inductionHypothesis found
  | case9 draft kind start stop rest redirection duplicates inductionHypothesis =>
      rw [List.cons_append, readPipelines, duplicates]
      exact inductionHypothesis found
  | case10 draft kind start stop single redirectionTo redirects target rest inductionHypothesis =>
      rw [List.cons_append, List.cons_append, readPipelines, single, redirects]
      exact inductionHypothesis found
  | case13 draft kind start stop rest single plain joins inductionHypothesis =>
      rw [List.cons_append, readPipelines, single, plain, joins]
      exact inductionHypothesis found
  | case15 draft kind start stop rest single plain joint noBreak joins filled inductionHypothesis =>
      rw [List.cons_append, readPipelines, single, plain, joins]
      cases joint with
      | newline => exact absurd rfl noBreak
      | pipe | gate =>
          dsimp only
          rw [if_neg filled]
          exact inductionHypothesis found

end Pipelines

/-! ## Lines -/

theorem afterBreaks_of_ofTokens {source other : List Char} {line breaks : List Token}
    {statement : Statement} (trails : TrailingBreaks source other line breaks)
    (found : ofTokens source line = .ok (some statement)) :
    ∃ result, ofTokens other (line ++ breaks) = result.map some ∧
      AfterBreaks statement result := by
  obtain ⟨leading, opening, rest, newlines, solid, rfl, form⟩ := exists_form_of_ofTokens found
  have within : opening :: rest <:+ leading ++ opening :: rest := List.suffix_append _ _
  have dropped : (leading ++ opening :: rest ++ breaks).dropWhile
      (fun token => token.operator? == some .newline) = opening :: (rest ++ breaks) := by
    rw [List.append_assoc,
      List.dropWhile_append_of_pos fun token member => beq_iff_eq.2 (newlines token member)]
    exact List.dropWhile_cons_of_neg (by simpa using solid)
  have starting : startsFunction (opening :: (rest ++ breaks)) = startsFunction (opening :: rest) :=
    startsFunction_append_breaks trails.newline (opening :: rest)
  unfold ofTokens
  simp only [dropped, starting]
  cases form with
  | function starts functionRead =>
      rw [if_pos starts]
      exact ⟨_, rfl, afterBreaks_of_readFunction trails within starts functionRead⟩
  | compound notFunction bare starts compoundRead =>
      simp only [notFunction, bare, starts, if_true, Bool.false_eq_true, if_false]
      have inside := (List.suffix_cons opening rest).trans within
      exact ⟨_, rfl, afterBreaks_of_readCompound trails inside compoundRead⟩
  | ordinary notFunction plain pipelinesRead =>
      have onward := readPipelines_append_breaks trails pipelinesRead
      rw [List.cons_append] at onward
      refine ⟨.ok statement, ?_, .same⟩
      simp only [notFunction, onward, Bool.false_eq_true, if_false]
      split
      · rename_i keyword bare
        rw [plain keyword bare]
        rfl
      · rfl

/-- Line breaks behind a line that is read as a statement, and does not end in a backslash, leave
the statement as it is, or put an empty text behind it, or take the closing brace from it. -/
theorem afterBreaks_of_read {line : String} {statement : Statement}
    (read : Statement.read line = .ok (some statement))
    (unescaped : line.toList.getLast? ≠ some '\\') (count : Nat) :
    ∃ result, Statement.read (withBreaks line count) = result.map some ∧
      AfterBreaks statement result := by
  obtain ⟨tokens, scanned, found⟩ := Fallible.exists_of_bind read
  obtain ⟨result, same, after⟩ :=
    afterBreaks_of_ofTokens (trailingBreaks_withBreaks scanned count) found
  refine ⟨result, ?_, after⟩
  rw [Statement.read, scan_withBreaks scanned unescaped count]
  exact same

end VirtualShell.Statement
