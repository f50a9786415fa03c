import VirtualShell.Proofs.Fallible
import VirtualShell.Statement.Read

/-!
Contract: where the texts that a compound statement keeps stand in its line.

Owns:
- `BranchTokens`, `CompoundTokens`, `FunctionTokens` and `StatementTokens`: how the tokens
  of a line are divided by keywords, and which of them each kept text stands for;
- `Form`, the three forms that a statement has, and `exists_form_of_ofTokens`;
- `statementTokens_of_ofTokens`: a line that is read as such a statement is divided so.

What a text has to do with its tokens is a parameter here, apart from the one assumption
that it holds of the texts that reading cuts out of the line.

Does not own: what the texts are scanned to (`VirtualShell.Proofs.Statement.Stored`).
-/

namespace VirtualShell.Statement

/-! ## How a line is divided -/

section Division

variable (stored : List Token → String → Prop)

/-- The part of a conditional behind `if` or `elif`, up to its `fi`. -/
inductive BranchTokens : List Token → List Branch → Prop where
  | last {condition body : List Token} {opening closing : Token} {conditionText bodyText : String}
      (conditionStored : stored condition conditionText) (opens : opening.bare? = some "then")
      (bodyStored : stored body bodyText) (closes : closing.bare? = some "fi") :
      BranchTokens (condition ++ opening :: (body ++ [closing])) [⟨some conditionText, bodyText⟩]
  | otherwise {condition body alternative : List Token} {opening divider closing : Token}
      {conditionText bodyText alternativeText : String}
      (conditionStored : stored condition conditionText) (opens : opening.bare? = some "then")
      (bodyStored : stored body bodyText) (divides : divider.bare? = some "else")
      (alternativeStored : stored alternative alternativeText)
      (closes : closing.bare? = some "fi") :
      BranchTokens (condition ++ opening :: (body ++ divider :: (alternative ++ [closing])))
        [⟨some conditionText, bodyText⟩, ⟨none, alternativeText⟩]
  | elseIf {condition body others : List Token} {opening divider : Token}
      {conditionText bodyText : String} {branches : List Branch}
      (conditionStored : stored condition conditionText) (opens : opening.bare? = some "then")
      (bodyStored : stored body bodyText) (divides : divider.bare? = some "elif")
      (onward : BranchTokens others branches) :
      BranchTokens (condition ++ opening :: (body ++ divider :: others))
        (⟨some conditionText, bodyText⟩ :: branches)

/-- The keyword that a loop starts with. -/
def loopKeyword : LoopKind → String
  | .whileTrue => "while"
  | .untilTrue => "until"

/-- The body of a loop, between `do` and `done`. -/
inductive LoopBodyTokens : List Token → String → Prop where
  | mk {body : List Token} {opening closing : Token} {text : String}
      (opens : opening.bare? = some "do") (bodyStored : stored body text)
      (closes : closing.bare? = some "done") :
      LoopBodyTokens (opening :: (body ++ [closing])) text

/-- A conditional or a loop, from its first keyword to its last. -/
inductive CompoundTokens : List Token → Compound → Prop where
  | conditional {opening : Token} {tokens : List Token} {branches : List Branch}
      (opens : opening.bare? = some "if") (divided : BranchTokens stored tokens branches) :
      CompoundTokens (opening :: tokens) (.conditional branches)
  | forEach {opening separator : Token} {name : Word} {list body : List Token}
      {listText bodyText : String} (opens : opening.bare? = some "for")
      (named : isName name.text = true) (separates : separator.bare? = some "in")
      (listStored : stored list listText) (divided : LoopBodyTokens stored body bodyText) :
      CompoundTokens (opening :: .word name :: separator :: (list ++ body))
        (.forEach name.text listText bodyText)
  | loop {opening : Token} {kind : LoopKind} {condition body : List Token}
      {conditionText bodyText : String} (opens : opening.bare? = some (loopKeyword kind))
      (conditionStored : stored condition conditionText)
      (divided : LoopBodyTokens stored body bodyText) :
      CompoundTokens (opening :: (condition ++ body)) (.loop kind conditionText bodyText)

/-- An opening parenthesis and a closing one. -/
def IsParens (tokens : List Token) : Prop :=
  tokens.map Token.operator? = [some .openParen, some .closeParen]

theorem isParens_operators (openStart openStop closeStart closeStop : Nat) :
    IsParens [.operator .openParen openStart openStop,
      .operator .closeParen closeStart closeStop] :=
  rfl

/-- The first part of a function definition: its name, behind `function` or in front of two
parentheses. -/
inductive FunctionNameTokens : List Token → String → Prop where
  | keyword {opening : Token} {name : Word} {parens : List Token}
      (opens : opening.bare? = some "function") (named : isName name.text = true)
      (parensRead : parens = [] ∨ IsParens parens) :
      FunctionNameTokens (opening :: .word name :: parens) name.text
  | parens {name : Word} {parens : List Token} (named : isName name.text = true)
      (parensRead : IsParens parens) : FunctionNameTokens (.word name :: parens) name.text

/-- A function definition, from its name to its closing brace. -/
inductive FunctionTokens : List Token → String → String → Prop where
  | mk {front breaks body : List Token} {opening closing : Token} {name text : String}
      (named : FunctionNameTokens front name) (breaksRead : ∀ token ∈ breaks,
        token.operator? = some .newline)
      (opens : opening.bare? = some "\x7b") (bodyStored : stored body text)
      (closes : closing.bare? = some "\x7d") :
      FunctionTokens (front ++ (breaks ++ opening :: (body ++ [closing]))) name text

/-- The redirections behind a compound statement. -/
inductive RedirectionTokens : List Token → List Redirection → Prop where
  | nil : RedirectionTokens [] []
  | duplication {kind : Operator} {start stop : Nat} {redirection : Redirection}
      {tokens : List Token} {others : List Redirection}
      (duplicates : kind.duplication? = some redirection)
      (onward : RedirectionTokens tokens others) :
      RedirectionTokens (.operator kind start stop :: tokens) (redirection :: others)
  | toFile {kind : Operator} {start stop : Nat} {target : Word}
      {redirectionTo : Word → Redirection} {tokens : List Token} {others : List Redirection}
      (redirects : kind.redirectionTo? = some redirectionTo)
      (onward : RedirectionTokens tokens others) :
      RedirectionTokens (.operator kind start stop :: .word target :: tokens)
        (redirectionTo target :: others)

/-- What follows a statement: nothing, a separator, or a joint and a text. -/
inductive TailTokens : List Token → Option Tail → Prop where
  | nothing : TailTokens [] none
  | separator {token : Token} {joint : Joint}
      (joins : token.operator?.bind Operator.joint? = some joint)
      (separates : joint.isSeparator = true) : TailTokens [token] none
  | text {token : Token} {joint : Joint} {rest : List Token} {text : String}
      (joins : token.operator?.bind Operator.joint? = some joint) (filled : rest ≠ [])
      (tailStored : stored rest text) : TailTokens (token :: rest) (some ⟨joint, text⟩)

/-- A whole line that starts with a compound statement or a function definition. -/
inductive StatementTokens (storedTail : List Token → String → Prop) :
    List Token → Statement → Prop where
  | compound {breaks part redirecting following : List Token} {compound : Compound}
      {redirections : List Redirection} {tail : Option Tail}
      (breaksRead : ∀ token ∈ breaks, token.operator? = some .newline)
      (divided : CompoundTokens stored part compound)
      (redirected : RedirectionTokens redirecting redirections)
      (followed : TailTokens storedTail following tail) :
      StatementTokens storedTail (breaks ++ (part ++ (redirecting ++ following)))
        ⟨.compound compound redirections, tail⟩
  | function {breaks part following : List Token} {name body : String} {tail : Option Tail}
      (breaksRead : ∀ token ∈ breaks, token.operator? = some .newline)
      (divided : FunctionTokens stored part name body)
      (followed : TailTokens storedTail following tail) :
      StatementTokens storedTail (breaks ++ (part ++ following)) ⟨.function name body, tail⟩

end Division

/-! ## Keywords -/

/-- A bare token is a word that reads as its text. -/
theorem text_of_bare? {word : Word} {keyword : String} (bare : word.bare? = some keyword) :
    word.text = keyword := by
  unfold Word.bare? at bare
  split at bare
  · cases bare
  · exact Option.some.inj bare

theorem eq_append_of_splitAtKeyword {stops : List String} {anywhere : Bool} {nesting : Nesting}
    {tokens before after : List Token} {keyword : String}
    (found : splitAtKeyword stops anywhere nesting tokens = some (before, keyword, after)) :
    ∃ token : Token, token.bare? = some keyword ∧ keyword ∈ stops ∧
      tokens = before ++ token :: after := by
  induction tokens generalizing nesting before with
  | nil => simp [splitAtKeyword] at found
  | cons token rest inductionHypothesis =>
      cases token with
      | operator kind start stop =>
          rcases Option.map_eq_some_iff.1 found with ⟨⟨inner, others⟩, innerFound, same⟩
          cases same
          rcases inductionHypothesis innerFound with ⟨token, bare, stopping, whole⟩
          exact ⟨token, bare, stopping, by rw [whole, List.cons_append]⟩
      | word word =>
          rw [splitAtKeyword] at found
          split at found
          · rename_i stopping
            cases found
            cases bare : word.bare? with
            | none =>
                rw [bare] at stopping
                simp [Nesting.stopsAt] at stopping
            | some text =>
                rw [bare] at stopping
                have member : text ∈ stops := by
                  simp only [Nesting.stopsAt, Option.any_some, Bool.and_eq_true,
                    List.contains_iff_mem] at stopping
                  exact stopping.1.2
                rw [text_of_bare? bare]
                exact ⟨.word word, bare, member, rfl⟩
          · rcases Option.map_eq_some_iff.1 found with ⟨⟨inner, others⟩, innerFound, same⟩
            cases same
            rcases inductionHypothesis innerFound with ⟨token, bare, stopping, whole⟩
            exact ⟨token, bare, stopping, by rw [whole, List.cons_append]⟩

/-- A keyword that must be there divides the rest of a line in two. -/
theorem division_of_requireKeyword {stops : List String} {anywhere : Bool}
    {line tokens before after : List Token} {keyword : String} (within : tokens <:+ line)
    (found : requireKeyword stops anywhere tokens = .ok (before, keyword, after)) :
    ∃ token : Token, token.bare? = some keyword ∧ keyword ∈ stops ∧
      tokens = before ++ token :: after ∧ before <:+: line ∧ after <:+ line := by
  unfold requireKeyword at found
  split at found
  · rename_i split
    cases found
    rcases eq_append_of_splitAtKeyword split with ⟨token, bare, stopping, rfl⟩
    refine ⟨token, bare, stopping, rfl, ?_, ?_⟩
    · exact (List.prefix_append _ _).isInfix.trans within.isInfix
    · exact ((List.suffix_cons _ _).trans (List.suffix_append _ _)).trans within
  · cases found

/-- The line breaks in front of a line. -/
theorem exists_newlines (tokens : List Token) :
    ∃ breaks, (∀ token ∈ breaks, token.operator? = some .newline) ∧
      tokens = breaks ++ tokens.dropWhile fun token => token.operator? == some .newline :=
  ⟨tokens.takeWhile fun token => token.operator? == some .newline,
    fun token member => eq_of_beq (List.all_eq_true.1 List.all_takeWhile token member),
    List.takeWhile_append_dropWhile.symm⟩

theorem eq_of_filledText {source : List Char} {tokens : List Token} {keyword text : String}
    (filled : filledText source tokens keyword = .ok text) : text = spanText source tokens := by
  unfold filledText at filled
  simp only at filled
  split at filled
  · cases filled
  · exact (Except.ok.inj filled).symm

theorem trimSeparators_isPrefix (tokens : List Token) :
    trimSeparators tokens <+: tokens.dropWhile Token.isSeparator := by
  rw [← List.reverse_suffix, trimSeparators, List.reverse_reverse]
  exact List.dropWhile_suffix _

theorem trimSeparators_isInfix (tokens : List Token) : trimSeparators tokens <:+: tokens :=
  (trimSeparators_isPrefix tokens).isInfix.trans (List.dropWhile_suffix _).isInfix

/-! ## Compound statements -/

section Compound

variable {source : List Char} {line tokens after : List Token}
  {stored : List Token → String → Prop}
  (cut : ∀ range, range <:+: line → stored range (spanText source range))

include cut

theorem tokens_of_readElse {branches : List Branch} (within : tokens <:+ line)
    (found : readElse source tokens = .ok (branches, after)) :
    ∃ (body : List Token) (closing : Token) (text : String), stored body text ∧
      closing.bare? = some "fi" ∧ tokens = body ++ closing :: after ∧
      branches = [⟨none, text⟩] := by
  rcases Fallible.exists_of_bind found with ⟨⟨body, keyword, rest⟩, divided, found⟩
  rcases division_of_requireKeyword within divided with ⟨closing, bare, -, whole, inside, -⟩
  simp only at found
  split at found
  · cases found
  · rename_i last
    rw [Classical.not_not] at last
    rcases Fallible.exists_of_bind found with ⟨text, filled, done⟩
    cases done
    exact ⟨body, closing, text, eq_of_filledText filled ▸ cut body inside, last ▸ bare, whole, rfl⟩

/-- A condition stands in front of `then`, and a body in front of the keyword behind it. -/
theorem tokens_of_branch {condition body afterThen rest : List Token}
    {keyword closing conditionText bodyText : String} (within : tokens <:+ line)
    (conditionDivided : requireKeyword branchKeywords false tokens =
      .ok (condition, keyword, afterThen)) (opens : ¬ keyword ≠ "then")
    (conditionFilled : filledText source condition "then" = .ok conditionText)
    (bodyDivided : requireKeyword branchKeywords false afterThen = .ok (body, closing, rest))
    (bodyFilled : filledText source body closing = .ok bodyText) :
    ∃ opening divider : Token, opening.bare? = some "then" ∧ divider.bare? = some closing ∧
      closing ∈ branchKeywords ∧ tokens = condition ++ opening :: (body ++ divider :: rest) ∧
      stored condition conditionText ∧ stored body bodyText ∧ rest <:+ line := by
  rw [Classical.not_not] at opens
  rcases division_of_requireKeyword within conditionDivided with
    ⟨opening, openingBare, -, rfl, conditionInside, afterInside⟩
  rcases division_of_requireKeyword afterInside bodyDivided with
    ⟨divider, dividerBare, member, rfl, bodyInside, restInside⟩
  refine ⟨opening, divider, opens ▸ openingBare, dividerBare, member, rfl, ?_, ?_, restInside⟩
  · exact eq_of_filledText conditionFilled ▸ cut condition conditionInside
  · exact eq_of_filledText bodyFilled ▸ cut body bodyInside

/-- The branches of a conditional stand between its keywords. -/
theorem branchTokens_of_readBranches {branches : List Branch} (within : tokens <:+ line)
    (found : readBranches source tokens = .ok (branches, after)) :
    ∃ part, tokens = part ++ after ∧ BranchTokens stored part branches := by
  fun_induction readBranches source tokens generalizing branches with
  | case1 => cases found
  | case2 => cases found
  | case3 => cases found
  | case4 => cases found
  | case5 => cases found
  | case6 => cases found
  | case7 tokens condition keyword afterThen divided opens conditionText conditionFilled body rest
      bodyText branch bodyDivided _ bodyFilled =>
      rename_i inductionHypothesis
      rcases tokens_of_branch cut within divided opens conditionFilled bodyDivided bodyFilled with
        ⟨opening, divider, openingBare, dividerBare, -, rfl, conditionStored, bodyStored, inside⟩
      rcases Fallible.exists_of_map found with ⟨⟨others, behind⟩, othersFound, same⟩
      cases same
      rcases inductionHypothesis inside othersFound with ⟨part, rfl, onward⟩
      exact ⟨_, by simp, .elseIf conditionStored openingBare bodyStored dividerBare onward⟩
  | case8 tokens condition keyword afterThen divided opens conditionText conditionFilled body rest
      bodyText branch bodyDivided _ bodyFilled =>
      rcases tokens_of_branch cut within divided opens conditionFilled bodyDivided bodyFilled with
        ⟨opening, divider, openingBare, dividerBare, -, rfl, conditionStored, bodyStored, inside⟩
      rcases Fallible.exists_of_map found with ⟨⟨others, behind⟩, othersFound, same⟩
      cases same
      rcases tokens_of_readElse cut inside othersFound with
        ⟨alternative, closing, text, alternativeStored, closes, rfl, rfl⟩
      exact ⟨_, by simp, .otherwise conditionStored openingBare bodyStored dividerBare
        alternativeStored closes⟩
  | case9 tokens condition keyword afterThen divided opens conditionText conditionFilled body
      closing rest bodyDivided notThen bodyText bodyFilled branch notElif =>
      rename_i notElse
      rcases tokens_of_branch cut within divided opens conditionFilled bodyDivided bodyFilled with
        ⟨opening, divider, openingBare, dividerBare, member, rfl, conditionStored, bodyStored, -⟩
      cases found
      have last : closing = "fi" := by
        simpa [branchKeywords, notThen, notElif, notElse] using member
      exact ⟨_, by simp, .last conditionStored openingBare bodyStored (last ▸ dividerBare)⟩

/-- The body of a loop stands between `do`, which has been read, and `done`. -/
theorem loopBodyTokens_of_readLoopBody {opening : Token} {text : String}
    (opens : opening.bare? = some "do") (within : tokens <:+ line)
    (found : readLoopBody source tokens = .ok (text, after)) :
    ∃ part, opening :: tokens = part ++ after ∧ LoopBodyTokens stored part text := by
  rcases Fallible.exists_of_bind found with ⟨⟨body, keyword, rest⟩, divided, found⟩
  rcases Fallible.exists_of_bind found with ⟨filledText, filled, done⟩
  cases done
  rcases division_of_requireKeyword within divided with ⟨closing, bare, member, rfl, inside, -⟩
  rw [List.mem_singleton.1 member] at bare
  exact ⟨opening :: (body ++ [closing]), by simp,
    .mk opens (eq_of_filledText filled ▸ cut body inside) bare⟩

/-- A loop over words stands between `for` and `done`. -/
theorem compoundTokens_of_readForEach {opening : Token} {compound : Compound}
    (opens : opening.bare? = some "for") (within : tokens <:+ line)
    (found : readForEach source tokens = .ok (compound, after)) :
    ∃ part, opening :: tokens = part ++ after ∧ CompoundTokens stored part compound := by
  unfold readForEach at found
  split at found
  · rename_i name rest
    cases named : isName name.text with
    | false =>
        rw [named] at found
        cases found
    | true =>
        rw [named] at found
        by_cases separated : (rest.head?.bind Token.bare?) = some "in"
        · simp only [separated] at found
          rcases Fallible.exists_of_bind found with ⟨⟨list, keyword, afterDo⟩, divided, found⟩
          rcases Fallible.exists_of_bind found with ⟨⟨bodyText, behind⟩, bodyFound, done⟩
          cases done
          cases rest with
          | nil => cases separated
          | cons separator others =>
              have inside : others <:+ line :=
                ((List.suffix_cons _ _).trans (List.suffix_cons _ _)).trans within
              rcases division_of_requireKeyword inside divided with
                ⟨doToken, bare, member, same, listInside, afterInside⟩
              rw [List.mem_singleton.1 member] at bare
              rcases loopBodyTokens_of_readLoopBody cut bare afterInside bodyFound with
                ⟨body, whole, dividedBody⟩
              refine ⟨opening :: .word name :: separator :: (list ++ body), ?_, ?_⟩
              · rw [same, whole]
                simp
              · exact .forEach opens named separated (cut list listInside) dividedBody
        · simp only [ne_eq, separated] at found
          cases found
  · cases found

/-- A loop with a condition stands between its keyword and `done`. -/
theorem compoundTokens_of_readLoop {opening : Token} {kind : LoopKind} {compound : Compound}
    (opens : opening.bare? = some (loopKeyword kind)) (within : tokens <:+ line)
    (found : readLoop kind source tokens = .ok (compound, after)) :
    ∃ part, opening :: tokens = part ++ after ∧ CompoundTokens stored part compound := by
  rcases Fallible.exists_of_bind found with ⟨⟨condition, keyword, rest⟩, divided, found⟩
  rcases Fallible.exists_of_bind found with ⟨conditionText, filled, found⟩
  rcases Fallible.exists_of_bind found with ⟨⟨bodyText, behind⟩, bodyFound, done⟩
  cases done
  rcases division_of_requireKeyword within divided with
    ⟨closing, bare, member, rfl, inside, restInside⟩
  rw [List.mem_singleton.1 member] at bare
  rcases loopBodyTokens_of_readLoopBody cut bare restInside bodyFound with
    ⟨body, whole, dividedBody⟩
  refine ⟨opening :: (condition ++ body), by rw [whole]; simp, ?_⟩
  exact .loop opens (eq_of_filledText filled ▸ cut condition inside) dividedBody

end Compound

/-! ## What stands behind a statement -/

theorem redirectionTokens_of_readRedirections {tokens after : List Token}
    {redirections : List Redirection}
    (found : readRedirections tokens = .ok (redirections, after)) :
    ∃ part, tokens = part ++ after ∧ RedirectionTokens part redirections := by
  fun_induction readRedirections tokens generalizing redirections with
  | case1 =>
      cases found
      exact ⟨[], rfl, .nil⟩
  | case2 =>
      cases found
      exact ⟨[], rfl, .nil⟩
  | case3 kind start stop rest redirection duplicates inductionHypothesis =>
      rcases Fallible.exists_of_map found with ⟨⟨others, behind⟩, othersFound, same⟩
      cases same
      rcases inductionHypothesis othersFound with ⟨part, rfl, onward⟩
      exact ⟨_, rfl, .duplication duplicates onward⟩
  | case4 =>
      cases found
      exact ⟨[], rfl, .nil⟩
  | case5 kind start stop duplicates redirectionTo redirects target behind inductionHypothesis =>
      rcases Fallible.exists_of_map found with ⟨⟨others, behind⟩, othersFound, same⟩
      cases same
      rcases inductionHypothesis othersFound with ⟨part, rfl, onward⟩
      exact ⟨_, rfl, .toFile redirects onward⟩
  | case6 => cases found

theorem tailTokens_of_readTail {source : List Char} {tokens : List Token} {tail : Option Tail}
    {storedTail : List Token → String → Prop}
    (cutTail : ∀ token rest, token :: rest <:+ tokens →
      storedTail (token :: rest) (textFrom source token))
    (found : readTail source tokens = .ok tail) : TailTokens storedTail tokens tail := by
  unfold readTail at found
  split at found
  · cases found
    exact .nothing
  · split at found
    · cases found
    · rename_i joint joins
      split at found
      · split at found
        · rename_i separates
          cases found
          exact .separator joins separates
        · cases found
      · rename_i next others
        cases found
        exact .text joins (List.cons_ne_nil _ _) (cutTail next others (List.suffix_cons _ _))

/-- A branch of a conditional, once its condition and its body have been found. -/
theorem readBranches_of_branch {source : List Char}
    {tokens conditionTokens afterThen bodyTokens rest : List Token}
    {closing condition body : String}
    (conditionFound : requireKeyword branchKeywords false tokens =
      .ok (conditionTokens, "then", afterThen))
    (conditionFilled : filledText source conditionTokens "then" = .ok condition)
    (bodyFound : requireKeyword branchKeywords false afterThen = .ok (bodyTokens, closing, rest))
    (bodyFilled : filledText source bodyTokens closing = .ok body) (closes : closing ≠ "then") :
    readBranches source tokens =
      if closing = "elif" then
        (readBranches source rest).map
          fun (branches, after) => (⟨some condition, body⟩ :: branches, after)
      else if closing = "else" then
        (readElse source rest).map
          fun (branches, after) => (⟨some condition, body⟩ :: branches, after)
      else .ok ([⟨some condition, body⟩], rest) := by
  rw [readBranches]
  split
  · rename_i failed
    rw [conditionFound] at failed
    cases failed
  · rename_i found
    rw [conditionFound] at found
    cases found
    simp only [ne_eq, not_true_eq_false, if_false, conditionFilled]
    split
    · rename_i failed
      rw [bodyFound] at failed
      cases failed
    · rename_i found
      rw [bodyFound] at found
      cases found
      simp only [if_neg closes, bodyFilled]

/-- The conditional or the loop that a keyword opens, without what follows it. -/
def readOpened (source : List Char) (keyword : String) (tokens : List Token) :
    Except SyntaxError (Compound × List Token) :=
  if keyword = "if" then
    (readBranches source tokens).map fun (branches, after) => (.conditional branches, after)
  else if keyword = "for" then readForEach source tokens
  else readLoop (if keyword = "while" then .whileTrue else .untilTrue) source tokens

theorem readCompound_eq (source : List Char) (keyword : String) (tokens : List Token) :
    readCompound source keyword tokens = do
      let (compound, behind) ← readOpened source keyword tokens
      let (redirections, after) ← readRedirections behind
      let tail ← readTail source after
      return ⟨.compound compound redirections, tail⟩ := by
  unfold readCompound readOpened
  split
  · rfl
  · split
    · rfl
    · rfl

/-- A statement that starts with a keyword, once its parts have been found. -/
theorem readCompound_of_parts {source : List Char} {keyword : String}
    {tokens behind after : List Token} {compound : Compound} {redirections : List Redirection}
    {tail : Option Tail} (opened : readOpened source keyword tokens = .ok (compound, behind))
    (redirected : readRedirections behind = .ok (redirections, after))
    (followed : readTail source after = .ok tail) :
    readCompound source keyword tokens = .ok ⟨.compound compound redirections, tail⟩ := by
  rw [readCompound_eq, opened]
  simp only [bind, Except.bind, redirected, followed]
  rfl

/-- The parts that a statement which starts with a keyword is read as. -/
theorem exists_parts_of_readCompound {source : List Char} {keyword : String} {tokens : List Token}
    {statement : Statement} (found : readCompound source keyword tokens = .ok statement) :
    ∃ compound behind redirections after tail,
      readOpened source keyword tokens = .ok (compound, behind) ∧
      readRedirections behind = .ok (redirections, after) ∧ readTail source after = .ok tail ∧
      statement = ⟨.compound compound redirections, tail⟩ := by
  rw [readCompound_eq] at found
  obtain ⟨⟨compound, behind⟩, opened, found⟩ := Fallible.exists_of_bind found
  obtain ⟨⟨redirections, after⟩, redirected, found⟩ := Fallible.exists_of_bind found
  obtain ⟨tail, followed, done⟩ := Fallible.exists_of_bind found
  exact ⟨compound, behind, redirections, after, tail, opened, redirected, followed,
    (Except.ok.inj done).symm⟩

/-- Ordinary commands are read as pipelines. -/
theorem body_of_readPipelines {source : List Char} {draft : PipelineDraft} {tokens : List Token}
    {statement : Statement} (found : readPipelines source draft tokens = .ok statement) :
    ∃ pipelines, statement.body = .pipelines pipelines := by
  fun_induction readPipelines source draft tokens with
  | case1 draft =>
      unfold PipelineDraft.finish at found
      split at found
      · split at found
        · cases found
        · cases found
          exact ⟨_, rfl⟩
      · cases found
        exact ⟨_, rfl⟩
  | case6 =>
      cases found
      exact ⟨_, rfl⟩
  | case4 | case11 | case12 | case14 => cases found
  | case2 | case3 | case5 | case7 | case8 | case9 | case10 | case13 | case15 =>
      rename_i inductionHypothesis
      exact inductionHypothesis found

/-! ## Statements -/

/-- Which of the three forms of a statement the first token of a line opens. -/
inductive Form (source : List Char) (opening : Token) (rest : List Token)
    (statement : Statement) : Prop where
  | function (starts : startsFunction (opening :: rest) = true)
      (found : readFunction source (opening :: rest) = .ok statement)
  | compound {keyword : String} (notFunction : startsFunction (opening :: rest) = false)
      (bare : opening.bare? = some keyword) (starts : startsCompound keyword = true)
      (found : readCompound source keyword rest = .ok statement)
  | ordinary (notFunction : startsFunction (opening :: rest) = false)
      (plain : ∀ keyword, opening.bare? = some keyword → startsCompound keyword = false)
      (found : readPipelines source .initial (opening :: rest) = .ok statement)

section Statements

variable {source : List Char} {line tokens : List Token} {statement : Statement}
  {stored storedTail : List Token → String → Prop}
  (cut : ∀ range, range <:+: line → stored range (spanText source range))
  (cutTail : ∀ token rest, token :: rest <:+ line →
    storedTail (token :: rest) (textFrom source token))

include cut cutTail

theorem functionTokens_of_readFunctionBody {front : List Token} {name : String}
    (named : FunctionNameTokens front name) (within : tokens <:+ line)
    (found : readFunctionBody source name tokens = .ok statement) :
    ∃ part following text tail, FunctionTokens stored part name text ∧
      TailTokens storedTail following tail ∧ front ++ tokens = part ++ following ∧
      statement = ⟨.function name text, tail⟩ := by
  unfold readFunctionBody at found
  rcases exists_newlines tokens with ⟨breaks, newlines, whole⟩
  have inside : tokens.dropWhile (fun token => token.operator? == some .newline) <:+ line :=
    (List.dropWhile_suffix _).trans within
  generalize tokens.dropWhile (fun token => token.operator? == some .newline) = opened at *
  by_cases opens : (opened.head?.bind Token.bare?) = some "\x7b"
  · simp only [opens] at found
    rcases Fallible.exists_of_bind found with ⟨⟨body, keyword, rest⟩, divided, found⟩
    rcases Fallible.exists_of_bind found with ⟨tail, tailRead, done⟩
    cases done
    cases opened with
    | nil => cases opens
    | cons opening others =>
        rcases division_of_requireKeyword ((List.suffix_cons _ _).trans inside) divided with
          ⟨closing, bare, member, same, bodyInside, restInside⟩
        rw [List.mem_singleton.1 member] at bare
        change others = _ at same
        refine ⟨_, rest, _, tail, .mk named newlines opens (cut body bodyInside) bare, ?_, ?_, rfl⟩
        · exact tailTokens_of_readTail (fun token later suffix =>
            cutTail token later (suffix.trans restInside)) tailRead
        · rw [whole, same]
          simp
  · simp only [ne_eq, opens] at found
    cases found

omit cut cutTail in
theorem startsFunction_of_keyword {opening : Token} {rest : List Token}
    (bare : opening.bare? = some "function") : startsFunction (opening :: rest) = true := by
  cases opening with
  | operator kind start stop => cases bare
  | word word =>
      change word.bare? = some "function" at bare
      unfold startsFunction
      simp only [bare]
      rfl

omit cut cutTail in
theorem isParens_of_skipParens {after : List Token} (skipped : skipParens tokens = .ok after) :
    ∃ parens, (parens = [] ∨ IsParens parens) ∧ tokens = parens ++ after := by
  unfold skipParens at skipped
  split at skipped
  · split at skipped
    · cases skipped
      exact ⟨_, .inr (isParens_operators _ _ _ _), rfl⟩
    · cases skipped
  · cases skipped
    exact ⟨[], .inl rfl, rfl⟩

omit cut cutTail in
/-- Without the keyword `function`, a definition starts with a name and two parentheses. -/
theorem isParens_of_startsFunction (starts : startsFunction tokens = true)
    (plain : (tokens.head?.bind Token.bare?) ≠ some "function") :
    ∃ word parens, isName word.text = true ∧ IsParens parens ∧
      tokens = .word word :: (parens ++ tokens.drop 3) := by
  unfold startsFunction at starts
  split at starts
  · rename_i word rest
    change word.bare? ≠ some "function" at plain
    cases bare : word.bare? with
    | none =>
        rw [bare] at starts
        cases starts
    | some text =>
        rw [bare] at starts plain
        have other : (text == "function") = false := by
          rw [beq_eq_false_iff_ne]
          exact fun same => plain (congrArg some same)
        rw [← text_of_bare? bare] at starts other
        simp only [other, Bool.false_or, Bool.and_eq_true] at starts
        rcases starts with ⟨named, parens⟩
        split at parens
        · exact ⟨word, _, named, isParens_operators _ _ _ _, rfl⟩
        · cases parens
  · cases starts

/-- A function definition that is read is laid out as one. -/
theorem functionTokens_of_readFunction (starts : startsFunction tokens = true)
    (within : tokens <:+ line) (found : readFunction source tokens = .ok statement) :
    ∃ part following name text tail, FunctionTokens stored part name text ∧
      TailTokens storedTail following tail ∧ tokens = part ++ following ∧
      statement = ⟨.function name text, tail⟩ := by
  by_cases keyword : (tokens.head?.bind Token.bare?) = some "function"
  · rw [readFunction, if_pos keyword] at found
    split at found
    · rename_i name rest behind
      cases named : isName name.text with
      | false =>
          rw [named] at found
          cases found
      | true =>
          rw [named] at found
          rcases Fallible.exists_of_bind found with ⟨after, skipped, bodyRead⟩
          rcases isParens_of_skipParens skipped with ⟨parens, parensRead, rfl⟩
          cases tokens with
          | nil => cases behind
          | cons opening others =>
              change others = _ at behind
              subst behind
              have inside : after <:+ line := by
                refine List.IsSuffix.trans ?_ within
                exact ⟨opening :: .word name :: parens, by simp⟩
              rcases functionTokens_of_readFunctionBody cut cutTail
                (.keyword keyword named parensRead) inside bodyRead with
                ⟨part, following, text, tail, divided, followed, same, read⟩
              exact ⟨part, following, _, text, tail, divided, followed, same, read⟩
    · cases found
  · rw [readFunction, if_neg keyword] at found
    rcases isParens_of_startsFunction starts keyword with ⟨word, parens, named, parensRead, whole⟩
    have inside : tokens.drop 3 <:+ line := (List.drop_suffix 3 tokens).trans within
    have name : (tokens.head?.map Token.text).getD "" = word.text := by
      rw [whole]
      rfl
    rw [name] at found
    rcases functionTokens_of_readFunctionBody cut cutTail (.parens named parensRead) inside
      found with ⟨part, following, text, tail, divided, followed, same, read⟩
    refine ⟨part, following, _, text, tail, divided, followed, ?_, read⟩
    rw [whole, ← List.cons_append]
    exact same

omit cutTail in
/-- What a keyword opens is laid out as a conditional or as one of the loops. -/
theorem compoundTokens_of_readOpened {opening : Token} {keyword : String} {compound : Compound}
    {behind : List Token} (opens : opening.bare? = some keyword)
    (starts : startsCompound keyword = true) (noFunction : keyword ≠ "function")
    (within : tokens <:+ line)
    (found : readOpened source keyword tokens = .ok (compound, behind)) :
    ∃ part, opening :: tokens = part ++ behind ∧ CompoundTokens stored part compound := by
  unfold readOpened at found
  split at found
  · rename_i conditional
    rcases Fallible.exists_of_map found with ⟨⟨branches, rest⟩, branchesRead, same⟩
    cases same
    rcases branchTokens_of_readBranches cut within branchesRead with ⟨part, rfl, divided⟩
    exact ⟨opening :: part, rfl, .conditional (conditional ▸ opens) divided⟩
  · rename_i conditional
    split at found
    · rename_i forEach
      exact compoundTokens_of_readForEach cut (forEach ▸ opens) within found
    · rename_i forEach
      -- The keyword is one of two that are left.
      have loop : keyword =
          loopKeyword (if keyword = "while" then .whileTrue else .untilTrue) := by
        simp only [startsCompound, List.contains_iff_mem, List.mem_cons, List.not_mem_nil,
          or_false, conditional, forEach, noFunction, false_or] at starts
        rcases starts with rfl | rfl
        · rfl
        · rfl
      rw [loop] at opens
      exact compoundTokens_of_readLoop cut opens within found

/-- A compound statement that is read is laid out as one. -/
theorem compoundTokens_of_readCompound {opening : Token} {keyword : String}
    (opens : opening.bare? = some keyword) (starts : startsCompound keyword = true)
    (noFunction : keyword ≠ "function") (within : opening :: tokens <:+ line)
    (found : readCompound source keyword tokens = .ok statement) :
    ∃ part redirecting following compound redirections tail,
      CompoundTokens stored part compound ∧ RedirectionTokens redirecting redirections ∧
      TailTokens storedTail following tail ∧
      opening :: tokens = part ++ (redirecting ++ following) ∧
      statement = ⟨.compound compound redirections, tail⟩ := by
  have inside : tokens <:+ line := (List.suffix_cons _ _).trans within
  obtain ⟨compound, behind, redirections, after, tail, opened, redirected, tailRead, rfl⟩ :=
    exists_parts_of_readCompound found
  rcases compoundTokens_of_readOpened cut opens starts noFunction inside opened with
    ⟨part, same, divided⟩
  rcases redirectionTokens_of_readRedirections redirected with ⟨redirecting, rfl, redirects⟩
  have behindPart : after <:+ line := by
    refine List.IsSuffix.trans ?_ within
    rw [same, ← List.append_assoc]
    exact List.suffix_append _ _
  have followed : TailTokens storedTail after tail := tailTokens_of_readTail
    (fun token rest suffix => cutTail token rest (suffix.trans behindPart)) tailRead
  exact ⟨part, redirecting, after, compound, redirections, tail, divided, redirects, followed,
    same, rfl⟩

omit cut cutTail in
/-- A line that is read as a statement starts, behind line breaks, as one of three forms. -/
theorem exists_form_of_ofTokens (found : ofTokens source line = .ok (some statement)) :
    ∃ breaks opening rest, (∀ token ∈ breaks, token.operator? = some .newline) ∧
      opening.operator? ≠ some .newline ∧ line = breaks ++ opening :: rest ∧
      Form source opening rest statement := by
  unfold ofTokens at found
  rcases exists_newlines line with ⟨breaks, newlines, whole⟩
  have solid := List.head?_dropWhile_not (fun token => token.operator? == some .newline) line
  generalize line.dropWhile (fun token => token.operator? == some .newline) = opened at *
  simp only at found
  split at found
  · cases found
  · rename_i opening rest
    refine ⟨breaks, opening, rest, newlines, ne_of_beq_false solid, whole, ?_⟩
    split at found
    · rename_i starts
      rcases Fallible.exists_of_map found with ⟨definition, functionRead, same⟩
      cases same
      exact .function starts functionRead
    · rename_i notFunction
      rw [Bool.not_eq_true] at notFunction
      split at found
      · rename_i keyword bare
        split at found
        · rename_i compound
          rcases Fallible.exists_of_map found with ⟨definition, compoundRead, same⟩
          cases same
          exact .compound notFunction bare compound compoundRead
        · rename_i plain
          rcases Fallible.exists_of_map found with ⟨ordinary, pipelinesRead, same⟩
          cases same
          refine .ordinary notFunction (fun other known => ?_) pipelinesRead
          rw [bare] at known
          cases known
          exact Bool.not_eq_true _ ▸ plain
      · rename_i quoted
        rcases Fallible.exists_of_map found with ⟨ordinary, pipelinesRead, same⟩
        cases same
        refine .ordinary notFunction (fun other known => ?_) pipelinesRead
        rw [quoted] at known
        cases known

omit cut cutTail in
theorem Form.ofTokens_eq {breaks rest : List Token} {opening : Token}
    (form : Form source opening rest statement)
    (newlines : ∀ token ∈ breaks, token.operator? = some .newline)
    (solid : opening.operator? ≠ some .newline) :
    ofTokens source (breaks ++ opening :: rest) = .ok (some statement) := by
  have behind : (breaks ++ opening :: rest).dropWhile
      (fun token => token.operator? == some .newline) = opening :: rest := by
    rw [List.dropWhile_append_of_pos fun token member => beq_iff_eq.2 (newlines token member)]
    exact List.dropWhile_cons_of_neg (by simpa using solid)
  unfold ofTokens
  simp only [behind]
  cases form with
  | function starts functionRead => rw [if_pos starts, functionRead, Except.map]
  | compound notFunction bare starts compoundRead =>
      simp only [notFunction, bare, starts, compoundRead, if_true, Bool.false_eq_true, if_false]
      rfl
  | ordinary notFunction plain pipelinesRead =>
      simp only [notFunction, pipelinesRead, Bool.false_eq_true, if_false]
      split
      · rename_i keyword bare
        rw [plain keyword bare]
        rfl
      · rfl

/-- A line that is read as a compound statement or a function definition is laid out as one. -/
theorem statementTokens_of_ofTokens (found : ofTokens source line = .ok (some statement))
    (kept : ∀ pipelines, statement.body ≠ .pipelines pipelines) :
    StatementTokens stored storedTail line statement := by
  rcases exists_form_of_ofTokens found with ⟨breaks, opening, rest, newlines, -, whole, form⟩
  have inside : opening :: rest <:+ line := whole ▸ List.suffix_append _ _
  rw [whole]
  cases form with
  | function starts functionRead =>
      rcases functionTokens_of_readFunction cut cutTail starts inside functionRead with
        ⟨part, following, name, text, tail, divided, followed, same, rfl⟩
      rw [same]
      exact .function newlines divided followed
  | @compound keyword notFunction bare starts compoundRead =>
      have noFunction : keyword ≠ "function" := by
        intro function
        rw [function] at bare
        rw [startsFunction_of_keyword bare] at notFunction
        cases notFunction
      rcases compoundTokens_of_readCompound cut cutTail bare starts noFunction inside
        compoundRead with ⟨part, redirecting, following, body, redirections, tail, divided,
        redirects, followed, same, rfl⟩
      rw [same]
      exact .compound newlines divided redirects followed
  | ordinary _ _ pipelinesRead =>
      rcases body_of_readPipelines pipelinesRead with ⟨pipelines, body⟩
      exact absurd body (kept pipelines)

end Statements

end VirtualShell.Statement
