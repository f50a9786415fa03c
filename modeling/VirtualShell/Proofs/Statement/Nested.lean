import VirtualShell.Proofs.Statement.Balanced

/-!
Contract: a nested statement that is written down is read as itself, at every depth.

Owns:
- `IsPhrase`, marks that neither start nor end with what a cut would take off, and
  `IsGap`, what may stand between two of them;
- `spanText_of_phrase`: the text that is cut out for a phrase is how it is written;
- `read_render`: a written conditional, loop or function is read with exactly the texts of
  its parts, and with the text that follows it.
-/

namespace VirtualShell

/-- Whether a command may start with a mark. -/
def Mark.opens : Mark → Bool
  | .blank => false
  | .bare _ | .quoted _ => true
  | .operator kind => kind.isRedirection

/-- Whether a command may end with a mark. -/
def Mark.ends : Mark → Bool
  | .blank => false
  | .bare _ | .quoted _ => true
  | .operator kind => kind.duplication?.isSome

/-- Whether any mark may stand behind this one. -/
def Mark.separates : Mark → Bool
  | .blank => true
  | .bare _ | .quoted _ => false
  | .operator kind => kind.isWhole

/-- Marks of one command or more. -/
structure IsPhrase (marks : List Mark) : Prop where
  chained : marks.IsChain fun mark next => mark.admits next
  opens : ∃ mark behind, marks = mark :: behind ∧ mark.opens = true
  ends : ∃ before mark, marks = before ++ [mark] ∧ mark.ends = true

/-- Marks that may stand between two phrases. -/
structure IsGap (gap : List Mark) : Prop where
  chained : gap.IsChain fun mark next => mark.admits next
  fits : ∃ mark behind, gap = mark :: behind ∧ mark.endsWord = true
  separates : ∃ before mark, gap = before ++ [mark] ∧ mark.separates = true

theorem Mark.admits_of_ends {mark next : Mark} (ends : mark.ends = true)
    (fits : next.endsWord = true) : mark.admits next = true := by
  cases mark with
  | blank => cases ends
  | bare word => exact fits
  | quoted word => exact fits
  | operator kind => cases kind <;> first | rfl | cases ends

theorem Mark.admits_of_separates {mark next : Mark} (separates : mark.separates = true) :
    mark.admits next = true := by
  cases mark with
  | blank => rfl
  | bare word => cases separates
  | quoted word => cases separates
  | operator kind =>
      change kind.isWhole = true at separates
      simp [Mark.admits, separates]

/-! ## Phrases -/

namespace IsPhrase

theorem before_gap {marks gap : List Mark} (phrase : IsPhrase marks) (between : IsGap gap) :
    (marks ++ gap).IsChain fun mark next => mark.admits next := by
  obtain ⟨before, ending, rfl, ends⟩ := phrase.ends
  obtain ⟨fitting, behind, rfl, fits⟩ := between.fits
  refine List.isChain_append.2 ⟨phrase.chained, between.chained, ?_⟩
  intro mark isLast next isFirst
  rw [List.getLast?_concat, Option.mem_some_iff] at isLast
  rw [List.head?_cons, Option.mem_some_iff] at isFirst
  subst isLast isFirst
  exact Mark.admits_of_ends ends fits

theorem join {left gap right : List Mark} (first : IsPhrase left) (between : IsGap gap)
    (second : IsPhrase right) : IsPhrase (left ++ (gap ++ right)) where
  chained := by
    have start := first.before_gap between
    obtain ⟨before, separator, rfl, separates⟩ := between.separates
    rw [← List.append_assoc]
    refine List.isChain_append.2 ⟨start, second.chained, ?_⟩
    intro mark isLast next _
    rw [← List.append_assoc, List.getLast?_concat, Option.mem_some_iff] at isLast
    subst isLast
    exact Mark.admits_of_separates separates
  opens := by
    obtain ⟨mark, behind, rfl, opens⟩ := first.opens
    exact ⟨mark, behind ++ (gap ++ right), rfl, opens⟩
  ends := by
    obtain ⟨before, mark, rfl, ends⟩ := second.ends
    exact ⟨left ++ (gap ++ before), mark, by simp, ends⟩

theorem bare (word : BareWord) : IsPhrase [.bare word] :=
  ⟨List.isChain_singleton _, ⟨_, [], rfl, rfl⟩, ⟨[], _, rfl, rfl⟩⟩

theorem quoted (word : Quotable) : IsPhrase [.quoted word] :=
  ⟨List.isChain_singleton _, ⟨_, [], rfl, rfl⟩, ⟨[], _, rfl, rfl⟩⟩

theorem blank {left right : List Mark} (first : IsPhrase left) (second : IsPhrase right) :
    IsPhrase (left ++ .blank :: right) := by
  have gap : IsGap [.blank] := ⟨List.isChain_singleton _, ⟨_, [], rfl, rfl⟩, ⟨[], _, rfl, rfl⟩⟩
  exact first.join gap second

/-- A word in front of a phrase. -/
theorem afterWord {marks : List Mark} (phrase : IsPhrase marks) (word : BareWord) :
    IsPhrase (.bare word :: .blank :: marks) :=
  (IsPhrase.bare word).blank phrase

end IsPhrase

namespace Grammar

theorem isGap_semicolon : IsGap [.operator .semicolon, .blank] :=
  ⟨by decide, ⟨_, _, rfl, rfl⟩, ⟨[.operator .semicolon], _, rfl, rfl⟩⟩

theorem isGap_joint (joint : Joint) : IsGap (jointMarks joint) := by
  have blank : ∀ kind, IsGap [.blank, .operator kind, .blank] := by
    intro kind
    have chained : [.blank, .operator kind, .blank].IsChain fun mark next =>
        Mark.admits mark next := by
      cases kind <;> decide
    exact ⟨chained, ⟨_, _, rfl, rfl⟩, ⟨[.blank, .operator kind], _, rfl, rfl⟩⟩
  rcases joint with _ | _ | _ | _ | _
  · exact blank .pipe
  · exact ⟨List.isChain_singleton _, ⟨_, _, rfl, rfl⟩, ⟨[], _, rfl, rfl⟩⟩
  · exact isGap_semicolon
  · exact blank .andThen
  · exact blank .orElse

theorem isPhrase_upTo {marks : List Mark} (phrase : IsPhrase marks) (word : BareWord) :
    IsPhrase (upTo marks word) :=
  phrase.join isGap_semicolon (.bare word)

theorem Item.isPhrase (item : Item) : IsPhrase item.marks := by
  cases item with
  | word quoted => exact .quoted quoted
  | redirection kind redirects target =>
      have opens : (Mark.operator kind).opens = true := by
        cases kind <;> first | rfl | cases redirects
      have chained : [.operator kind, .blank, .quoted target].IsChain fun mark next =>
          Mark.admits mark next := by
        simp [Mark.admits, Mark.isBlank]
      exact ⟨chained, ⟨_, _, rfl, opens⟩, ⟨[.operator kind, .blank], _, rfl, rfl⟩⟩
  | duplication kind duplicates =>
      have opens : (Mark.operator kind).opens = true := by
        cases kind <;> first | rfl | cases duplicates
      exact ⟨List.isChain_singleton _, ⟨_, _, rfl, opens⟩, ⟨[], _, rfl, duplicates⟩⟩

theorem isPhrase_items {marks : List Mark} (phrase : IsPhrase marks) (items : List Item) :
    IsPhrase (marks ++ items.flatMap fun item => .blank :: item.marks) := by
  induction items generalizing marks with
  | nil => simpa using phrase
  | cons item items inductionHypothesis =>
      have longer := inductionHypothesis (phrase.blank item.isPhrase)
      rw [List.flatMap_cons]
      simpa using longer

theorem isPhrase_bangs {marks : List Mark} (phrase : IsPhrase marks) (count : Nat) :
    IsPhrase (bangs count ++ marks) := by
  induction count with
  | zero => exact phrase
  | succ count inductionHypothesis => exact inductionHypothesis.afterWord _

theorem isGap_pause (omitted : Bool) : IsGap (pause omitted) := by
  cases omitted with
  | false => exact isGap_semicolon
  | true => exact ⟨List.isChain_singleton _, ⟨_, [], rfl, rfl⟩, ⟨[], _, rfl, rfl⟩⟩

theorem isPhrase_list (word : Quotable) (others : List Quotable) :
    IsPhrase (listMarks (word :: others)) := by
  induction others generalizing word with
  | nil => exact .quoted word
  | cons next others inductionHypothesis =>
      exact (IsPhrase.quoted word).blank (inductionHypothesis next)

/-- A word in front of the words of a loop, which may be none. -/
theorem isPhrase_upToDo (word : BareWord) (words : List Quotable) (omitted : Bool) :
    IsPhrase (.bare word :: .blank :: upToDo words omitted) := by
  cases words with
  | nil =>
      have gap : IsGap (.blank :: pause omitted) := by
        cases omitted with
        | false =>
            exact ⟨by decide, ⟨_, _, rfl, rfl⟩, ⟨[.blank, .operator .semicolon], _, rfl, rfl⟩⟩
        | true => exact ⟨by decide, ⟨_, _, rfl, rfl⟩, ⟨[.blank], _, rfl, rfl⟩⟩
      exact (IsPhrase.bare word).join gap (.bare (keyword "do"))
  | cons first others =>
      exact ((isPhrase_list first others).join (isGap_pause omitted) (.bare _)).afterWord word

mutual

theorem Block.isPhraseWith (omits : Omission) : ∀ block : Block,
    IsPhrase (block.marksWith omits)
  | .last phrase => phrase.isPhraseWith omits
  | .joined phrase joint rest =>
      (phrase.isPhraseWith _).join (isGap_joint joint) (rest.isPhraseWith _)

theorem Phrase.isPhraseWith (omits : Omission) : ∀ phrase : Phrase,
    IsPhrase (phrase.marksWith omits)
  | .command negations first others =>
      isPhrase_bangs (isPhrase_items first.isPhrase others) negations
  | .clause clause => clause.isPhraseWith omits

theorem Clause.isPhraseWith (omits : Omission) : ∀ clause : Clause,
    IsPhrase (clause.marksWith omits)
  | .conditional branches => (branches.isPhraseWith omits).afterWord _
  | .forEach name list body => by
      have loop : IsPhrase (upTo (body.marksWith (omits.inside 0)) (keyword "done")) :=
        isPhrase_upTo (body.isPhraseWith _) _
      have head := isPhrase_upToDo (keyword "in") list (omits [])
      exact ((head.blank loop).afterWord _).afterWord _
  | .loop kind condition body =>
      ((isPhrase_upTo (condition.isPhraseWith _) _).blank
        (isPhrase_upTo (body.isPhraseWith _) _)).afterWord _
  | .function name body => by
      have gap : IsGap [.operator .openParen, .operator .closeParen, .blank] :=
        ⟨by decide, ⟨_, _, rfl, rfl⟩, ⟨[.operator .openParen, .operator .closeParen], _, rfl, rfl⟩⟩
      exact (IsPhrase.bare _).join gap ((isPhrase_upTo (body.isPhraseWith omits) _).afterWord _)

theorem Branches.isPhraseWith (omits : Omission) : ∀ branches : Branches,
    IsPhrase (branches.marksWith omits)
  | .last condition body =>
      (isPhrase_upTo (condition.isPhraseWith _) _).blank (isPhrase_upTo (body.isPhraseWith _) _)
  | .otherwise condition body alternative =>
      (isPhrase_upTo (condition.isPhraseWith _) _).blank <|
        (isPhrase_upTo (body.isPhraseWith _) _).blank
          (isPhrase_upTo (alternative.isPhraseWith _) _)
  | .elseIf condition body rest =>
      (isPhrase_upTo (condition.isPhraseWith _) _).blank <|
        (isPhrase_upTo (body.isPhraseWith _) _).blank (rest.isPhraseWith _)

end

theorem Block.isPhrase (block : Block) : IsPhrase block.marks := by
  rw [← block.marksWith_none]
  exact block.isPhraseWith .none

theorem Clause.isPhrase (clause : Clause) : IsPhrase clause.marks := by
  rw [← clause.marksWith_none]
  exact clause.isPhraseWith .none

/-! ## Cutting a phrase out of its line -/

/-- Some marks are written in a line at an offset. -/
def Stands (source : List Char) (start : Nat) (marks : List Mark) : Prop :=
  spell marks <+: source.drop start

variable {source : List Char} {start : Nat} {marks : List Mark}

theorem Stands.left {right : List Mark} (stands : Stands source start (marks ++ right)) :
    Stands source start marks := by
  rw [Stands, spell_append] at stands
  exact (List.prefix_append _ _).trans stands

theorem Stands.right {left : List Mark} (stands : Stands source start (left ++ marks)) :
    Stands source (start + (spell left).length) marks := by
  obtain ⟨behind, whole⟩ := stands
  refine ⟨behind, ?_⟩
  rw [← List.drop_drop, ← whole, spell_append, List.append_assoc, List.drop_left]

theorem isBlank_of_isPlainChar {c : Char} (plain : isPlainChar c = true) :
    Text.isBlank c = false := by
  have printable : 0x21 ≤ c.val.toNat ∧ c.val.toNat ≤ 0x7D := by
    unfold isPlainChar isNameChar Char.isAlphanum Char.isAlpha Char.isUpper Char.isLower
      Char.isDigit at plain
    simp only [Bool.or_eq_true, Bool.and_eq_true, decide_eq_true_eq, beq_iff_eq, ge_iff_le,
      UInt32.le_iff_toNat_le] at plain
    rcases plain with ((((((upper | lower) | digit) | rfl) | rfl) | rfl) | rfl)
    · exact ⟨Nat.le_trans (by decide) upper.1, Nat.le_trans upper.2 (by decide)⟩
    · exact ⟨Nat.le_trans (by decide) lower.1, Nat.le_trans lower.2 (by decide)⟩
    · exact ⟨Nat.le_trans (by decide) digit.1, Nat.le_trans digit.2 (by decide)⟩
    all_goals decide
  simp only [Text.isBlank, Bool.or_eq_false_iff, Bool.and_eq_false_iff, decide_eq_false_iff_not,
    beq_eq_false_iff_ne, ne_eq, UInt32.le_iff_toNat_le, ← UInt32.toNat_inj, UInt32.reduceToNat]
  omega

/-- A word or an operator in front of a command is no separator and starts with no white
space. -/
theorem exists_token_of_opens {mark : Mark} (opens : mark.opens = true) (start : Nat) :
    ∃ token, mark.token? start = some token ∧ token.start = start ∧ token.isSeparator = false ∧
      ∃ c behind, mark.spelling = c :: behind ∧ Text.isBlank c = false := by
  cases mark with
  | blank => cases opens
  | bare word =>
      obtain ⟨c, behind, chars, plain, -⟩ := word.exists_cons
      exact ⟨_, rfl, rfl, rfl, c, behind, chars, isBlank_of_isPlainChar plain⟩
  | quoted word => exact ⟨_, rfl, rfl, rfl, _, _, rfl, rfl⟩
  | operator kind =>
      cases kind <;> first | exact ⟨_, rfl, rfl, rfl, _, _, rfl, rfl⟩ | cases opens

theorem exists_token_of_ends {mark : Mark} (ends : mark.ends = true) (start : Nat) :
    ∃ token, mark.token? start = some token ∧ token.stop = start + mark.spelling.length ∧
      token.isSeparator = false ∧
      ∃ before c, mark.spelling = before ++ [c] ∧ Text.isBlank c = false := by
  cases mark with
  | blank => cases ends
  | bare word =>
      rcases List.eq_nil_or_concat word.text.toList with none | ⟨before, c, chars⟩
      · obtain ⟨c, others, chars, -⟩ := word.exists_cons
        rw [none] at chars
        cases chars
      · have plain := List.all_eq_true.1 word.plain c (by simp [chars])
        exact ⟨_, rfl, rfl, rfl, before, c, by simp [Mark.spelling, chars],
          isBlank_of_isPlainChar plain⟩
  | quoted word =>
      exact ⟨_, rfl, rfl, rfl, '\'' :: word.text.toList, '\'', by simp [Mark.spelling], rfl⟩
  | operator kind =>
      cases kind with
      | errorToOut => exact ⟨_, rfl, rfl, rfl, ['2', '>', '&'], '1', rfl, rfl⟩
      | outToError => exact ⟨_, rfl, rfl, rfl, ['>', '&'], '2', rfl, rfl⟩
      | _ => cases ends

theorem trimChars_eq_self {chars : List Char} {first last : Char} {behind before : List Char}
    (opens : chars = first :: behind) (solid : Text.isBlank first = false)
    (ends : chars = before ++ [last]) (firm : Text.isBlank last = false) :
    Text.trimChars chars = chars := by
  have front : Text.trimStart chars = chars := by
    rw [Text.trimStart, opens, List.dropWhile_cons, solid]
    rfl
  rw [Text.trimChars, front, Text.trimEnd, ends, List.reverse_concat, List.dropWhile_cons, firm]
  simp

theorem trimSeparators_append {tokens separators : List Token} {first last : Token}
    {behind before : List Token} (opens : tokens = first :: behind)
    (solid : first.isSeparator = false) (ends : tokens = before ++ [last])
    (firm : last.isSeparator = false) (separate : ∀ token ∈ separators, token.isSeparator = true) :
    Statement.trimSeparators (tokens ++ separators) = tokens := by
  have front : (tokens ++ separators).dropWhile Token.isSeparator = tokens ++ separators := by
    rw [opens, List.cons_append, List.dropWhile_cons, solid]
    rfl
  have back : ∀ token ∈ separators.reverse, token.isSeparator = true := by
    simpa using separate
  rw [Statement.trimSeparators, front, List.reverse_append, List.dropWhile_append_of_pos back,
    ends, List.reverse_concat, List.dropWhile_cons, firm]
  simp

/-- The characters of a phrase start and end with none of white space. -/
theorem trimChars_spell (phrase : IsPhrase marks) :
    Text.trimChars (spell marks) = spell marks := by
  obtain ⟨opening, behind, rfl, opens⟩ := phrase.opens
  obtain ⟨before, ending, whole, ends⟩ := phrase.ends
  obtain ⟨-, -, -, -, c, others, spelled, solid⟩ := exists_token_of_opens opens 0
  obtain ⟨-, -, -, -, front, d, written, firm⟩ := exists_token_of_ends ends 0
  have first : spell (opening :: behind) = c :: (others ++ spell behind) := by
    rw [spell_cons, spelled, List.cons_append]
  have last : spell (opening :: behind) = (spell before ++ front) ++ [d] := by
    rw [whole, spell_append, List.append_assoc, ← written]
    simp [spell]
  exact trimChars_eq_self first solid last firm

/-- What is cut out for a phrase in front of a keyword is how it is written, with or without a
semicolon between them. -/
theorem spanText_of_isPhrase (phrase : IsPhrase marks) (stands : Stands source start marks)
    (omitted : Bool) :
    Statement.spanText source (tokensAt start (marks ++ pause omitted)) =
      String.ofList (spell marks) := by
  obtain ⟨opening, behind, opened, opens⟩ := phrase.opens
  obtain ⟨before, ending, ended, ends⟩ := phrase.ends
  obtain ⟨first, firstToken, firstStart, solid, -⟩ := exists_token_of_opens opens start
  obtain ⟨last, lastToken, lastStop, firm, -⟩ :=
    exists_token_of_ends ends (start + (spell before).length)
  have front : tokensAt start marks =
      first :: tokensAt (start + opening.spelling.length) behind := by
    rw [opened, tokensAt, firstToken]
    rfl
  have back : tokensAt start marks = tokensAt start before ++ [last] := by
    rw [ended, tokensAt_append, tokensAt, lastToken]
    rfl
  have separate : ∀ start, ∀ token ∈ tokensAt start (pause omitted), token.isSeparator = true := by
    intro start token member
    cases omitted with
    | false =>
        rw [List.mem_singleton.1 member]
        rfl
    | true => cases member
  have core : Statement.trimSeparators (tokensAt start (marks ++ pause omitted)) =
      tokensAt start marks := by
    rw [tokensAt_append]
    exact trimSeparators_append front solid back firm (separate _)
  have stop : last.stop = start + (spell marks).length := by
    rw [lastStop, ended, spell_append, List.length_append, Nat.add_assoc]
    simp [spell]
  have cut : Statement.slice source start (start + (spell marks).length) = spell marks := by
    rw [Statement.slice, Nat.add_sub_cancel_left]
    exact (List.prefix_iff_eq_take.1 stands).symm
  rw [Statement.spanText, core]
  have firstFound : (tokensAt start marks).head? = some first := by rw [front]; rfl
  have lastFound : (tokensAt start marks).getLast? = some last := by rw [back]; simp
  simp only [firstFound, lastFound, firstStart, stop, cut, trimChars_spell phrase]

theorem filledText_of_isPhrase (phrase : IsPhrase marks) (stands : Stands source start marks)
    (keyword : String) :
    Statement.filledText source (tokensAt start (marks ++ [.operator .semicolon, .blank])) keyword =
      .ok (String.ofList (spell marks)) := by
  obtain ⟨opening, behind, rfl, opens⟩ := phrase.opens
  obtain ⟨-, -, -, -, c, others, spelled, -⟩ := exists_token_of_opens opens 0
  have filled : (String.ofList (spell (opening :: behind))).isEmpty = false := by
    rw [spell_cons, spelled]
    simp
  have cut : Statement.spanText source
      (tokensAt start (opening :: behind ++ [.operator .semicolon, .blank])) = _ :=
    spanText_of_isPhrase phrase stands false
  rw [Statement.filledText, cut]
  simp only [filled]
  rfl

/-! ## Reading the parts of a statement -/

/-- A steady block in front of a keyword is found, and cut out as it is written. -/
theorem exists_part {stops : List String} {word : BareWord} {omits : Omission} (block : Block)
    (strays : OnlyStrays stops) (wanted : word.text ∈ stops) (anywhere : Bool)
    (steady : block.isSteady omits = true)
    (stands : Stands source start (upTo (block.marksWith omits) word)) (rest : List Token) :
    ∃ own, Statement.requireKeyword stops anywhere
        (tokensAt start (upTo (block.marksWith omits) word) ++ rest) =
          .ok (own, word.text, rest) ∧
      (∀ keyword, Statement.filledText source own keyword = .ok (block.renderWith omits)) ∧
      Statement.spanText source own = block.renderWith omits := by
  have skipped : Skips stops anywhere .initial (block.marksWith omits) ⟨[], false, false⟩ :=
    block.skipsWith strays (by intro closer none; cases none) steady .command
  exact ⟨_, requireKeyword_upTo skipped wanted start rest,
    filledText_of_isPhrase (block.isPhraseWith omits) stands.left,
    spanText_of_isPhrase (block.isPhraseWith omits) stands.left false⟩

open VirtualShell.Statement

theorem onlyStrays_branchKeywords : OnlyStrays branchKeywords := by
  unfold OnlyStrays
  decide

/-- The marks behind a blank. -/
theorem tokensAt_append_blank (start : Nat) (left right : List Mark) (rest : List Token) :
    tokensAt start (left ++ .blank :: right) ++ rest =
      tokensAt start left ++ (tokensAt (start + (spell left).length + 1) right ++ rest) := by
  rw [tokensAt_append, List.append_assoc]
  rfl

theorem Stands.behind_blank {left right : List Mark}
    (stands : Stands source start (left ++ .blank :: right)) :
    Stands source (start + (spell left).length + 1) right := by
  have blank : Stands source (start + (spell left).length) ([.blank] ++ right) := stands.right
  exact blank.right

/-- The branch that a condition and a body are, in front of the keyword that ends it. -/
theorem readBranches_marks_of_branch {omits : Omission} (condition body : Block)
    {closing : BareWord} (wanted : closing.text ∈ branchKeywords) (closes : closing.text ≠ "then")
    (steady : condition.isSteady (omits.inside 0) = true ∧ body.isSteady (omits.inside 1) = true)
    (stands : Stands source start
      (upTo (condition.marksWith (omits.inside 0)) (keyword "then") ++
        .blank :: upTo (body.marksWith (omits.inside 1)) closing))
    (rest : List Token) :
    readBranches source (tokensAt start
        (upTo (condition.marksWith (omits.inside 0)) (keyword "then") ++
          .blank :: upTo (body.marksWith (omits.inside 1)) closing) ++ rest) =
      let branch : Branch :=
        ⟨some (condition.renderWith (omits.inside 0)), body.renderWith (omits.inside 1)⟩
      if closing.text = "elif" then
        (readBranches source rest).map fun (branches, after) => (branch :: branches, after)
      else if closing.text = "else" then
        (readElse source rest).map fun (branches, after) => (branch :: branches, after)
      else .ok ([branch], rest) := by
  rw [tokensAt_append_blank]
  obtain ⟨_, conditionFound, conditionFilled, -⟩ :=
    exists_part condition onlyStrays_branchKeywords (by decide) false steady.1 stands.left _
  obtain ⟨_, bodyFound, bodyFilled, -⟩ :=
    exists_part body onlyStrays_branchKeywords wanted false steady.2 stands.behind_blank rest
  exact readBranches_of_branch conditionFound (conditionFilled _) bodyFound (bodyFilled _) closes

theorem readElse_marks {omits : Omission} (alternative : Block)
    (steady : alternative.isSteady omits = true)
    (stands : Stands source start (upTo (alternative.marksWith omits) (keyword "fi")))
    (rest : List Token) :
    readElse source
        (tokensAt start (upTo (alternative.marksWith omits) (keyword "fi")) ++ rest) =
      .ok ([⟨none, alternative.renderWith omits⟩], rest) := by
  obtain ⟨_, found, filled, -⟩ :=
    exists_part alternative onlyStrays_branchKeywords (by decide) false steady stands rest
  rw [readElse, found]
  simp only [bind, Except.bind, keyword, ne_eq, not_true_eq_false, if_false, filled]
  rfl

theorem Branches.readBranches_marks : ∀ (branches : Branches) {omits : Omission} {start : Nat},
    branches.isSteady omits = true → Stands source start (branches.marksWith omits) →
    ∀ rest : List Token,
      readBranches source (tokensAt start (branches.marksWith omits) ++ rest) =
        .ok (branches.storedWith omits, rest)
  | .last condition body, omits, start, steady, stands, rest => by
      rw [Branches.isSteady, Bool.and_eq_true] at steady
      exact readBranches_marks_of_branch condition body (by decide) (by decide) steady stands rest
  | .otherwise condition body alternative, omits, start, steady, stands, rest => by
      simp only [Branches.isSteady, Bool.and_eq_true] at steady
      have whole : (Branches.otherwise condition body alternative).marksWith omits =
          (upTo (condition.marksWith (omits.inside 0)) (keyword "then") ++
            .blank :: upTo (body.marksWith (omits.inside 1)) (keyword "else")) ++
            .blank :: upTo (alternative.marksWith (omits.inside 2)) (keyword "fi") := by
        simp [Branches.marksWith]
      rw [whole] at stands ⊢
      rw [tokensAt_append_blank, readBranches_marks_of_branch condition body (by decide)
          (by decide) ⟨steady.1, steady.2.1⟩ stands.left,
        readElse_marks alternative steady.2.2 stands.behind_blank]
      rfl
  | .elseIf condition body others, omits, start, steady, stands, rest => by
      simp only [Branches.isSteady, Bool.and_eq_true] at steady
      have whole : (Branches.elseIf condition body others).marksWith omits =
          (upTo (condition.marksWith (omits.inside 0)) (keyword "then") ++
            .blank :: upTo (body.marksWith (omits.inside 1)) (keyword "elif")) ++
            .blank :: others.marksWith (omits.inside 2) := by
        simp [Branches.marksWith]
      rw [whole] at stands ⊢
      rw [tokensAt_append_blank, readBranches_marks_of_branch condition body (by decide)
          (by decide) ⟨steady.1, steady.2.1⟩ stands.left,
        others.readBranches_marks steady.2.2 stands.behind_blank]
      rfl

theorem readLoopBody_marks {omits : Omission} (body : Block) (steady : body.isSteady omits = true)
    (stands : Stands source start (upTo (body.marksWith omits) (keyword "done")))
    (rest : List Token) :
    readLoopBody source (tokensAt start (upTo (body.marksWith omits) (keyword "done")) ++ rest) =
      .ok (body.renderWith omits, rest) := by
  have strays : OnlyStrays ["done"] := by
    unfold OnlyStrays
    decide
  obtain ⟨_, found, filled, -⟩ := exists_part body strays (by decide) false steady stands rest
  rw [readLoopBody, found]
  simp only [bind, Except.bind, filled]
  rfl

theorem onlyStrays_do : OnlyStrays ["do"] := by
  unfold OnlyStrays
  decide

theorem readLoop_marks {omits : Omission} (kind : LoopKind) (condition body : Block)
    (steady : condition.isSteady (omits.inside 0) = true ∧ body.isSteady (omits.inside 1) = true)
    (stands : Stands source start
      (upTo (condition.marksWith (omits.inside 0)) (keyword "do") ++
        .blank :: upTo (body.marksWith (omits.inside 1)) (keyword "done")))
    (rest : List Token) :
    readLoop kind source (tokensAt start
        (upTo (condition.marksWith (omits.inside 0)) (keyword "do") ++
          .blank :: upTo (body.marksWith (omits.inside 1)) (keyword "done")) ++ rest) =
      .ok (.loop kind (condition.renderWith (omits.inside 0))
        (body.renderWith (omits.inside 1)), rest) := by
  rw [tokensAt_append_blank]
  obtain ⟨_, found, filled, -⟩ :=
    exists_part condition onlyStrays_do (by decide) true steady.1 stands.left _
  rw [readLoop, found]
  simp only [bind, Except.bind, filled, readLoopBody_marks body steady.2 stands.behind_blank]
  rfl

theorem spanText_list (words : List Quotable) (stands : Stands source start (listMarks words))
    (omitted : Bool) :
    spanText source (tokensAt start (listMarks words ++ pause omitted)) = renderList words := by
  cases words with
  | nil => cases omitted <;> rfl
  | cons word others =>
      rw [spanText_of_isPhrase (isPhrase_list word others) stands, ← toList_renderList,
        String.ofList_toList]

/-- The marks of a loop over words behind `for`. -/
def forEachMarks (omits : Omission) (name : Name) (list : List Quotable) (body : Block) :
    List Mark :=
  ((Clause.forEach name list body).marksWith omits).drop 2

theorem readForEach_marks {omits : Omission} (name : Name) (list : List Quotable) (body : Block)
    (steady : body.isSteady (omits.inside 0) = true)
    (stands : Stands source start (forEachMarks omits name list body)) (rest : List Token) :
    readForEach source (tokensAt start (forEachMarks omits name list body) ++ rest) =
      .ok (.forEach name.text (renderList list) (body.renderWith (omits.inside 0)), rest) := by
  obtain ⟨first, second, opening, firstText, secondBare⟩ : ∃ first second : Word,
      tokensAt start [.bare (.ofName name.text name.named), .blank, .bare (keyword "in")] =
        [.word first, .word second] ∧ first.text = name.text ∧ second.bare? = some "in" := by
    refine ⟨_, _, rfl, ?_, ?_⟩
    · simp [Word.text, BareWord.ofName]
    · rfl
  have marks : forEachMarks omits name list body =
      [.bare (.ofName name.text name.named), .blank, .bare (keyword "in")] ++ .blank ::
        (upToDo list (omits []) ++
          .blank :: upTo (body.marksWith (omits.inside 0)) (keyword "done")) :=
    rfl
  rw [marks] at stands ⊢
  have inner := stands.behind_blank
  rw [tokensAt_append_blank, tokensAt_append_blank, opening]
  simp only [readForEach, List.cons_append, List.nil_append, firstText, name.named,
    List.head?_cons, Option.bind_some, Token.bare?, Token.word?, secondBare, List.tail_cons,
    requireKeyword_upToDo, bind, Except.bind, readLoopBody_marks body steady inner.behind_blank,
    spanText_list list inner.left.left]
  rfl

/-! ## Reading what follows a statement -/

theorem exists_token_of_joint (joint : Joint) (start : Nat) :
    ∃ kind first stop, tokensAt start (jointMarks joint) = [.operator kind first stop] ∧
      kind.joint? = some joint ∧ kind.duplication? = none ∧ kind.redirectionTo? = none := by
  rcases joint with _ | _ | _ | _ | _ <;> exact ⟨_, _, _, rfl, rfl, rfl, rfl⟩

theorem readRedirections_continuationWith (omits : Omission)
    (continuation : Option (Joint × Block)) (start : Nat) :
    readRedirections (tokensAt start (continuationMarksWith omits continuation)) =
      .ok ([], tokensAt start (continuationMarksWith omits continuation)) := by
  cases continuation with
  | none => rfl
  | some following =>
      obtain ⟨kind, first, stop, token, -, duplicates, redirects⟩ :=
        exists_token_of_joint following.1 start
      rw [continuationMarksWith, tokensAt_append, token, List.singleton_append, readRedirections,
        duplicates, redirects]

theorem readRedirections_continuation (continuation : Option (Joint × Block)) (start : Nat) :
    readRedirections (tokensAt start (continuationMarks continuation)) =
      .ok ([], tokensAt start (continuationMarks continuation)) := by
  rw [← continuationMarksWith_none]
  exact readRedirections_continuationWith .none continuation start

/-- What follows a statement is the joint and the text of the rest of the line. -/
theorem readTail_continuationWith {omits : Omission} {continuation : Option (Joint × Block)}
    (ends : source.drop start = spell (continuationMarksWith omits continuation)) :
    readTail source (tokensAt start (continuationMarksWith omits continuation)) =
      .ok (tailWith omits continuation) := by
  cases continuation with
  | none => rfl
  | some following =>
      obtain ⟨joint, rest⟩ := following
      have phrase := rest.isPhraseWith omits
      obtain ⟨kind, first, stop, token, joins, -, -⟩ := exists_token_of_joint joint start
      obtain ⟨opening, behind, opened, opens⟩ := phrase.opens
      obtain ⟨next, nextToken, nextStart, -, -⟩ :=
        exists_token_of_opens opens (start + (spell (jointMarks joint)).length)
      have front : tokensAt (start + (spell (jointMarks joint)).length) (rest.marksWith omits) =
          next :: tokensAt
            (start + (spell (jointMarks joint)).length + opening.spelling.length) behind := by
        rw [opened, tokensAt, nextToken]
        rfl
      have text : textFrom source next = rest.renderWith omits := by
        rw [textFrom, nextStart, ← List.drop_drop, ends, continuationMarksWith, spell_append,
          List.drop_left, trimChars_spell phrase, Block.renderWith]
      rw [continuationMarksWith, tokensAt_append, token, front]
      simp only [readTail, List.singleton_append, Token.operator?, Option.bind_some, joins, text]
      rfl

theorem readTail_continuation {continuation : Option (Joint × Block)}
    (ends : source.drop start = spell (continuationMarks continuation)) :
    readTail source (tokensAt start (continuationMarks continuation)) =
      .ok (continuation.map fun (joint, rest) => ⟨joint, rest.render⟩) := by
  rw [← continuationMarksWith_none] at ends ⊢
  rw [readTail_continuationWith ends, tailWith_none]

/-! ## Reading a statement -/

/-- No function is defined where a command, or a second word, stands behind a keyword. -/
theorem startsFunction_of_opens {word : Word} {text : String} {mark : Mark}
    (bare : word.bare? = some text) (other : text ≠ "function") (opens : mark.opens = true)
    (start : Nat) (rest : List Token) :
    startsFunction (.word word :: ((mark.token? start).toList ++ rest)) = false := by
  have otherwise : (text == "function") = false := beq_eq_false_iff_ne.2 other
  have first : ∀ token ∈ mark.token? start, token.operator? ≠ some .openParen := by
    intro token member same
    cases mark with
    | blank => cases opens
    | bare found | quoted found =>
        cases member
        cases same
    | operator kind =>
        cases member
        cases same
        cases opens
  unfold startsFunction
  simp only [bare, otherwise, Bool.false_or]
  split
  · rename_i front
    obtain ⟨found, same⟩ : ∃ found, mark.token? start = some found := by
      cases mark <;> first | exact ⟨_, rfl⟩ | cases opens
    rw [same, Option.toList_some, List.singleton_append] at front
    cases front
    exact absurd rfl (first _ same)
  · exact Bool.and_false _

/-- A keyword in front of a phrase starts what `readCompound` reads behind it. -/
theorem ofTokens_of_keyword {word : BareWord} {statement : Statement} {rest : List Token}
    (starts : startsCompound word.text = true) (other : word.text ≠ "function")
    (opened : ∃ mark behind, marks = mark :: behind ∧ mark.opens = true)
    (stands : Stands source 0 (.bare word :: .blank :: marks))
    (found : ∀ start, Stands source start marks →
      readCompound source word.text (tokensAt start marks ++ rest) = .ok statement) :
    ofTokens source (tokensAt 0 (.bare word :: .blank :: marks) ++ rest) =
      .ok (some statement) := by
  have apart : Mark.bare word :: .blank :: marks = [.bare word] ++ .blank :: marks := rfl
  rw [apart] at stands ⊢
  have inner := found _ stands.behind_blank
  obtain ⟨first, token, bare⟩ : ∃ first : Word, tokensAt 0 [.bare word] = [.word first] ∧
      first.bare? = some word.text := by
    refine ⟨_, rfl, ?_⟩
    simp [Word.bare?, Word.isQuoted, Segment.isQuoted, Word.text]
  obtain ⟨opening, behind, rfl, opens⟩ := opened
  rw [tokensAt_append_blank, token, List.singleton_append]
  have plain : startsFunction (.word first ::
      (tokensAt (0 + (spell [.bare word]).length + 1) (opening :: behind) ++ rest)) = false := by
    rw [tokensAt, List.append_assoc]
    exact startsFunction_of_opens bare other opens _ _
  have kept : (Token.word first ::
      (tokensAt (0 + (spell [.bare word]).length + 1) (opening :: behind) ++ rest)).dropWhile
        (fun token => token.operator? == some .newline) =
      .word first ::
        (tokensAt (0 + (spell [.bare word]).length + 1) (opening :: behind) ++ rest) := rfl
  rw [ofTokens, kept]
  simp only [plain, Token.bare?, Token.word?, Option.bind_some, bare, starts, inner]
  rfl

/-- A name in front of two parentheses and a brace starts a function definition. -/
theorem ofTokens_of_function {omits : Omission} {name : FunctionName} {body : Block}
    {rest : List Token} {tail : Option Tail} (steady : body.isSteady omits = true)
    (stands : Stands source 0 ((Clause.function name body).marksWith omits))
    (followed : readTail source rest = .ok tail) :
    ofTokens source (tokensAt 0 ((Clause.function name body).marksWith omits) ++ rest) =
      .ok (some ⟨.function name.text (body.renderWith omits), tail⟩) := by
  have apart : (Clause.function name body).marksWith omits =
      [.bare (.ofName name.text name.named), .operator .openParen, .operator .closeParen, .blank,
        .bare (keyword "\x7b")] ++ .blank :: upTo (body.marksWith omits) (keyword "\x7d") := rfl
  rw [apart] at stands ⊢
  have strays : OnlyStrays ["\x7d"] := by
    unfold OnlyStrays
    decide
  obtain ⟨own, found, -, cut⟩ :=
    exists_part body strays (by decide) false steady stands.behind_blank rest
  obtain ⟨-, -, other⟩ := name.opensNothing
  have plain : (name.text == "function") = false := beq_eq_false_iff_ne.2 other
  rw [tokensAt_append_blank]
  obtain ⟨first, opening, openStart, openStop, closeStart, closeStop, front, firstBare, braceBare⟩ :
      ∃ first brace : Word, ∃ openStart openStop closeStart closeStop,
        tokensAt 0 [.bare (.ofName name.text name.named), .operator .openParen,
          .operator .closeParen, .blank, .bare (keyword "\x7b")] =
          [.word first, .operator .openParen openStart openStop,
            .operator .closeParen closeStart closeStop, .word brace] ∧
        first.bare? = some name.text ∧ brace.bare? = some "\x7b" := by
    refine ⟨_, _, _, _, _, _, rfl, ?_, ?_⟩
    · simp [Word.bare?, Word.isQuoted, Segment.isQuoted, Word.text, BareWord.ofName]
    · rfl
  rw [front]
  have starts : ∀ behind, startsFunction (.word first :: .operator .openParen openStart openStop ::
      .operator .closeParen closeStart closeStop :: behind) = true := by
    intro behind
    simp [startsFunction, firstBare, name.named]
  have opened : ∀ behind : List Token, (Token.word opening :: behind).dropWhile
      (fun token => token.operator? == some .newline) = .word opening :: behind := fun _ => rfl
  have named : first.text = name.text := text_of_bare? firstBare
  simp only [ofTokens, List.cons_append, List.nil_append]
  rw [List.dropWhile_cons_of_neg (by simp [Token.operator?])]
  simp only [starts, if_true, readFunction, List.head?_cons, Option.bind_some, Token.bare?,
    Token.word?, firstBare, Option.some.injEq, other, if_false, Option.map_some, Token.text, named,
    Option.getD_some, List.drop_succ_cons, List.drop_zero, readFunctionBody, opened, braceBare,
    List.tail_cons, found, bind, Except.bind, followed, cut]
  rfl

theorem ofTokens_marksWith {omits : Omission} (clause : Clause) {rest : List Token}
    {tail : Option Tail} (steady : clause.isSteadyInside omits = true)
    (stands : Stands source 0 (clause.marksWith omits))
    (unredirected : readRedirections rest = .ok ([], rest))
    (followed : readTail source rest = .ok tail) :
    ofTokens source (tokensAt 0 (clause.marksWith omits) ++ rest) =
      .ok (some ⟨clause.bodyWith omits, tail⟩) := by
  cases clause with
  | conditional branches =>
      refine ofTokens_of_keyword rfl (by decide) (branches.isPhraseWith omits).opens stands ?_
      intro start inner
      refine readCompound_of_parts ?_ unredirected followed
      rw [readOpened, text_keyword, if_pos rfl, branches.readBranches_marks steady inner]
      rfl
  | forEach name list body =>
      refine ofTokens_of_keyword rfl (by decide) ⟨_, _, rfl, rfl⟩ stands ?_
      intro start inner
      refine readCompound_of_parts ?_ unredirected followed
      rw [readOpened, text_keyword, if_neg (by decide), if_pos rfl]
      exact readForEach_marks name list body steady inner rest
  | loop kind condition body =>
      have parts := Bool.and_eq_true_iff.1 steady
      have opened := ((isPhrase_upTo (condition.isPhraseWith (omits.inside 0)) (keyword "do")).blank
        (isPhrase_upTo (body.isPhraseWith (omits.inside 1)) (keyword "done"))).opens
      cases kind
      all_goals
        refine ofTokens_of_keyword rfl (by decide) opened stands ?_
        intro start inner
        refine readCompound_of_parts ?_ unredirected followed
        exact readLoop_marks _ condition body parts inner rest
  | function name body => exact ofTokens_of_function steady stands followed

theorem ofTokens_marks (clause : Clause) {rest : List Token} {tail : Option Tail}
    (stands : Stands source 0 clause.marks) (unredirected : readRedirections rest = .ok ([], rest))
    (followed : readTail source rest = .ok tail) :
    ofTokens source (tokensAt 0 clause.marks ++ rest) = .ok (some ⟨clause.body, tail⟩) := by
  have steady : clause.isSteadyInside .none = true := clause.isSteadyInside_none
  rw [← clause.marksWith_none] at stands ⊢
  rw [ofTokens_marksWith clause steady stands unredirected followed, clause.bodyWith_none]

/-- A conditional, a loop or a function that is written in a line is read with the texts of its
parts as they are written, and with the text that follows it. -/
theorem read_render (clause : Clause) (continuation : Option (Joint × Block)) :
    Statement.read (clause.render ++ renderContinuation continuation) =
      .ok (some ⟨clause.body,
        continuation.map fun (joint, rest) => ⟨joint, rest.render⟩⟩) := by
  have written : (clause.render ++ renderContinuation continuation).toList =
      spell (clause.marks ++ continuationMarks continuation) := by
    rw [String.toList_append, clause.toList_render, toList_renderContinuation, spell_append]
  have chained : (clause.marks ++ continuationMarks continuation).IsChain
      fun mark next => mark.admits next := by
    cases continuation with
    | none => simpa [continuationMarks] using clause.isPhrase.chained
    | some following =>
        exact (clause.isPhrase.join (isGap_joint following.1) following.2.isPhrase).chained
  have scanned := scan_spell chained
  rw [← written, String.ofList_toList, tokensAt_append, Nat.zero_add] at scanned
  have stands :
      Stands (clause.render ++ renderContinuation continuation).toList 0 clause.marks := by
    rw [Stands, written, spell_append]
    exact List.prefix_append _ _
  have ends : (clause.render ++ renderContinuation continuation).toList.drop
      (spell clause.marks).length = spell (continuationMarks continuation) := by
    rw [written, spell_append, List.drop_left]
  rw [Statement.read, scanned]
  exact ofTokens_marks clause stands (readRedirections_continuation continuation _)
    (readTail_continuation ends)

end Grammar

end VirtualShell
