import VirtualShell.Proofs.Statement.Separators

/-!
Contract: the keywords of a block are in balance, at every depth.

Owns:
- `Skips`, a search for a keyword goes over some marks without stopping;
- `Block.skipsWith`: a search goes over every block, whatever is open around it and whichever
  separators are left out, as long as the block is steady;
- `requireKeyword_upTo`: so the keyword behind a block is the one that is found.

The search is left with what was open before the block, and only behind a complete command.
Each keyword that opens something inside pushes its closer, and only that closer pops it.
Behind a `do` that no separator stands in front of, no word opens anything up to the next
operator. A conditional there is never closed either, as its `fi` is not what is open; the
`done` of a loop would close the loop around it.
-/

namespace VirtualShell.Grammar

open VirtualShell.Statement

variable {stops closers : List String} {anywhere : Bool}

/-- Only words that no command is named by. -/
def OnlyStrays (words : List String) : Prop :=
  ∀ word ∈ words, isStray word = true

theorem OnlyStrays.cons {word : String} {words : List String} (others : OnlyStrays words)
    (stray : isStray word = true) : OnlyStrays (word :: words) :=
  List.forall_mem_cons.2 ⟨stray, others⟩

/-- A search for a keyword goes over some marks, whatever follows them. -/
def Skips (stops : List String) (anywhere : Bool) (before : Nesting) (marks : List Mark)
    (after : Nesting) : Prop :=
  ∀ start rest, splitAtKeyword stops anywhere before (tokensAt start marks ++ rest) =
    (splitAtKeyword stops anywhere after rest).map
      fun (inner, found) => (tokensAt start marks ++ inner, found)

namespace Skips

variable {before between after : Nesting} {left right : List Mark}

theorem nil (nesting : Nesting) : Skips stops anywhere nesting [] nesting := by
  intro start rest
  simp [tokensAt]

theorem append (first : Skips stops anywhere before left between)
    (second : Skips stops anywhere between right after) :
    Skips stops anywhere before (left ++ right) after := by
  intro start rest
  rw [tokensAt_append, List.append_assoc, first, second, Option.map_map]
  congr 1
  funext found
  simp

theorem cons {mark : Mark} (first : Skips stops anywhere before [mark] between)
    (second : Skips stops anywhere between right after) :
    Skips stops anywhere before (mark :: right) after :=
  first.append second

theorem blank (nesting : Nesting) : Skips stops anywhere nesting [.blank] nesting := by
  intro start rest
  simp [tokensAt, Mark.token?]

theorem operator (kind : Operator) (nesting : Nesting) :
    Skips stops anywhere nesting [.operator kind] (nesting.passOperator kind) := by
  intro start rest
  simp [tokensAt, Mark.token?, splitAtKeyword]

/-- A word is skipped if it is none of the keywords looked for, also as the last one. -/
theorem word {mark : Mark} {text : Option String}
    (bare : ∀ start, ∃ word, mark.token? start = some (.word word) ∧ word.bare? = text)
    (unwanted : ∀ isLast, before.stopsAt stops anywhere text isLast = false)
    (passes : ∀ isLast, before.passWord text isLast = after) :
    Skips stops anywhere before [mark] after := by
  intro start rest
  obtain ⟨word, token, same⟩ := bare start
  simp [tokensAt, token, splitAtKeyword, same, unwanted, passes]

theorem bare {word : BareWord}
    (unwanted : ∀ isLast, before.stopsAt stops anywhere (some word.text) isLast = false)
    (passes : ∀ isLast, before.passWord (some word.text) isLast = after) :
    Skips stops anywhere before [.bare word] after := by
  refine Skips.word (fun start => ⟨_, rfl, ?_⟩) unwanted passes
  simp [Word.bare?, Word.isQuoted, Segment.isQuoted, Word.text]

/-- A quoted word is no keyword. -/
theorem quoted (word : Quotable) (atCommand : Bool) :
    Skips stops anywhere ⟨closers, atCommand, false⟩ [.quoted word] ⟨closers, false, false⟩ := by
  have unquoted : ∀ start, ∃ found, (Mark.quoted word).token? start = some (.word found) ∧
      found.bare? = none := fun start => ⟨_, rfl, rfl⟩
  refine Skips.word unquoted ?_ ?_
  · intro isLast
    simp [Nesting.stopsAt]
  · intro isLast
    cases closers <;> cases atCommand <;> rfl

/-- The closer of what was opened last, behind a complete command. -/
theorem closer (word : BareWord) (closers : List String) :
    Skips stops anywhere ⟨word.text :: closers, true, false⟩ [.bare word]
      ⟨closers, false, false⟩ := by
  apply Skips.bare
  · intro isLast
    rfl
  · intro isLast
    simp [Nesting.passWord, Nesting.mayClose]

/-- A word in front that neither closes what was opened last nor opens anything. -/
theorem passing {word : BareWord} {closer : String} (other : word.text ≠ closer)
    (opensNothing : closer? word.text = none) (named : word.text ≠ "function")
    (closers : List String) :
    Skips stops anywhere ⟨closer :: closers, true, false⟩ [.bare word]
      ⟨closer :: closers, introducesCommand word.text, false⟩ := by
  apply Skips.bare
  · intro isLast
    rfl
  · intro isLast
    simp [Nesting.passWord, other, opensNothing, named]

/-- A keyword that divides what was opened last. -/
theorem divider {word : BareWord} {closer : String} (other : word.text ≠ closer)
    (opensNothing : closer? word.text = none) (introduces : introducesCommand word.text = true)
    (named : word.text ≠ "function") (closers : List String) :
    Skips stops anywhere ⟨closer :: closers, true, false⟩ [.bare word]
      ⟨closer :: closers, true, false⟩ := by
  have passed : Skips stops anywhere ⟨closer :: closers, true, false⟩ [.bare word]
      ⟨closer :: closers, introducesCommand word.text, false⟩ :=
    passing other opensNothing named closers
  rwa [introduces] at passed

/-- A word that is not the name of a command, inside a statement. -/
theorem argument {word : BareWord} (inner : word.text ≠ "\x7d") (closer : String)
    (closers : List String) :
    Skips stops anywhere ⟨closer :: closers, false, false⟩ [.bare word]
      ⟨closer :: closers, false, false⟩ := by
  apply Skips.bare
  · intro isLast
    rfl
  · intro isLast
    simp [Nesting.passWord, Nesting.mayClose, inner]

/-- A word in front that no statement is divided or closed by: a keyword that opens a
statement, the name of a function or an exclamation mark. -/
theorem front {word : BareWord} (opening : isStray word.text = false)
    (named : word.text ≠ "function") (strays : OnlyStrays stops) (closing : OnlyStrays closers) :
    Skips stops anywhere ⟨closers, true, false⟩ [.bare word]
      ⟨(closer? word.text).toList ++ closers, introducesCommand word.text, false⟩ := by
  have unwanted : word.text ∉ stops := by
    intro member
    rw [strays _ member] at opening
    cases opening
  have unclosed : ∀ closer ∈ closers.head?, word.text ≠ closer := by
    rintro closer member rfl
    rw [closing _ (List.mem_of_head? member)] at opening
    cases opening
  apply Skips.bare
  · intro isLast
    simp [Nesting.stopsAt, unwanted]
  · intro isLast
    unfold Nesting.passWord
    rw [if_neg]
    · simp [named]
    · cases closers with
      | nil => simp
      | cons closer closers => simp [unclosed closer rfl]

end Skips

/-! ## The marks of a block -/

/-- The marks up to a keyword, where a command is complete or not begun. -/
theorem Skips.upTo {before after : Nesting} {marks : List Mark} {word : BareWord}
    {atCommand : Bool}
    (skipped : Skips stops anywhere before marks ⟨closers, atCommand, false⟩)
    (keyword : Skips stops anywhere ⟨closers, true, false⟩ [.bare word] after) :
    Skips stops anywhere before (upTo marks word) after :=
  skipped.append <| (Skips.operator .semicolon _).cons <| (Skips.blank _).cons keyword

theorem Item.skips (item : Item) (atCommand : Bool) :
    Skips stops anywhere ⟨closers, atCommand, false⟩ item.marks ⟨closers, false, false⟩ := by
  cases item with
  | word quoted => exact Skips.quoted quoted atCommand
  | redirection kind redirects target =>
      have open_ : ∀ nesting : Nesting,
          nesting.passOperator kind = ⟨nesting.closers, false, false⟩ := by
        intro nesting
        cases kind <;> first | rfl | cases redirects
      refine (Skips.operator kind _).cons ?_
      rw [open_]
      exact (Skips.blank _).cons (Skips.quoted target false)
  | duplication kind duplicates =>
      have joined : (⟨closers, atCommand, false⟩ : Nesting).passOperator kind =
          ⟨closers, false, false⟩ := by
        cases kind <;> first | rfl | cases duplicates
      rw [← joined]
      exact Skips.operator kind _

theorem skips_items (items : List Item) :
    Skips stops anywhere ⟨closers, false, false⟩ (items.flatMap fun item => .blank :: item.marks)
      ⟨closers, false, false⟩ := by
  induction items with
  | nil => exact Skips.nil _
  | cons item items inductionHypothesis =>
      rw [List.flatMap_cons]
      exact ((Skips.blank _).cons (item.skips false)).append inductionHypothesis

theorem skips_joint (joint : Joint) :
    Skips stops anywhere ⟨closers, false, false⟩ (jointMarks joint) ⟨closers, true, false⟩ := by
  rcases joint with _ | _ | _ | _ | _
  · exact (Skips.blank _).cons ((Skips.operator .pipe _).cons (Skips.blank _))
  · exact Skips.operator .newline _
  · exact (Skips.operator .semicolon _).cons (Skips.blank _)
  · exact (Skips.blank _).cons ((Skips.operator .andThen _).cons (Skips.blank _))
  · exact (Skips.blank _).cons ((Skips.operator .orElse _).cons (Skips.blank _))

/-- The words of a loop may be none, so a command may still stand behind them. -/
theorem skips_list (words : List Quotable) (atCommand : Bool) :
    Skips stops anywhere ⟨closers, atCommand, false⟩ (listMarks words)
      ⟨closers, atCommand && words.isEmpty, false⟩ := by
  induction words generalizing atCommand with
  | nil =>
      rw [List.isEmpty_nil, Bool.and_true]
      exact Skips.nil _
  | cons word others inductionHypothesis =>
      rw [List.isEmpty_cons, Bool.and_false]
      cases others with
      | nil => exact Skips.quoted word atCommand
      | cons next others =>
          exact (Skips.quoted word atCommand).cons
            ((Skips.blank _).cons (inductionHypothesis false))

/-- Where a block may stand: where a command may, or behind a word of a loop that is open if
the block starts with no loop itself. -/
inductive Enters (startsWithLoop : Bool) : List String → Bool → Prop where
  | command {closers : List String} : Enters startsWithLoop closers true
  | word {closers : List String} (opens : startsWithLoop = false) :
      Enters startsWithLoop ("done" :: closers) false

/-- A word in front of a block opens something only where a command may stand. -/
theorem skips_front {atCommand startsWithLoop : Bool} {word : BareWord}
    (enters : Enters startsWithLoop closers atCommand) (opening : isStray word.text = false)
    (named : word.text ≠ "function") (strays : OnlyStrays stops) (closing : OnlyStrays closers) :
    Skips stops anywhere ⟨closers, atCommand, false⟩ [.bare word]
      ⟨(if atCommand then (closer? word.text).toList else []) ++ closers,
        atCommand && introducesCommand word.text, false⟩ := by
  cases enters with
  | command => exact Skips.front opening named strays closing
  | word =>
      refine Skips.argument ?_ _ _
      intro brace
      rw [brace] at opening
      cases opening

theorem skips_bangs {atCommand startsWithLoop : Bool}
    (enters : Enters startsWithLoop closers atCommand) (strays : OnlyStrays stops)
    (closing : OnlyStrays closers) (count : Nat) :
    Skips stops anywhere ⟨closers, atCommand, false⟩ (bangs count)
      ⟨closers, atCommand, false⟩ := by
  induction count with
  | zero => exact Skips.nil _
  | succ count inductionHypothesis =>
      have bang : Skips stops anywhere ⟨closers, atCommand, false⟩ [.bare (keyword "!")]
          ⟨closers, atCommand, false⟩ := by
        have front : Skips stops anywhere ⟨closers, atCommand, false⟩ [.bare (keyword "!")] _ :=
          skips_front enters rfl (by decide) strays closing
        cases enters <;> exact front
      exact bang.cons ((Skips.blank _).cons inductionHypothesis)

theorem Name.text_ne (name : Name) {text : String} (unnamed : isName text = false) :
    name.text ≠ text := by
  intro same
  have named := name.named
  rw [same, unnamed] at named
  cases named

/-- A name that is no keyword opens nothing. -/
theorem FunctionName.opensNothing (name : FunctionName) :
    closer? name.text = none ∧ introducesCommand name.text = false ∧ name.text ≠ "function" := by
  have free := name.free
  have noBang : name.text ≠ "!" := name.text_ne rfl
  have noBrace : name.text ≠ "\x7b" := name.text_ne rfl
  simp [isKeyword, startsCompound, isStray] at free
  simp [closer?, introducesCommand, free, noBang, noBrace]

/-- The words of a loop up to `do`, in front of which only a separator makes place for a
command. -/
theorem skips_upToDo (words : List Quotable) (omitted : Bool) (closers : List String) :
    Skips stops anywhere ⟨"done" :: closers, false, false⟩ (upToDo words omitted)
      ⟨"done" :: closers, !omitted, false⟩ := by
  have passed : Skips stops anywhere ⟨"done" :: closers, false, false⟩ (listMarks words)
      ⟨"done" :: closers, false, false⟩ := skips_list words false
  refine passed.append ?_
  cases omitted with
  | false =>
      exact (Skips.operator .semicolon _).cons <| (Skips.blank _).cons <|
        Skips.divider (by decide) rfl rfl (by decide) closers
  | true => exact (Skips.blank _).cons (Skips.argument (by decide) _ _)

mutual

/-- A search goes over every steady block and is left with what was open before. -/
theorem Block.skipsWith (strays : OnlyStrays stops) {omits : Omission} : ∀ (block : Block)
    {closers : List String} {atCommand : Bool}, OnlyStrays closers →
      block.isSteady omits = true → Enters block.startsWithLoop closers atCommand →
      Skips stops anywhere ⟨closers, atCommand, false⟩ (block.marksWith omits)
        ⟨closers, false, false⟩
  | .last phrase, _, _, closing, steady, enters => phrase.skipsWith strays closing steady enters
  | .joined phrase joint rest, _, _, closing, steady, enters => by
      rw [Block.isSteady, Bool.and_eq_true] at steady
      exact (phrase.skipsWith strays closing steady.1 enters).append <|
        (skips_joint joint).append (rest.skipsWith strays closing steady.2 .command)

theorem Phrase.skipsWith (strays : OnlyStrays stops) {omits : Omission} : ∀ (phrase : Phrase)
    {closers : List String} {atCommand : Bool}, OnlyStrays closers →
      phrase.isSteady omits = true → Enters phrase.startsWithLoop closers atCommand →
      Skips stops anywhere ⟨closers, atCommand, false⟩ (phrase.marksWith omits)
        ⟨closers, false, false⟩
  | .command negations first others, _, atCommand, closing, _, enters =>
      (skips_bangs enters strays closing negations).append
        ((first.skips atCommand).append (skips_items others))
  | .clause clause, _, _, closing, steady, enters =>
      clause.skipsWith strays closing steady enters

theorem Clause.skipsWith (strays : OnlyStrays stops) {omits : Omission} : ∀ (clause : Clause)
    {closers : List String} {atCommand : Bool}, OnlyStrays closers →
      clause.isSteady omits = true → Enters clause.startsWithLoop closers atCommand →
      Skips stops anywhere ⟨closers, atCommand, false⟩ (clause.marksWith omits)
        ⟨closers, false, false⟩
  | .conditional branches, closers, atCommand, closing, steady, enters => by
      have opening : Skips stops anywhere ⟨closers, atCommand, false⟩ [.bare (keyword "if")] _ :=
        skips_front enters rfl (by decide) strays closing
      refine opening.cons ((Skips.blank _).cons ?_)
      cases enters with
      | command =>
          exact branches.skipsWith strays (closing.cons rfl) (by decide) steady .command
            (Skips.closer _ closers)
      | word opens =>
          -- No `fi` was pushed, so that of the conditional is an ordinary word.
          exact branches.skipsWith strays closing (by decide) steady (.word opens)
            (Skips.passing (by decide) rfl (by decide) _)
  | .forEach name list body, closers, _, closing, steady, .command => by
      rw [Clause.isSteady, Bool.and_eq_true, Bool.not_eq_true'] at steady
      have opening : Skips stops anywhere ⟨closers, true, false⟩ [.bare (keyword "for")]
          ⟨"done" :: closers, false, false⟩ := Skips.front rfl (by decide) strays closing
      have noBrace : name.text ≠ "\x7d" := name.text_ne rfl
      have enters : Enters body.startsWithLoop ("done" :: closers) (!omits []) := by
        cases omitted : omits [] with
        | false => exact .command
        | true => exact .word (by simpa [omitted] using steady.1)
      refine opening.cons <| (Skips.blank _).cons ?_
      refine (Skips.argument noBrace _ _).cons <| (Skips.blank _).cons ?_
      refine (Skips.argument (by decide) _ _).cons <| (Skips.blank _).cons ?_
      refine (skips_upToDo list (omits []) closers).append <| (Skips.blank _).cons ?_
      exact (body.skipsWith strays (closing.cons rfl) steady.2 enters).upTo (Skips.closer _ closers)
  | .loop kind condition body, closers, _, closing, steady, .command => by
      rw [Clause.isSteady, Bool.and_eq_true] at steady
      have opening : Skips stops anywhere ⟨closers, true, false⟩ [.bare (loopWord kind)]
          ⟨"done" :: closers, true, false⟩ := by
        cases kind <;> exact Skips.front rfl (by decide) strays closing
      have inside : OnlyStrays ("done" :: closers) := closing.cons rfl
      refine opening.cons <| (Skips.blank _).cons ?_
      refine ((condition.skipsWith strays inside steady.1 .command).upTo
        (Skips.divider (by decide) rfl rfl (by decide) closers)).append ?_
      exact (Skips.blank _).cons
        ((body.skipsWith strays inside steady.2 .command).upTo (Skips.closer _ closers))
  | .function name body, closers, atCommand, closing, steady, enters => by
      obtain ⟨opensNothing, introducesNothing, named⟩ := name.opensNothing
      have opening : Skips stops anywhere ⟨closers, atCommand, false⟩
          [.bare (.ofName name.text name.named)] ⟨closers, false, false⟩ := by
        have passed : Skips stops anywhere ⟨closers, atCommand, false⟩
            [.bare (.ofName name.text name.named)] _ :=
          skips_front enters (Bool.or_eq_false_iff.1 name.free).2 named strays closing
        have plain : (if atCommand then (closer? name.text).toList else []) = [] := by
          rw [opensNothing]
          cases atCommand <;> rfl
        have silent : (atCommand && introducesCommand name.text) = false := by
          rw [introducesNothing, Bool.and_false]
        simp only [BareWord.ofName, plain, silent] at passed
        exact passed
      have brace : Skips stops anywhere ⟨closers, true, false⟩ [.bare (keyword "\x7b")]
          ⟨"\x7d" :: closers, true, false⟩ := Skips.front rfl (by decide) strays closing
      refine opening.cons <| (Skips.operator .openParen _).cons ?_
      refine (Skips.operator .closeParen _).cons <| (Skips.blank _).cons ?_
      refine brace.cons <| (Skips.blank _).cons ?_
      exact (body.skipsWith strays (closing.cons rfl) steady .command).upTo
        (Skips.closer _ closers)

/-- What stands open before the branches of a conditional is its own closer, or else that of a
loop around it. -/
theorem Branches.skipsWith (strays : OnlyStrays stops) {omits : Omission} :
    ∀ (branches : Branches) {closer : String} {closers : List String} {atCommand : Bool}
      {after : Nesting}, OnlyStrays (closer :: closers) →
      (∀ word ∈ ["then", "elif", "else"], word ≠ closer) →
      branches.isSteady omits = true →
      Enters branches.startsWithLoop (closer :: closers) atCommand →
      Skips stops anywhere ⟨closer :: closers, true, false⟩ [.bare (keyword "fi")] after →
      Skips stops anywhere ⟨closer :: closers, atCommand, false⟩ (branches.marksWith omits) after
  | .last condition body, closer, closers, _, _, closing, other, steady, enters, last => by
      rw [Branches.isSteady, Bool.and_eq_true] at steady
      refine ((condition.skipsWith strays closing steady.1 enters).upTo
        (Skips.divider (other _ (by decide)) rfl rfl (by decide) closers)).append ?_
      exact (Skips.blank _).cons ((body.skipsWith strays closing steady.2 .command).upTo last)
  | .otherwise condition body alternative, closer, closers, _, _, closing, other, steady, enters,
      last => by
      simp only [Branches.isSteady, Bool.and_eq_true] at steady
      refine ((condition.skipsWith strays closing steady.1 enters).upTo
        (Skips.divider (other _ (by decide)) rfl rfl (by decide) closers)).append ?_
      refine (Skips.blank _).cons <| ((body.skipsWith strays closing steady.2.1 .command).upTo
        (Skips.divider (other _ (by decide)) rfl rfl (by decide) closers)).append ?_
      exact (Skips.blank _).cons
        ((alternative.skipsWith strays closing steady.2.2 .command).upTo last)
  | .elseIf condition body rest, closer, closers, _, _, closing, other, steady, enters, last => by
      simp only [Branches.isSteady, Bool.and_eq_true] at steady
      refine ((condition.skipsWith strays closing steady.1 enters).upTo
        (Skips.divider (other _ (by decide)) rfl rfl (by decide) closers)).append ?_
      refine (Skips.blank _).cons <| ((body.skipsWith strays closing steady.2.1 .command).upTo
        (Skips.divider (other _ (by decide)) rfl rfl (by decide) closers)).append ?_
      exact (Skips.blank _).cons
        (rest.skipsWith strays closing other steady.2.2 .command last)

end

/-- A search goes over every block in which no separator is left out. -/
theorem Block.skips (strays : OnlyStrays stops) (block : Block) (closing : OnlyStrays closers) :
    Skips stops anywhere ⟨closers, true, false⟩ block.marks ⟨closers, false, false⟩ := by
  rw [← block.marksWith_none]
  exact block.skipsWith strays closing block.isSteady_none .command

/-! ## Finding the keyword behind a block -/

/-- The keyword behind marks that a search goes over is found where it is heeded. -/
theorem requireKeyword_of_skips {marks : List Mark} {atCommand : Bool} {word : BareWord}
    (skipped : Skips stops anywhere .initial marks ⟨[], atCommand, false⟩)
    (heeded : (atCommand || anywhere) = true) (wanted : word.text ∈ stops) (start : Nat)
    (rest : List Token) :
    requireKeyword stops anywhere (tokensAt start (marks ++ [.bare word]) ++ rest) =
      .ok (tokensAt start marks, word.text, rest) := by
  have found : ∀ start, splitAtKeyword stops anywhere ⟨[], atCommand, false⟩
      (tokensAt start [.bare word] ++ rest) = some ([], word.text, rest) := by
    intro start
    have stopped : ∀ isLast, (⟨[], atCommand, false⟩ : Nesting).stopsAt stops anywhere
        (some word.text) isLast = true := by
      intro isLast
      cases atCommand with
      | false =>
          rw [Bool.false_or] at heeded
          simp [Nesting.stopsAt, wanted, heeded]
      | true => simp [Nesting.stopsAt, Nesting.mayClose, wanted]
    simp [tokensAt, Mark.token?, splitAtKeyword, stopped, Word.bare?, Word.isQuoted,
      Segment.isQuoted, Word.text]
  rw [requireKeyword, tokensAt_append, List.append_assoc, skipped, found]
  simp

/-- So is the keyword behind a semicolon. -/
theorem requireKeyword_upTo {marks : List Mark} {atCommand : Bool} {word : BareWord}
    (skipped : Skips stops anywhere .initial marks ⟨[], atCommand, false⟩)
    (wanted : word.text ∈ stops) (start : Nat) (rest : List Token) :
    requireKeyword stops anywhere (tokensAt start (upTo marks word) ++ rest) =
      .ok (tokensAt start (marks ++ [.operator .semicolon, .blank]), word.text, rest) := by
  have before : Skips stops anywhere .initial (marks ++ [.operator .semicolon, .blank])
      ⟨[], true, false⟩ :=
    skipped.append ((Skips.operator .semicolon _).cons (Skips.blank _))
  have whole : upTo marks word = (marks ++ [.operator .semicolon, .blank]) ++ [.bare word] := by
    simp [upTo]
  rw [whole]
  exact requireKeyword_of_skips before (Bool.true_or _) wanted start rest

/-- The keyword `do` is heeded anywhere, also behind the words of a loop. -/
theorem requireKeyword_upToDo (words : List Quotable) (omitted : Bool) (start : Nat)
    (rest : List Token) :
    requireKeyword ["do"] true (tokensAt start (upToDo words omitted) ++ rest) =
      .ok (tokensAt start (listMarks words ++ pause omitted), "do", rest) := by
  have list : Skips ["do"] true .initial (listMarks words) ⟨[], words.isEmpty, false⟩ :=
    skips_list words true
  have passed : ∃ atCommand, Skips ["do"] true .initial (listMarks words ++ pause omitted)
      ⟨[], atCommand, false⟩ := by
    cases omitted with
    | false =>
        exact ⟨_, list.append ((Skips.operator .semicolon _).cons (Skips.blank _))⟩
    | true => exact ⟨_, list.append (Skips.blank _)⟩
  obtain ⟨atCommand, skipped⟩ := passed
  rw [upToDo, ← List.append_assoc]
  exact requireKeyword_of_skips skipped (Bool.or_true _) (by decide) start rest

end VirtualShell.Grammar
