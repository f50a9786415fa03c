import VirtualShell.Proofs.Statement.Layout
import VirtualShell.Proofs.Token.Line

/-!
Contract: what a line that holds something to run is read as.

Owns:
- `Statement.IsFilled`, a statement in which no line of ordinary commands is empty, and behind
  which something stands that is again a line to run, or nothing at all;
- `Form.spec`, what the first token opens, and that the text behind it starts with a token;
- `isFilled_of_read`: what a filled line is read as is filled.
-/

namespace VirtualShell.Statement

/-- There are lines of ordinary commands, and each of them has a command. -/
def AreFilled (pipelines : List Pipeline) : Prop :=
  pipelines ≠ [] ∧ ∀ pipeline ∈ pipelines, pipeline.stages ≠ []

/-- No line of ordinary commands is empty, and the text behind the statement is a filled line. -/
structure IsFilled (statement : Statement) : Prop where
  pipelines : ∀ pipelines, statement.body = .pipelines pipelines → AreFilled pipelines
  tail : ∀ tail, statement.tail = some tail → IsFilledLine tail.text.toList

/-! ## Ordinary commands -/

namespace PipelineDraft

variable {draft : PipelineDraft}

/-- No line that has been finished is empty, and something stands in front of a joint. -/
structure IsSound (draft : PipelineDraft) : Prop where
  filled : ∀ pipeline ∈ draft.pipelines, pipeline.stages ≠ []
  pending : draft.pending.isSome → draft.closedPipelines ≠ []

/-- Something has been read that has to be part of a command. -/
def HasBegun (draft : PipelineDraft) : Prop :=
  draft.stageIsEmpty = false ∨ draft.negations ≠ 0 ∨ draft.closedPipelines ≠ []

theorem closedPipelines_ne_nil_iff :
    draft.closedPipelines ≠ [] ↔ draft.stages ≠ [] ∨ draft.pipelines ≠ [] := by
  unfold closedPipelines
  cases draft.stages <;> simp

theorem IsSound.areFilled (sound : draft.IsSound) (some : draft.closedPipelines ≠ []) :
    AreFilled draft.closedPipelines := by
  refine ⟨some, fun pipeline member => ?_⟩
  unfold closedPipelines at member
  rw [List.mem_reverse] at member
  split at member
  · exact sound.filled pipeline member
  · rename_i staged
    obtain rfl | earlier := List.mem_cons.1 member
    · simpa using staged
    · exact sound.filled pipeline earlier

theorem IsSound.finishStage (sound : draft.IsSound) : draft.finishStage.IsSound :=
  ⟨sound.filled, fun _ => closedPipelines_ne_nil_iff.2 (.inl (List.cons_ne_nil _ _))⟩

theorem IsSound.chain (sound : draft.IsSound) (joint : Joint) : (draft.chain joint).IsSound :=
  ⟨sound.filled, fun _ => closedPipelines_ne_nil_iff.2 (.inl (List.cons_ne_nil _ _))⟩

/-- What becomes a line at a line break has a command. -/
theorem IsSound.breakLine (sound : draft.IsSound) : draft.breakLine.IsSound := by
  unfold PipelineDraft.breakLine
  split
  · exact sound
  · rename_i broken
    refine ⟨fun pipeline member => ?_, fun _ => ?_⟩
    · cases empty : draft.stageIsEmpty with
      | true =>
          rw [empty] at broken
          simp only [empty, if_true, List.mem_cons] at member
          obtain rfl | earlier := member
          · simp_all
          · exact sound.filled pipeline earlier
      | false =>
          simp only [empty, Bool.false_eq_true, if_false, List.mem_cons] at member
          obtain rfl | earlier := member
          · simp [PipelineDraft.finishStage]
          · exact sound.filled pipeline earlier
    · exact closedPipelines_ne_nil_iff.2 (.inr (List.cons_ne_nil _ _))

theorem HasBegun.breakLine (begun : draft.HasBegun) : draft.breakLine.HasBegun := by
  unfold PipelineDraft.breakLine
  split
  · exact begun
  · exact .inr (.inr (closedPipelines_ne_nil_iff.2 (.inr (List.cons_ne_nil _ _))))

/-- What has begun is finished as lines of commands. -/
theorem exists_pipelines_of_finish (sound : draft.IsSound) (begun : draft.HasBegun)
    {statement : Statement} (found : draft.finish = .ok statement) :
    ∃ pipelines, statement = ⟨.pipelines pipelines, none⟩ ∧ AreFilled pipelines := by
  unfold finish at found
  split at found
  · rename_i empty
    split at found
    · cases found
    · rename_i closed
      cases found
      refine ⟨_, rfl, sound.areFilled ?_⟩
      obtain filled | negated | some := begun
      · rw [empty] at filled
        cases filled
      · simp [isOpen, negated] at closed
      · exact some
  · cases found
    exact ⟨_, rfl, sound.finishStage.areFilled
      (closedPipelines_ne_nil_iff.2 (.inl (List.cons_ne_nil _ _)))⟩

end PipelineDraft

section Pipelines

variable {source : List Char} {tokens : List Token} {statement : Statement}

/-- The text behind ordinary commands starts with one of their tokens. -/
theorem exists_token_of_readPipelines {draft : PipelineDraft} {tail : Tail}
    (found : readPipelines source draft tokens = .ok statement)
    (behind : statement.tail = some tail) :
    ∃ token ∈ tokens, tail.text = textFrom source token := by
  fun_induction readPipelines source draft tokens with
  | case1 draft =>
      unfold PipelineDraft.finish at found
      split at found
      · split at found
        · cases found
        · cases found
          cases behind
      · cases found
        cases behind
  | case6 =>
      cases found
      cases behind
      exact ⟨_, List.mem_cons_self, rfl⟩
  | case4 | case11 | case12 | case14 => cases found
  | case10 =>
      rename_i inductionHypothesis
      obtain ⟨token, member, same⟩ := inductionHypothesis found
      exact ⟨token, List.mem_cons_of_mem _ (List.mem_cons_of_mem _ member), same⟩
  | case2 | case3 | case5 | case7 | case8 | case9 | case13 | case15 =>
      rename_i inductionHypothesis
      obtain ⟨token, member, same⟩ := inductionHypothesis found
      exact ⟨token, List.mem_cons_of_mem _ member, same⟩

/-- Ordinary commands are read as lines none of which is empty, once something has begun. -/
theorem areFilled_of_readPipelines {draft : PipelineDraft} (sound : draft.IsSound)
    (begins : draft.HasBegun ∨ ∃ token, tokens.head? = some token ∧ ¬ token.isNewline)
    (found : readPipelines source draft tokens = .ok statement) :
    ∃ pipelines, statement.body = .pipelines pipelines ∧ AreFilled pipelines := by
  fun_induction readPipelines source draft tokens with
  | case1 draft =>
      obtain begun | ⟨token, first, -⟩ := begins
      · obtain ⟨pipelines, rfl, filled⟩ :=
          PipelineDraft.exists_pipelines_of_finish sound begun found
        exact ⟨pipelines, rfl, filled⟩
      · cases first
  | case4 | case11 | case12 | case14 => cases found
  | case6 draft word rest empty =>
      rename_i joint pending unnegated
      cases found
      exact ⟨_, rfl, sound.areFilled (sound.pending (by rw [pending]; rfl))⟩
  | case3 draft word rest empty negation inductionHypothesis =>
      exact inductionHypothesis ⟨sound.filled, sound.pending⟩
        (.inl (.inr (.inl (Nat.succ_ne_zero _)))) found
  | case2 | case5 | case7 | case8 | case9 | case10 =>
      rename_i inductionHypothesis
      refine inductionHypothesis ⟨sound.filled, sound.pending⟩ (.inl (.inl ?_)) found
      simp [PipelineDraft.stageIsEmpty, PipelineDraft.addWord, PipelineDraft.addRedirection]
  | case13 draft kind start stop rest _ _ joins inductionHypothesis =>
      refine inductionHypothesis sound.breakLine (.inl ?_) found
      obtain begun | ⟨token, first, noBreak⟩ := begins
      · exact begun.breakLine
      · cases first
        have newline : kind = .newline := by cases kind <;> first | rfl | cases joins
        exact absurd (congrArg some newline) noBreak
  | case15 =>
      rename_i inductionHypothesis
      refine inductionHypothesis (sound.chain _) (.inl (.inr (.inr ?_))) found
      exact PipelineDraft.closedPipelines_ne_nil_iff.2 (.inl (List.cons_ne_nil _ _))

end Pipelines

/-! ## Statements -/

section Statements

variable {source : List Char} {tokens : List Token} {statement : Statement}

/-- The text that a range of tokens spans. -/
def Spans (source : List Char) (range : List Token) (text : String) : Prop :=
  text = spanText source range

/-- Some token starts the text behind a statement. -/
def StartsTail (source : List Char) (range : List Token) (text : String) : Prop :=
  ∃ token ∈ range, text = textFrom source token

theorem exists_token_of_tailTokens {following : List Token} {tail : Tail}
    (followed : TailTokens (StartsTail source) following (some tail)) :
    ∃ token ∈ following, tail.text = textFrom source token := by
  cases followed with
  | text joins filled stored =>
      obtain ⟨token, member, same⟩ := stored
      exact ⟨token, List.mem_cons_of_mem _ member, same⟩

/-- What the first token opens: lines of ordinary commands that are filled, or something else;
the text behind it starts with a token of the line. -/
theorem Form.spec {opening : Token} {rest : List Token}
    (form : Form source opening rest statement) (solid : ¬ opening.isNewline) :
    (∀ pipelines, statement.body = .pipelines pipelines → AreFilled pipelines) ∧
      ∀ tail, statement.tail = some tail →
        ∃ token ∈ opening :: rest, tail.text = textFrom source token := by
  have cut : ∀ range, range <:+: opening :: rest →
      Spans source range (spanText source range) := fun _ _ => rfl
  have cutTail : ∀ token later, token :: later <:+ opening :: rest →
      StartsTail source (token :: later) (textFrom source token) :=
    fun token later _ => ⟨token, List.mem_cons_self, rfl⟩
  have whole := List.suffix_refl (opening :: rest)
  cases form with
  | function starts found =>
      obtain ⟨part, following, name, text, tail, -, followed, same, rfl⟩ :=
        functionTokens_of_readFunction cut cutTail starts whole found
      refine ⟨fun _ other => (by cases other), ?_⟩
      rintro _ rfl
      obtain ⟨token, member, text⟩ := exists_token_of_tailTokens followed
      exact ⟨token, same ▸ List.mem_append_right _ member, text⟩
  | @compound keyword notFunction bare starts found =>
      have noFunction : keyword ≠ "function" := by
        rintro rfl
        rw [startsFunction_of_keyword bare] at notFunction
        cases notFunction
      obtain ⟨part, redirecting, following, body, redirections, tail, -, -, followed, same, rfl⟩ :=
        compoundTokens_of_readCompound cut cutTail bare starts noFunction whole found
      refine ⟨fun _ other => (by cases other), ?_⟩
      rintro _ rfl
      obtain ⟨token, member, text⟩ := exists_token_of_tailTokens followed
      refine ⟨token, ?_, text⟩
      rw [same, ← List.append_assoc]
      exact List.mem_append_right _ member
  | ordinary _ _ found =>
      refine ⟨fun pipelines body => ?_,
        fun tail behind => exists_token_of_readPipelines found behind⟩
      have sound : PipelineDraft.initial.IsSound := ⟨by simp [PipelineDraft.initial], nofun⟩
      obtain ⟨others, same, filled⟩ :=
        areFilled_of_readPipelines sound (.inr ⟨opening, rfl, solid⟩) found
      rw [body] at same
      cases same
      exact filled

theorem ofTokens_ne_none {first : Token} {rest : List Token} (solid : ¬ first.isNewline) :
    ofTokens source (first :: rest) ≠ .ok none := by
  have kept : (first :: rest).dropWhile (fun token => token.operator? == some .newline) =
      first :: rest := List.dropWhile_cons_of_neg (by simpa [Token.isNewline] using solid)
  have never : ∀ found : Except SyntaxError Statement, found.map some ≠ .ok none := by
    intro found
    cases found <;> simp [Except.map]
  unfold ofTokens
  simp only [kept]
  split
  · exact never _
  · split
    · split
      · exact never _
      · exact never _
    · exact never _

end Statements

/-- What a filled line is read as is filled, and it is not read as nothing. -/
theorem isFilled_of_read {line : String} (filled : IsFilledLine line.toList) :
    read line ≠ .ok none ∧ ∀ statement, read line = .ok (some statement) → statement.IsFilled := by
  constructor
  · intro nothing
    obtain ⟨tokens, scanned, found⟩ := Fallible.exists_of_bind nothing
    cases tokens with
    | nil => exact filled.tokens_ne_nil scanned rfl
    | cons first rest =>
        exact ofTokens_ne_none (filled.textFrom scanned List.mem_cons_self).2 found
  · intro statement read
    obtain ⟨tokens, scanned, found⟩ := Fallible.exists_of_bind read
    obtain ⟨breaks, opening, rest, -, solid, rfl, form⟩ := exists_form_of_ofTokens found
    obtain ⟨pipelines, tail⟩ := form.spec solid
    refine ⟨pipelines, fun behind known => ?_⟩
    obtain ⟨token, member, same⟩ := tail behind known
    rw [same, Statement.textFrom, String.toList_ofList]
    exact (filled.textFrom scanned (List.mem_append_right _ member)).1

end VirtualShell.Statement
