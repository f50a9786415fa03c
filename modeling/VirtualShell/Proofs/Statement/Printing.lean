import VirtualShell.Proofs.Statement.Pipelines
import VirtualShell.Proofs.Token.Stretch
import VirtualShell.Text.Pieces

/-!
Contract: reading undoes printing, for lines of ordinary commands.

Owns:
- the printed data: `Printed.Redirection`, `Printed.Stage`, `Printed.Pipeline` and
  `Printed.Script`, with any texts for words and targets;
- how they are printed, up to the blanks that a `Layout` chooses;
- `IsRead`, what has been read where something was printed;
- `read_render_script`, that a printed script is read as exactly its pipelines.

Does not own: which tokens are read as which pipelines
(`VirtualShell.Proofs.Statement.Pipelines`).
-/

namespace VirtualShell.Printed

open VirtualShell.Statement

/-- A redirection, with its target as a text. -/
inductive Redirection where
  | writeOut (target : String) (append : Bool)
  | writeError (target : String) (append : Bool)
  | readIn (target : String)
  | errorToOut
  | outToError
deriving DecidableEq, Repr

/-- A stage, with its words as texts. -/
structure Stage where
  negations : Nat
  words : List String
  redirections : List Redirection
  filled : words ≠ [] ∨ redirections ≠ []

/-- A stage, and each further one with its gate; a pipe has none. -/
structure Pipeline where
  first : Stage
  others : List (Option Gate × Stage)

/-- At least one pipeline. -/
structure Script where
  first : Pipeline
  others : List Pipeline

def Pipeline.stages (pipeline : Pipeline) : List (Option Gate × Stage) :=
  (none, pipeline.first) :: pipeline.others

def Script.pipelines (script : Script) : List Pipeline :=
  script.first :: script.others

/-! ## Printing -/

/-- The blanks that printing may choose: between the parts of a stage, in front of a target,
and around an operator that is no pipe. -/
structure Layout where
  gap : Gap
  target : Blanks
  before : Blanks
  behind : Blanks

/-- A text between single quotes, a quote in it outside of them behind a backslash. -/
def quote (text : String) : String :=
  Literal.render ⟨text, .single, trivial⟩

def renderTarget (layout : Layout) (kind : Operator) (target : String) : String :=
  kind.text ++ (String.ofList layout.target.chars ++ quote target)

def Redirection.render (layout : Layout) : Redirection → String
  | .writeOut target append =>
      renderTarget layout (if append then .appendOut else .writeOut) target
  | .writeError target append =>
      renderTarget layout (if append then .appendError else .writeError) target
  | .readIn target => renderTarget layout .readIn target
  | .errorToOut => Operator.errorToOut.text
  | .outToError => Operator.outToError.text

/-- Exclamation marks, quoted words and redirections. -/
def Stage.render (layout : Layout) (stage : Stage) : String :=
  Text.joinWith (String.ofList layout.gap.chars)
    (List.replicate stage.negations "!" ++ stage.words.map quote ++
      stage.redirections.map (Redirection.render layout))

/-- The operator in front of a stage with a gate. -/
def gateOperator : Gate → Operator
  | .always => .semicolon
  | .onSuccess => .andThen
  | .onFailure => .orElse

/-- What stands between two stages. -/
def renderGate (layout : Layout) : Option Gate → String
  | none => " | "
  | some gate =>
      String.ofList layout.before.chars ++ ((gateOperator gate).text ++
        String.ofList layout.behind.chars)

def Pipeline.render (layout : Layout) (pipeline : Pipeline) : String :=
  pipeline.first.render layout ++
    String.join (pipeline.others.map fun other =>
      renderGate layout other.1 ++ other.2.render layout)

def Script.render (layout : Layout) (script : Script) : String :=
  Text.joinWith "\n" (script.pipelines.map (Pipeline.render layout))

/-! ## What has been read -/

/-- The redirection has been read where the other one was printed. -/
inductive Redirection.IsRead : Redirection → VirtualShell.Redirection → Prop where
  | writeOut {target : String} {append : Bool} {word : Word} (literal : word.IsLiteral target) :
      IsRead (.writeOut target append) (.writeOut word append)
  | writeError {target : String} {append : Bool} {word : Word} (literal : word.IsLiteral target) :
      IsRead (.writeError target append) (.writeError word append)
  | readIn {target : String} {word : Word} (literal : word.IsLiteral target) :
      IsRead (.readIn target) (.readIn word)
  | errorToOut : IsRead .errorToOut .errorToOut
  | outToError : IsRead .outToError .outToError

/-- The stage has been read where the other one was printed. -/
structure Stage.IsRead (gate : Option Gate) (stage : Stage) (read : VirtualShell.Stage) : Prop where
  gate_eq : read.gate = gate
  negations_eq : read.negations = stage.negations
  words : List.Forall₂ Word.IsLiteral read.command.words stage.words
  redirections : List.Forall₂ Redirection.IsRead stage.redirections read.command.redirections

/-- The pipeline has been read where the other one was printed. -/
def Pipeline.IsRead (pipeline : Pipeline) (read : VirtualShell.Pipeline) : Prop :=
  List.Forall₂ (fun (printed : Option Gate × Stage) => printed.2.IsRead printed.1)
    pipeline.stages read.stages

/-! ## Parts of a stage -/

inductive Item where
  | bang
  | word (text : String)
  | redirection (redirection : Redirection)

def Item.render (layout : Layout) : Item → String
  | .bang => "!"
  | .word text => quote text
  | .redirection printed => printed.render layout

/-- What the tokens of an item are read as. -/
def Item.Holds (tokens : List Token) : Item → Prop
  | .bang => ∃ word, tokens = [.word word] ∧ word.bare? = some "!"
  | .word text => ∃ word, tokens = [.word word] ∧ word.IsLiteral text
  | .redirection printed => ∃ read, ReadsPart tokens (.redirection read) ∧ printed.IsRead read

theorem becomes_quote (text : String) :
    Becomes EndsWord (quote text).toList fun tokens =>
      ∃ word, tokens = [.word word] ∧ word.IsLiteral text :=
  .literal ⟨text, .single, trivial⟩

/-- A redirection operator and its target are two tokens. -/
theorem becomes_target (layout : Layout) (kind : Operator) (target : String) :
    Becomes EndsWord (renderTarget layout kind target).toList fun tokens =>
      ∃ start stop word, tokens = [.operator kind start stop, .word word] ∧
        word.IsLiteral target := by
  have behind := (becomes_quote target).blanks layout.target
  have both := (Becomes.operator kind).append behind fun rest _ => .inr ?_
  · rw [renderTarget, String.toList_append, String.toList_append, String.toList_ofList]
    refine both.mono ?_
    rintro _ ⟨_, _, rfl, ⟨start, stop, rfl⟩, word, rfl, literal⟩
    exact ⟨start, stop, word, rfl, literal⟩
  · intro c front
    -- A blank or the quote stands behind the operator.
    have front : c = ' ' ∨ c = '\t' ∨ c = '\'' := by
      cases blanks : layout.target.chars with
      | nil =>
          have quoted : (quote target).toList.head? = some '\'' := by
            simp [quote, Literal.render, Style.spelling]
          rw [blanks, List.nil_append, List.head?_append, quoted] at front
          exact .inr (.inr (Option.some.inj front).symm)
      | cons d others =>
          have blank := layout.target.blank d (blanks ▸ List.mem_cons_self)
          rw [blanks] at front
          cases front
          exact blank.imp id .inl
    rcases front with rfl | rfl | rfl <;> decide

theorem becomes_redirection (layout : Layout) (redirection : Redirection) :
    Becomes EndsWord (redirection.render layout).toList fun tokens =>
      ∃ read, ReadsPart tokens (.redirection read) ∧ redirection.IsRead read := by
  cases redirection with
  | writeOut target append =>
      have redirects : (if append then Operator.appendOut else .writeOut).redirectionTo? =
          some (.writeOut · append) := by
        cases append <;> rfl
      refine (becomes_target layout _ target).mono ?_
      rintro _ ⟨start, stop, word, rfl, literal⟩
      exact ⟨_, .target redirects start stop word, .writeOut literal⟩
  | writeError target append =>
      have redirects : (if append then Operator.appendError else .writeError).redirectionTo? =
          some (.writeError · append) := by
        cases append <;> rfl
      refine (becomes_target layout _ target).mono ?_
      rintro _ ⟨start, stop, word, rfl, literal⟩
      exact ⟨_, .target redirects start stop word, .writeError literal⟩
  | readIn target =>
      refine (becomes_target layout _ target).mono ?_
      rintro _ ⟨start, stop, word, rfl, literal⟩
      exact ⟨_, .target rfl start stop word, .readIn literal⟩
  | errorToOut =>
      refine ((Becomes.operator .errorToOut).weaken fun _ _ => .inl rfl).mono ?_
      rintro _ ⟨start, stop, rfl⟩
      exact ⟨_, .duplication rfl start stop, .errorToOut⟩
  | outToError =>
      refine ((Becomes.operator .outToError).weaken fun _ _ => .inl rfl).mono ?_
      rintro _ ⟨start, stop, rfl⟩
      exact ⟨_, .duplication rfl start stop, .outToError⟩

theorem becomes_item (layout : Layout) (item : Item) :
    Becomes EndsWord (item.render layout).toList fun tokens => Item.Holds tokens item := by
  cases item with
  | bang => exact .bare ⟨"!", by decide, by decide⟩
  | word text => exact becomes_quote text
  | redirection redirection => exact becomes_redirection layout redirection

/-! ## Stages -/

def Stage.items (stage : Stage) : List Item :=
  List.replicate stage.negations .bang ++ stage.words.map .word ++
    stage.redirections.map .redirection

theorem Stage.items_ne_nil (stage : Stage) : stage.items ≠ [] := by
  have filled := stage.filled
  simp only [items, ne_eq, List.append_eq_nil_iff, List.map_eq_nil_iff, not_and]
  rintro ⟨_, words⟩ redirections
  exact filled.elim (absurd words) (absurd redirections)

theorem toList_joinWith (separator first : String) (others : List String) :
    (Text.joinWith separator (first :: others)).toList =
      first.toList ++ others.flatMap fun other => separator.toList ++ other.toList := by
  induction others generalizing first with
  | nil => simp [Text.joinWith]
  | cons next others inductionHypothesis =>
      simp only [Text.joinWith] at inductionHypothesis ⊢
      rw [String.intercalate_cons_cons, String.toList_append, String.toList_append,
        inductionHypothesis, List.flatMap_cons, List.append_assoc, List.append_assoc]

/-- What the items of a stage are read as is the stage. -/
theorem Stage.readsStages (stage : Stage) {groups : List (List Token)}
    (each : List.Forall₂ Item.Holds groups stage.items) (gate : Option Gate) :
    ∃ read, stage.IsRead gate read ∧ ReadsStages gate groups.flatten [read] := by
  unfold items at each
  rcases exists_append_of_forall₂ each with ⟨_, targets, rfl, front, targeted⟩
  rcases exists_append_of_forall₂ front with ⟨marks, words, rfl, marked, worded⟩
  rw [← List.map_replicate (f := fun _ : Unit => Item.bang) (a := ())] at marked
  rw [List.forall₂_map_right_iff] at marked worded targeted
  rcases exists_words marked with ⟨bangs, rfl, bare⟩
  rcases exists_words worded with ⟨words, rfl, literals⟩
  rcases exists_between targeted with ⟨redirections, reads, redirected⟩
  have bangsBare : ∀ bang ∈ bangs, bang.bare? = some "!" :=
    ((List.forall₂_and_left bangs _).1 (bare.imp fun _ _ known => ⟨known, trivial⟩)).1
  have count : bangs.length = stage.negations := by simpa using bare.length_eq
  have parts := List.rel_append (readsPart_words (bare?_of_literals literals))
    (List.forall₂_map_right_iff.2 reads)
  have filled : words.map CommandPart.word ++ redirections.map CommandPart.redirection ≠ [] := by
    intro nothing
    rw [List.append_eq_nil_iff, List.map_eq_nil_iff, List.map_eq_nil_iff] at nothing
    rw [nothing.1, List.forall₂_nil_left_iff] at literals
    rw [nothing.2, List.forall₂_nil_left_iff] at redirected
    exact stage.filled.elim (absurd literals) (absurd redirected)
  have read := ReadsStages.stage bangsBare parts filled gate
  rw [commandOf_append] at read
  refine ⟨⟨⟨words, redirections⟩, gate, bangs.length⟩, ⟨rfl, count, literals, redirected.flip⟩, ?_⟩
  simpa [flatten_words] using read

theorem becomes_stage (layout : Layout) (stage : Stage) :
    Becomes EndsWord (stage.render layout).toList fun tokens =>
      ∀ gate, ∃ read, stage.IsRead gate read ∧ ReadsStages gate tokens [read] := by
  rcases List.exists_cons_of_ne_nil stage.items_ne_nil with ⟨first, others, items⟩
  have becomes := Becomes.list (becomes_item layout) first
    (others.map fun item => (layout.gap, item))
  have spelled : (stage.render layout).toList = (first.render layout).toList ++
      (others.map fun item => (layout.gap, item)).flatMap fun other =>
        other.1.chars ++ (other.2.render layout).toList := by
    have rendered : List.replicate stage.negations "!" ++ stage.words.map quote ++
        stage.redirections.map (Redirection.render layout) =
          stage.items.map (Item.render layout) := by
      simp [Stage.items, Function.comp_def, Item.render]
    rw [Stage.render, rendered, items, List.map_cons, toList_joinWith]
    simp [List.flatMap_map]
  rw [spelled]
  refine becomes.mono ?_
  rintro _ ⟨groups, rfl, each⟩ gate
  rw [List.map_map, Function.comp_def, List.map_id', ← items] at each
  exact stage.readsStages each gate

/-! ## Pipelines -/

/-- The operator between two stages. -/
def joinOperator : Option Gate → Operator
  | none => .pipe
  | some gate => gateOperator gate

/-- The joint that the operator between two stages is. -/
def joinJoint : Option Gate → Joint
  | none => .pipe
  | some gate => .gate gate

theorem joint_joinOperator (gate : Option Gate) :
    (joinOperator gate).joint? = some (joinJoint gate) := by
  rcases gate with _ | _ | _ | _ <;> rfl

theorem stageGate_joinJoint (gate : Option Gate) : (joinJoint gate).stageGate = gate := by
  cases gate <;> rfl

theorem joinJoint_ne_newline (gate : Option Gate) : joinJoint gate ≠ .newline := by
  cases gate <;> exact Joint.noConfusion

theorem toList_renderGate_none (layout : Layout) : (renderGate layout none).toList =
    Gap.space.chars ++ (Operator.pipe.text.toList ++ Gap.space.chars) := by
  simp [renderGate, Gap.space, Operator.text]

theorem becomes_gate (layout : Layout) (gate : Option Gate) :
    Becomes (fun _ => True) (renderGate layout gate).toList fun tokens =>
      ∃ start stop, tokens = [.operator (joinOperator gate) start stop] := by
  cases gate with
  | none =>
      rw [toList_renderGate_none]
      exact .spaced Gap.space.toBlanks Gap.space.toBlanks .pipe (.inr Gap.space.filled)
  | some gate =>
      have whole : (gateOperator gate).isWhole = true := by cases gate <;> rfl
      simp only [renderGate, String.toList_append, String.toList_ofList]
      exact .spaced layout.before layout.behind (gateOperator gate) (.inl whole)

theorem endsWord_gate (layout : Layout) (gate : Option Gate) (rest : List Char) :
    EndsWord ((renderGate layout gate).toList ++ rest) := by
  cases gate with
  | none =>
      rw [toList_renderGate_none, List.append_assoc]
      exact Gap.space.endsWord _
  | some gate =>
      simp only [renderGate, String.toList_append, String.toList_ofList, List.append_assoc]
      cases blanks : layout.before.chars with
      | nil =>
          rw [List.nil_append]
          cases gate <;>
            · rintro _ _ ⟨⟩
              exact ⟨_, rfl, .inr ⟨_, rfl⟩⟩
      | cons c others =>
          exact endsWord_blank (layout.before.blank c (blanks ▸ List.mem_cons_self)) _

/-- Stages behind each other are read as such. -/
theorem becomes_stages (layout : Layout) (first : Stage) (others : List (Option Gate × Stage)) :
    Becomes EndsWord
      ((first.render layout).toList ++ others.flatMap fun other =>
        (renderGate layout other.1).toList ++ (other.2.render layout).toList) fun tokens =>
      ∀ gate, ∃ stages,
        List.Forall₂ (fun (printed : Option Gate × Stage) => printed.2.IsRead printed.1)
          ((gate, first) :: others) stages ∧
        ReadsStages gate tokens stages := by
  induction others generalizing first with
  | nil =>
      rw [List.flatMap_nil, List.append_nil]
      refine (becomes_stage layout first).mono fun tokens known gate => ?_
      rcases known gate with ⟨read, same, reads⟩
      exact ⟨[read], .cons same .nil, reads⟩
  | cons other others inductionHypothesis =>
      obtain ⟨joined, second⟩ := other
      have behind := (becomes_gate layout joined).append (inductionHypothesis second)
        fun _ _ => trivial
      have whole := (becomes_stage layout first).append behind fun rest _ => by
        rw [List.append_assoc]
        exact endsWord_gate layout joined _
      rw [List.flatMap_cons, List.append_assoc]
      refine whole.mono ?_
      rintro _ ⟨front, _, rfl, known, _, back, rfl, ⟨start, stop, rfl⟩, others⟩ gate
      rcases known gate with ⟨read, same, reads⟩
      rcases others joined with ⟨stages, sames, readsOthers⟩
      rw [← stageGate_joinJoint joined] at readsOthers
      exact ⟨read :: stages, .cons same sames, reads.chain (joint_joinOperator joined)
        (joinJoint_ne_newline joined) readsOthers start stop⟩

theorem becomes_pipeline (layout : Layout) (pipeline : Pipeline) :
    Becomes EndsWord (pipeline.render layout).toList fun tokens =>
      ∃ read, pipeline.IsRead read ∧ ReadsStages none tokens read.stages := by
  have spelled : (pipeline.render layout).toList = (pipeline.first.render layout).toList ++
      pipeline.others.flatMap fun other =>
        (renderGate layout other.1).toList ++ (other.2.render layout).toList := by
    simp [Pipeline.render, List.flatMap_map]
  rw [spelled]
  refine (becomes_stages layout pipeline.first pipeline.others).mono fun tokens known => ?_
  rcases known none with ⟨stages, same, reads⟩
  exact ⟨⟨stages⟩, same, reads⟩

/-! ## Scripts -/

/-- Pipelines on lines of their own are read as such. -/
theorem becomes_pipelines (layout : Layout) (first : Pipeline) (others : List Pipeline) :
    Becomes EndsWord
      ((first.render layout).toList ++
        others.flatMap fun other => '\n' :: (other.render layout).toList) fun tokens =>
      ∃ pipelines, List.Forall₂ Pipeline.IsRead (first :: others) pipelines ∧
        ReadsPipelines tokens pipelines := by
  induction others generalizing first with
  | nil =>
      rw [List.flatMap_nil, List.append_nil]
      refine (becomes_pipeline layout first).mono ?_
      rintro tokens ⟨read, same, reads⟩
      exact ⟨[read], .cons same .nil, .last reads⟩
  | cons second others inductionHypothesis =>
      have lineBreak := (Becomes.operator .newline).append (inductionHypothesis second)
        fun _ _ => .inl rfl
      have whole := (becomes_pipeline layout first).append lineBreak
        fun rest _ => endsWord_newline _
      rw [List.flatMap_cons]
      refine whole.mono ?_
      rintro _ ⟨front, _, rfl, ⟨read, same, reads⟩, _, back, rfl, ⟨start, stop, rfl⟩,
        pipelines, sames, readsOthers⟩
      exact ⟨read :: pipelines, .cons same sames, .line reads readsOthers start stop⟩

/-- A printed script is read as exactly its pipelines, in every layout. -/
theorem read_render_script (layout : Layout) (script : Script) :
    ∃ pipelines, Statement.read (script.render layout) =
        .ok (some ⟨.pipelines pipelines, none⟩) ∧
      List.Forall₂ Pipeline.IsRead script.pipelines pipelines := by
  have becomes := becomes_pipelines layout script.first script.others
  have spelled : script.render layout = String.ofList
      ((script.first.render layout).toList ++
        script.others.flatMap fun other => '\n' :: (other.render layout).toList) := by
    rw [← String.toList_inj, String.toList_ofList, Script.render, Script.pipelines, List.map_cons,
      toList_joinWith, List.flatMap_map]
    rfl
  rcases becomes.scan endsWord_nil with ⟨tokens, ⟨pipelines, same, reads⟩, scanned⟩
  refine ⟨pipelines, ?_, same⟩
  unfold Statement.read
  rw [spelled, scanned]
  exact reads.ofTokens_eq _

example :
    Script.render ⟨.space, ⟨[], by simp⟩, Gap.space.toBlanks, Gap.space.toBlanks⟩
        ⟨⟨⟨1, ["it's", "#"], [.writeOut "a b" true], .inl (by decide)⟩,
          [(some .onSuccess, ⟨0, [], [.errorToOut], .inr (by decide)⟩)]⟩,
          [⟨⟨0, [""], [], .inl (by decide)⟩, [(none, ⟨2, ["if"], [], .inl (by decide)⟩)]⟩]⟩ =
      "! 'it'\\''s' '#' >>'a b' && 2>&1\n'' | ! ! 'if'" := by
  decide +kernel

end VirtualShell.Printed
