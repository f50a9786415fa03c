import Mathlib.Data.List.Forall2
import VirtualShell.Statement.Read

/-!
Contract: which tokens are read as which pipelines.

Owns:
- `CommandPart`, a word or a redirection, and `ReadsPart`, the tokens that add one to the
  command that is being read.
- `ReadsStages` and `ReadsPipelines`, the tokens that are read as the stages of a pipeline
  and as pipelines; one rule for each way in which they go on.
- `read_of_readsPipelines`, that a line of such tokens is a statement without a tail.

Only two of the lists that a reading keeps grow within a stage, and a joint and a line break
leave both empty. So what is read of a stage does not depend on the stages before it.
-/

namespace VirtualShell.Statement

/-- A word of a command, or one of its redirections. -/
inductive CommandPart where
  | word (word : Word)
  | redirection (redirection : Redirection)

/-- The words among some parts. -/
def CommandPart.word? : CommandPart → Option Word
  | .word found => some found
  | .redirection _ => none

/-- The redirections among some parts. -/
def CommandPart.redirection? : CommandPart → Option Redirection
  | .word _ => none
  | .redirection found => some found

/-- The command that some parts make up. -/
def commandOf (parts : List CommandPart) : SimpleCommand :=
  ⟨parts.filterMap CommandPart.word?, parts.filterMap CommandPart.redirection?⟩

theorem commandOf_append (words : List Word) (redirections : List Redirection) :
    commandOf (words.map .word ++ redirections.map .redirection) = ⟨words, redirections⟩ := by
  simp [commandOf, List.filterMap_map, Function.comp_def, CommandPart.word?,
    CommandPart.redirection?]

/-- The draft with one more part of the current command. -/
def PipelineDraft.addPart (draft : PipelineDraft) : CommandPart → PipelineDraft
  | .word word => draft.addWord word
  | .redirection redirection => draft.addRedirection redirection

/-- The draft with more exclamation marks in front of the current command. -/
def PipelineDraft.negate (draft : PipelineDraft) (count : Nat) : PipelineDraft :=
  { draft with negations := draft.negations + count }

/-- The token starts an ordinary command: no word of a meaning of its own, except an
exclamation mark, and no line break. -/
def OpensCommand (token : Token) : Prop :=
  token.operator? ≠ some .newline ∧ (token.bare? = none ∨ token.bare? = some "!")

/-- The tokens start with one that starts an ordinary command. -/
def StartsCommand (tokens : List Token) : Prop :=
  ∃ token rest, tokens = token :: rest ∧ OpensCommand token

theorem StartsCommand.append {tokens : List Token} (starts : StartsCommand tokens)
    (behind : List Token) : StartsCommand (tokens ++ behind) := by
  rcases starts with ⟨token, rest, rfl, opens⟩
  exact ⟨token, rest ++ behind, rfl, opens⟩

/-! ## Parts of a command -/

/-- Reading the tokens adds a part to the current command. -/
structure ReadsPart (tokens : List Token) (part : CommandPart) : Prop where
  starts : StartsCommand tokens
  reads : ∀ (source : List Char) (draft : PipelineDraft) (rest : List Token),
    readPipelines source draft (tokens ++ rest) = readPipelines source (draft.addPart part) rest

namespace ReadsPart

theorem word {word : Word} (quoted : word.bare? = none) :
    ReadsPart [.word word] (.word word) where
  starts := ⟨_, _, rfl, by simp [Token.operator?], .inl quoted⟩
  reads source draft rest := by
    have ordinary : commandWord word (.word word :: rest) = .ordinary := by
      rw [commandWord, quoted]
    rw [List.singleton_append, readPipelines]
    split
    · rfl
    · simp only [ordinary]
      rfl

theorem duplication {kind : Operator} {redirection : Redirection}
    (duplicates : kind.duplication? = some redirection) (start stop : Nat) :
    ReadsPart [.operator kind start stop] (.redirection redirection) where
  starts := by
    refine ⟨_, _, rfl, ?_, .inl rfl⟩
    rintro ⟨⟩
    cases duplicates
  reads source draft rest := by
    rw [List.singleton_append, readPipelines]
    simp only [duplicates]
    rfl

theorem target {kind : Operator} {redirectionTo : Word → Redirection}
    (redirects : kind.redirectionTo? = some redirectionTo) (start stop : Nat) (word : Word) :
    ReadsPart [.operator kind start stop, .word word] (.redirection (redirectionTo word)) where
  starts := by
    refine ⟨_, _, rfl, ?_, .inl rfl⟩
    rintro ⟨⟩
    cases redirects
  reads source draft rest := by
    have single : kind.duplication? = none := by
      cases kind <;> first | rfl | cases redirects
    rw [List.cons_append, List.singleton_append, readPipelines]
    simp only [single, redirects]
    rfl

end ReadsPart

/-- Words without a meaning of their own are parts. -/
theorem readsPart_words {words : List Word} (quoted : ∀ word ∈ words, word.bare? = none) :
    List.Forall₂ ReadsPart (words.map fun word => [.word word]) (words.map .word) := by
  rw [List.forall₂_map_left_iff, List.forall₂_map_right_iff, List.forall₂_same]
  exact fun word member => .word (quoted word member)

/-- Reading an exclamation mark in front of a command counts it. -/
theorem readPipelines_negation {word : Word} (bang : word.bare? = some "!") (source : List Char)
    {draft : PipelineDraft} (empty : draft.stageIsEmpty = true) (rest : List Token) :
    readPipelines source draft (.word word :: rest) =
      readPipelines source (draft.negate 1) rest := by
  have negation : commandWord word (.word word :: rest) = .negation := by
    rw [commandWord, bang]
    rfl
  rw [readPipelines]
  simp only [empty, negation]
  rfl

/-- Reading some of them counts them all. -/
theorem readPipelines_negations {bangs : List Word} (each : ∀ bang ∈ bangs, bang.bare? = some "!")
    (source : List Char) {draft : PipelineDraft} (empty : draft.stageIsEmpty = true)
    (rest : List Token) :
    readPipelines source draft (bangs.map .word ++ rest) =
      readPipelines source (draft.negate bangs.length) rest := by
  induction bangs generalizing draft with
  | nil => rfl
  | cons bang bangs inductionHypothesis =>
      rw [List.forall_mem_cons] at each
      have still : (draft.negate 1).stageIsEmpty = true := empty
      rw [List.map_cons, List.cons_append, readPipelines_negation each.1 source empty,
        inductionHypothesis each.2 still]
      simp only [PipelineDraft.negate, List.length_cons, Nat.add_assoc, Nat.add_comm 1]

theorem foldl_addPart (draft : PipelineDraft) (parts : List CommandPart) :
    parts.foldl PipelineDraft.addPart draft =
      { draft with
        words := (commandOf parts).words.reverse ++ draft.words
        redirections := (commandOf parts).redirections.reverse ++ draft.redirections } := by
  induction parts generalizing draft with
  | nil => rfl
  | cons part parts inductionHypothesis =>
      rw [List.foldl_cons, inductionHypothesis]
      cases part with
      | word word =>
          simp [PipelineDraft.addPart, PipelineDraft.addWord, commandOf, List.filterMap_cons,
            CommandPart.word?, CommandPart.redirection?]
      | redirection redirection =>
          simp [PipelineDraft.addPart, PipelineDraft.addRedirection, commandOf,
            List.filterMap_cons, CommandPart.word?, CommandPart.redirection?]

/-- Reading the tokens of parts adds all of them. -/
theorem readPipelines_parts {tokens : List (List Token)} {parts : List CommandPart}
    (each : List.Forall₂ ReadsPart tokens parts) (source : List Char) (draft : PipelineDraft)
    (rest : List Token) :
    readPipelines source draft (tokens.flatten ++ rest) =
      readPipelines source (parts.foldl PipelineDraft.addPart draft) rest := by
  induction each generalizing draft with
  | nil => rfl
  | cons reads _ inductionHypothesis =>
      rw [List.flatten_cons, List.append_assoc, reads.reads, inductionHypothesis, List.foldl_cons]

/-! ## Stages -/

/-- The draft at the start of a stage. -/
def PipelineDraft.atStage (pipelines : List Pipeline) (stages : List Stage) (gate : Option Gate)
    (pending : Option Joint) : PipelineDraft :=
  ⟨pipelines, stages, [], [], gate, 0, pending⟩

/-- Behind a gate, the tokens are read as stages, of which the last one may go on. -/
structure ReadsStages (gate : Option Gate) (tokens : List Token) (stages : List Stage) : Prop where
  starts : StartsCommand tokens
  reads : ∀ (source : List Char) (pipelines : List Pipeline) (earlier : List Stage)
    (pending : Option Joint) (rest : List Token),
    ∃ draft : PipelineDraft,
      readPipelines source (.atStage pipelines earlier gate pending) (tokens ++ rest) =
        readPipelines source draft rest ∧
      draft.stageIsEmpty = false ∧ draft.pipelines = pipelines ∧
      draft.finishStage.stages = stages.reverse ++ earlier

namespace ReadsStages

variable {gate : Option Gate} {tokens : List Token} {stages : List Stage}

/-- Exclamation marks and parts are a stage. -/
theorem stage {bangs : List Word} (marks : ∀ bang ∈ bangs, bang.bare? = some "!")
    {groups : List (List Token)} {parts : List CommandPart}
    (each : List.Forall₂ ReadsPart groups parts) (filled : parts ≠ []) (gate : Option Gate) :
    ReadsStages gate (bangs.map .word ++ groups.flatten)
      [⟨commandOf parts, gate, bangs.length⟩] where
  starts := by
    cases bangs with
    | cons bang bangs =>
        exact ⟨.word bang, _, rfl, by simp [Token.operator?], .inr (marks bang List.mem_cons_self)⟩
    | nil =>
        cases each with
        | nil => exact absurd rfl filled
        | cons reads _ => exact reads.starts.append _
  reads source pipelines earlier pending rest := by
    refine ⟨parts.foldl PipelineDraft.addPart
      ((PipelineDraft.atStage pipelines earlier gate pending).negate bangs.length), ?_, ?_, ?_, ?_⟩
    · rw [List.append_assoc, readPipelines_negations marks source rfl, readPipelines_parts each]
    · rw [foldl_addPart]
      rcases List.exists_cons_of_ne_nil filled with ⟨part, others, rfl⟩
      cases part with
      | word word =>
          simp [PipelineDraft.stageIsEmpty, commandOf, List.filterMap_cons, CommandPart.word?]
      | redirection redirection =>
          simp [PipelineDraft.stageIsEmpty, commandOf, List.filterMap_cons,
            CommandPart.redirection?]
    · rw [foldl_addPart]
      rfl
    · rw [foldl_addPart]
      simp [PipelineDraft.finishStage, PipelineDraft.atStage, PipelineDraft.negate]

/-- A joint behind the last stage, and more stages behind it. -/
theorem chain {kind : Operator} {joint : Joint} (joins : kind.joint? = some joint)
    (sameLine : joint ≠ .newline) {more : List Token} {others : List Stage}
    (first : ReadsStages gate tokens stages) (behind : ReadsStages joint.stageGate more others)
    (start stop : Nat) :
    ReadsStages gate (tokens ++ .operator kind start stop :: more) (stages ++ others) where
  starts := first.starts.append _
  reads source pipelines earlier pending rest := by
    have plain : kind.duplication? = none ∧ kind.redirectionTo? = none := by
      cases kind <;> first | exact ⟨rfl, rfl⟩ | cases joins
    rcases first.reads source pipelines earlier pending
        (.operator kind start stop :: (more ++ rest)) with
      ⟨draft, reads, filled, kept, found⟩
    rcases behind.reads source pipelines (stages.reverse ++ earlier) (some joint) rest with
      ⟨final, readsBehind, filledBehind, keptBehind, foundBehind⟩
    have onward : draft.chain joint =
        .atStage pipelines (stages.reverse ++ earlier) joint.stageGate (some joint) := by
      rw [← found, ← kept]
      rfl
    refine ⟨final, ?_, filledBehind, keptBehind, by simp [foundBehind]⟩
    rw [List.append_assoc, List.cons_append, reads, readPipelines]
    simp only [plain, joins, filled, ← readsBehind, ← onward]
    cases joint with
    | newline => exact absurd rfl sameLine
    | pipe => rfl
    | gate => rfl

end ReadsStages

/-! ## Pipelines -/

/-- To their end, the tokens are read as pipelines. -/
structure ReadsPipelines (tokens : List Token) (pipelines : List Pipeline) : Prop where
  starts : StartsCommand tokens
  reads : ∀ (source : List Char) (earlier : List Pipeline) (pending : Option Joint),
    readPipelines source (.atStage earlier [] none pending) tokens =
      .ok ⟨.pipelines (earlier.reverse ++ pipelines), none⟩

namespace ReadsPipelines

variable {tokens more : List Token} {stages : List Stage} {pipelines : List Pipeline}

theorem last (read : ReadsStages none tokens stages) : ReadsPipelines tokens [⟨stages⟩] where
  starts := read.starts
  reads source earlier pending := by
    rcases read.reads source earlier [] pending [] with ⟨draft, reads, filled, kept, found⟩
    rw [List.append_nil] at reads found
    have whole : draft.finishStage.stages.isEmpty = false := rfl
    have same : draft.finishStage.pipelines = earlier := kept
    rw [found] at whole
    rw [reads, readPipelines, PipelineDraft.finish, filled]
    simp only [Bool.false_eq_true, if_false, PipelineDraft.closedPipelines, whole, same, found,
      List.reverse_reverse, List.reverse_cons]

/-- A line break behind a pipeline, and more pipelines behind it. -/
theorem line (read : ReadsStages none tokens stages) (behind : ReadsPipelines more pipelines)
    (start stop : Nat) :
    ReadsPipelines (tokens ++ .operator .newline start stop :: more) (⟨stages⟩ :: pipelines) where
  starts := read.starts.append _
  reads source earlier pending := by
    rcases read.reads source earlier [] pending (.operator .newline start stop :: more) with
      ⟨draft, reads, filled, kept, found⟩
    have onward : draft.breakLine = .atStage (⟨stages⟩ :: earlier) [] none (some .newline) := by
      unfold PipelineDraft.breakLine
      simp only [filled, Bool.false_and, Bool.false_eq_true, if_false, found, List.append_nil,
        List.reverse_reverse]
      rw [← kept]
      rfl
    rw [reads, readPipelines]
    simp only [Operator.duplication?, Operator.redirectionTo?, Operator.joint?, onward]
    rw [behind.reads, List.reverse_cons, List.append_assoc, List.singleton_append]

/-- Tokens that are read as pipelines are a statement without a tail. -/
theorem ofTokens_eq (read : ReadsPipelines tokens pipelines) (source : List Char) :
    ofTokens source tokens = .ok (some ⟨.pipelines pipelines, none⟩) := by
  rcases read.starts with ⟨token, rest, rfl, other, bare⟩
  have kept : (token :: rest).dropWhile (fun token => token.operator? == some .newline) =
      token :: rest := by
    simp [other]
  have noFunction : startsFunction (token :: rest) = false := by
    cases token with
    | operator => rfl
    | word word =>
        have bare : word.bare? = none ∨ word.bare? = some "!" := bare
        have noName : isName "!" = false := by decide
        rcases bare with bare | bare
        · simp [startsFunction, bare]
        · simp [startsFunction, bare, noName]
  have found : readPipelines source .initial (token :: rest) = _ := read.reads source [] none
  have noCompound : startsCompound "!" = false := by decide
  unfold ofTokens
  simp only [kept, noFunction]
  rcases bare with bare | bare
  · simp only [bare, found]
    rfl
  · simp only [bare, noCompound, found]
    rfl

end ReadsPipelines

end VirtualShell.Statement
