import VirtualShell.Proofs.Interpreter.Parts

/-!
Contract: of two runs of a statement, the second follows the first if its calls do.

Owns:
- `Interpreter.Stable`, the steps of running a statement that a relation between two runs has
  to survive: they change the storage, the variables, the functions and the last exit code,
  and record events, and nothing else.
- `Interpreter.runRead_follows`: if calls follow each other, and loops do where their passes
  run out, so do the runs of a text in terms of them.

Both runs are built alike, and whatever is built alike from steps that follow themselves and
calls that follow each other follows too. What keeps a condition is the case of two equal runs.
-/

namespace VirtualShell.Interpreter

open VirtualShell.Engine

/-- The steps of running a statement keep a relation between two runs. -/
structure Stable (relation : Relation) : Prop where
  storage : ∀ session storage journal, relation.between session journal →
    relation.between { session with storage := storage } journal
  environment : ∀ session environment journal, relation.between session journal →
    relation.between { session with environment := environment } journal
  functions : ∀ session functions journal, relation.between session journal →
    relation.between { session with functions := functions } journal
  lastExitCode : ∀ session code journal, relation.between session journal →
    relation.between { session with lastExitCode := code } journal
  record : ∀ session entry journal, IsReporter entry.source → relation.between session journal →
    relation.between { session with journal := session.journal.record entry }
      (journal.record entry)
  fault : ∀ fault session journal,
    relation.between session journal → relation.afterwards (.fault fault) session journal
  discarded : ∀ abort session name journal,
    relation.afterwards abort session journal →
      relation.afterwards abort (session.discard name) journal
  spoiled : ∀ journal entry, relation.spoiled journal → relation.spoiled (journal.record entry)

/-- One pair of calls follows another, whatever they are asked to run. -/
structure CallsFollow (relation : Relation) (left right : Calls) : Prop where
  run : ∀ text stdin lead,
    Follows relation (left.run text stdin lead) (right.run text stdin lead)
  dispatch : ∀ name arguments stdin,
    Follows relation (left.dispatch name arguments stdin) (right.dispatch name arguments stdin)

/-- The right loops have at least as many passes. A left loop that needs more than it may have
is followed by one that has no more, and by any other if it may. -/
structure LoopsFollow (relation : Relation) (setup other : Setup) : Prop where
  passes : setup.limits.loopPasses ≤ other.limits.loopPasses
  breach : ∀ name before right,
    (other.limits.loopPasses = setup.limits.loopPasses → right = breachLoop other name before) →
      Follows relation (breachLoop setup name before) right

section

variable {setup other : Setup} {relation : Relation} {left right : Calls}

/-! ## Steps -/

theorem setLastExitCode_follows (stable : Stable relation) (code : ExitCode) :
    Follows relation (setLastExitCode code) (setLastExitCode code) :=
  Follows.modify (fun _ _ => rfl) fun session => stable.lastExitCode session code

theorem record_follows (stable : Stable relation) {source : String} (reporter : IsReporter source)
    (level : Level) (message : String) :
    Follows relation (Engine.record level message source)
      (Engine.record level message source) := by
  apply Follows.record stable.spoiled
  rintro session entry journal rfl holds
  exact stable.record session entry journal reporter holds

theorem Step.follows (stable : Stable relation) {α : Type} {work : Engine α} (step : Step work) :
    Follows relation work work := by
  cases step with
  | read | write | append => exact Follows.attempt stable.storage
  | expandArguments words => exact Follows.get_bind fun _ _ => Follows.ofFaulty stable.fault
  | loopItems stored =>
      refine Follows.get_bind fun session journal => ?_
      split
      · exact Follows.throw (stable.fault _)
      · exact Follows.ofFaulty stable.fault
  | assign name value =>
      exact Follows.modify (fun _ _ => rfl) fun session => stable.environment session _
  | define name body =>
      exact Follows.modify (fun _ _ => rfl) fun session => stable.functions session _
  | setLastExitCode code => exact setLastExitCode_follows stable code
  | record report => exact record_follows stable report.reporter _ _

/-! ## Statements -/

/-- What is built alike from steps that follow themselves and from calls that follow each
other follows too. -/
theorem Alike.follows
    (steps : ∀ {α : Type} {work : Engine α}, Step work → Follows relation work work)
    (discards : ∀ {α : Type} (result : Except Abort α) session name journal,
      relation.Holds (result, session) journal →
        relation.Holds (result, session.discard name) journal)
    (loops : LoopsFollow relation setup other) (calls : CallsFollow relation left right)
    {α : Type} {first second : Engine α} (alike : Alike setup other left right first second) :
    Follows relation first second := by
  induction alike with
  | pure value => exact Follows.pure value
  | bind _ _ first next => exact first.bind next
  | get _ next => exact Follows.get_bind next
  | step step => exact steps step
  | discarding name _ inner =>
      refine inner.onExit (fun _ _ _ => rfl) fun result session journal => ?_
      exact discards result session name journal
  | breach name before following same => exact loops.breach name before following same
  | run text stdin lead => exact calls.run text stdin lead
  | dispatch name arguments stdin => exact calls.dispatch name arguments stdin

/-- If one pair of calls follows another, so does the run of a text in terms of it. -/
theorem runRead_follows (stable : Stable relation) (calls : CallsFollow relation left right)
    (loops : LoopsFollow relation setup other) (text stdin : String) (lead : Lead) :
    Follows relation (runRead setup left text stdin lead)
      (runRead other right text stdin lead) := by
  refine (runRead_alike loops.passes text stdin lead).follows (Step.follows stable) ?_ loops calls
  intro α result session name journal holds
  cases result with
  | ok value => exact stable.environment session _ journal holds
  | error abort => exact stable.discarded abort session name journal holds

/-! ## Processes -/

/-- If one way of running a line follows another, so does the work of a process that asks
for lines in that way. -/
theorem perform_follows (stable : Stable relation) {leftLine rightLine : String → Engine Outcome}
    (lines : ∀ line, Follows relation (leftLine line) (rightLine line)) (process : Process) :
    Follows relation (perform leftLine process) (perform rightLine process) := by
  have changes (world : World) (session : Session) (journal : Journal)
      (holds : relation.between session journal) :
      relation.between
        { session with environment := world.environment, storage := world.storage } journal :=
    stable.storage _ world.storage journal
      (stable.environment session world.environment journal holds)
  induction process with
  | finished world result =>
      exact (Follows.modify (fun _ _ => rfl) (changes world)).bind fun _ =>
        Follows.ofFaulty stable.fault
  | running world line resume inductionHypothesis =>
      refine (Follows.modify (fun _ _ => rfl) (changes world)).bind fun _ => ?_
      refine (lines line).bind fun outcome => Follows.get_bind fun session journal => ?_
      exact inductionHypothesis _ _

end

end VirtualShell.Interpreter
