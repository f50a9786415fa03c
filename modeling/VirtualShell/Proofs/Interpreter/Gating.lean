import Mathlib.Data.List.SplitBy
import VirtualShell.Proofs.Interpreter.Status

/-!
Contract: a pipeline is a chain of runs that gates join, from left to right.

Owns:
- `Turn`, what became of one run of commands that pipes join, and what follows from the turns:
  the exit code after them, and what they print;
- `AreGated`, `Flows` and `TakesTurns`, which runs are executed, and how, without a word of how
  the pipeline is carried out;
- `runPipeline_eq_turns_and_split`: these are the runs of a pipeline, and a pipeline that is
  split at a gate runs as its two parts one after the other.
-/

namespace VirtualShell.Interpreter

open VirtualShell.Fallible

/-! ## Turns -/

/-- What became of one run: its commands, and what they yielded if the run was executed. -/
structure Turn where
  stages : List Stage
  outcomes : Option (List Outcome)

namespace Turn

variable (turn : Turn)

def isExecuted : Bool := turn.outcomes.isSome

/-- The gate in front of a run that is not the first. -/
def gate : Gate := (turn.stages.head?.bind Stage.gate).getD .always

/-- The exclamation marks in front of a run. -/
def negations : Nat := (turn.stages.head?.map Stage.negations).getD 0

/-- What the last command yielded. -/
def last : Outcome := (turn.outcomes.getD []).getLastD .success

/-- What the commands have printed as errors. -/
def stderr : String := String.join ((turn.outcomes.getD []).map Outcome.stderr)

/-- The exit code of a run that was executed. -/
def code? : Option ExitCode :=
  turn.outcomes.map fun _ => negate turn.negations turn.last.exitCode

end Turn

/-- The exit code of the last run that was executed. -/
def codeAfter (previous : ExitCode) (turns : List Turn) : ExitCode :=
  (turns.filterMap Turn.code?).getLastD previous

/-- The output of some runs: what the last command of each has printed. -/
def stdoutOf (turns : List Turn) : String :=
  String.join (turns.map fun turn => turn.last.stdout)

/-- The error output of some runs: what each command of each has printed. -/
def stderrOf (turns : List Turn) : String :=
  String.join (turns.map Turn.stderr)

/-- A run is executed where its gate lets it run after the run executed last before it. -/
def AreGated (lead : Lead) (turns : List Turn) : Prop :=
  ∀ before turn behind, turns = before ++ turn :: behind →
    turn.isExecuted =
      (if before.isEmpty then lead.gate else turn.gate).allows (codeAfter lead.previous before)

/-- The commands of a run are executed one after the other. The input of the first is that of
the run, and the input of each other one is what the one before it has printed. -/
inductive Flows (calls : Calls) :
    String → Session → List Stage → List Outcome → Session → Prop where
  | nil {input : String} {session : Session} : Flows calls input session [] [] session
  | cons {input : String} {session between after : Session} {stage : Stage}
      {stages : List Stage} {outcome : Outcome} {outcomes : List Outcome}
      (ran : (runCommand calls stage.command input).run session = (.ok outcome, between))
      (rest : Flows calls outcome.stdout between stages outcomes after) :
      Flows calls input session (stage :: stages) (outcome :: outcomes) after

/-- The runs take turns: one that is skipped leaves the session as it is, and one that is
executed sets the exit code that `$?` stands for. -/
inductive TakesTurns (calls : Calls) (stdin : String) : Session → List Turn → Session → Prop where
  | nil {session : Session} : TakesTurns calls stdin session [] session
  | skipped {session after : Session} {stages : List Stage} {turns : List Turn}
      (rest : TakesTurns calls stdin session turns after) :
      TakesTurns calls stdin session (⟨stages, none⟩ :: turns) after
  | executed {session between after : Session} {stages : List Stage} {outcomes : List Outcome}
      {code : ExitCode} {turns : List Turn}
      (ran : Flows calls stdin session stages outcomes between)
      (ends : (Turn.mk stages (some outcomes)).code? = some code)
      (rest : TakesTurns calls stdin { between with lastExitCode := code } turns after) :
      TakesTurns calls stdin session (⟨stages, some outcomes⟩ :: turns) after

section

variable {calls : Calls} {stdin : String} {session after : Session}

/-! ## Turns one after the other -/

theorem codeAfter_nil (previous : ExitCode) : codeAfter previous [] = previous :=
  rfl

theorem codeAfter_cons (previous : ExitCode) (turn : Turn) (turns : List Turn) :
    codeAfter previous (turn :: turns) = codeAfter (turn.code?.getD previous) turns := by
  unfold codeAfter
  cases found : turn.code? with
  | none => rw [List.filterMap_cons_none found, Option.getD_none]
  | some code => rw [List.filterMap_cons_some found, List.getLastD_cons, Option.getD_some]

/-- The gate in front of some runs behind others. -/
def gateBefore (turns : List Turn) : Gate :=
  (turns.head?.map Turn.gate).getD .always

theorem areGated_nil (lead : Lead) : AreGated lead [] := by
  intro before turn behind whole
  simp at whole

theorem areGated_cons {lead : Lead} {turn : Turn} {turns : List Turn} :
    AreGated lead (turn :: turns) ↔
      turn.isExecuted = lead.allows ∧
        AreGated ⟨gateBefore turns, turn.code?.getD lead.previous⟩ turns := by
  constructor
  · intro gated
    refine ⟨gated [] turn turns rfl, ?_⟩
    intro before next behind whole
    have chosen := gated (turn :: before) next behind (by rw [whole, List.cons_append])
    rw [codeAfter_cons] at chosen
    rw [chosen]
    cases before with
    | nil =>
        rw [whole]
        rfl
    | cons first others => rfl
  · rintro ⟨first, others⟩ before next behind whole
    cases before with
    | nil =>
        obtain ⟨rfl, -⟩ := List.cons.inj whole
        exact first
    | cons front before =>
        obtain ⟨rfl, rfl⟩ := List.cons.inj whole
        have chosen := others before next behind rfl
        rw [codeAfter_cons, chosen]
        cases before <;> rfl

/-! ## A run as its commands -/

theorem runPiped_iff {input before : String} {stages : List Stage} {outcome : Outcome} :
    (runPiped calls input before stages).run session = (.ok outcome, after) ↔
      ∃ outcomes, Flows calls input session stages outcomes after ∧
        outcome = ⟨(outcomes.getLastD .success).stdout,
          before ++ String.join (outcomes.map Outcome.stderr),
          (outcomes.getLastD .success).exitCode⟩ := by
  induction stages generalizing input before session with
  | nil =>
      constructor
      · intro ended
        cases ended
        exact ⟨[], .nil, by simp [Outcome.success]⟩
      · rintro ⟨_, flows, rfl⟩
        cases flows
        simp [runPiped, run_pure, Outcome.success]
  | cons stage stages inductionHypothesis =>
      cases stages with
      | nil =>
          simp only [runPiped, run_bind_eq_ok_iff]
          constructor
          · rintro ⟨outcome, between, ran, ended⟩
            cases ended
            exact ⟨[outcome], .cons ran .nil, by simp⟩
          · rintro ⟨_, flows, rfl⟩
            cases flows with
            | cons ran rest =>
                cases rest
                exact ⟨_, _, ran, by simp [run_pure]⟩
      | cons next stages =>
          simp only [runPiped, run_bind_eq_ok_iff]
          constructor
          · rintro ⟨first, between, ran, ended⟩
            obtain ⟨outcomes, flows, rfl⟩ := inductionHypothesis.1 ended
            refine ⟨first :: outcomes, .cons ran flows, ?_⟩
            cases flows
            simp [String.append_assoc]
          · rintro ⟨_, flows, rfl⟩
            cases flows with
            | cons ran rest =>
                refine ⟨_, _, ran, inductionHypothesis.2 ⟨_, rest, ?_⟩⟩
                cases rest
                simp [String.append_assoc]

/-! ## A pipeline as its turns -/

/-- What some runs yield behind an outcome; the output of the last one may be held back. -/
def sumUp (holds : Bool) (before : Outcome) (turns : List Turn) : Held where
  outcome :=
    ⟨before.stdout ++ stdoutOf (if holds then turns.dropLast else turns),
      before.stderr ++ stderrOf turns, codeAfter before.exitCode turns⟩
  held := if holds then stdoutOf turns.getLast?.toList else ""

theorem sumUp_skipped (holds : Bool) (before : Outcome) (stages : List Stage)
    (turns : List Turn) :
    sumUp holds before (⟨stages, none⟩ :: turns) = sumUp holds before turns := by
  have silent : (Turn.mk stages none).last = .success := rfl
  have quiet : (Turn.mk stages none).stderr = "" := rfl
  have codeless : (Turn.mk stages none).code? = none := rfl
  cases turns <;> cases holds <;>
    simp [sumUp, stdoutOf, stderrOf, codeAfter_cons, silent, quiet, codeless, Outcome.success]

/-- The output of a run that is not held back stands behind that of the runs before it. -/
theorem sumUp_cons {holds : Bool} {turns : List Turn} (given : (holds && turns.isEmpty) = false)
    (before : Outcome) (turn : Turn) :
    sumUp holds before (turn :: turns) =
      sumUp holds (append before ⟨turn.last.stdout, turn.stderr,
        turn.code?.getD before.exitCode⟩) turns := by
  cases holds with
  | false => simp [sumUp, stdoutOf, stderrOf, append, codeAfter_cons, String.append_assoc]
  | true =>
      cases turns with
      | nil => cases given
      | cons next turns =>
          simp [sumUp, stdoutOf, stderrOf, append, codeAfter_cons, String.append_assoc]

/-- The stages of a group. -/
def stagesOf (group : Stage × List Stage) : List Stage :=
  group.1 :: group.2

/-- The gate in front of the first of some groups behind others. -/
def gateOf (groups : List (Stage × List Stage)) : Gate :=
  (groups.head?.bind fun group => group.1.gate).getD .always

theorem gateBefore_of_stages {turns : List Turn} {groups : List (Stage × List Stage)}
    (staged : turns.map Turn.stages = groups.map stagesOf) :
    gateBefore turns = gateOf groups := by
  cases groups with
  | nil =>
      rw [List.map_nil, List.map_eq_nil_iff] at staged
      rw [staged]
      rfl
  | cons group groups =>
      obtain ⟨turn, turns, rfl, first, -⟩ := List.map_eq_cons_iff.1 staged
      simp [gateBefore, gateOf, Turn.gate, first, stagesOf]

theorem isEmpty_of_stages {turns : List Turn} {groups : List (Stage × List Stage)}
    (staged : turns.map Turn.stages = groups.map stagesOf) : turns.isEmpty = groups.isEmpty := by
  have same := congrArg List.isEmpty staged
  rwa [List.isEmpty_map, List.isEmpty_map] at same

theorem runGroups_cons (holds : Bool) (gate : Gate) (before : Outcome)
    (group : Stage × List Stage) (groups : List (Stage × List Stage)) :
    runGroups calls stdin holds gate before (group :: groups) =
      if gate.allows before.exitCode then
        runPiped calls stdin "" (stagesOf group) >>= fun outcome =>
          let code := negate group.1.negations outcome.exitCode
          setLastExitCode code >>= fun _ =>
            if holds && groups.isEmpty then
              pure ⟨⟨before.stdout, before.stderr ++ outcome.stderr, code⟩, outcome.stdout⟩
            else
              runGroups calls stdin holds (gateOf groups)
                (append before ⟨outcome.stdout, outcome.stderr, code⟩) groups
      else runGroups calls stdin holds (gateOf groups) before groups := by
  cases allowed : gate.allows before.exitCode <;>
    simp only [runGroups, allowed, Bool.not_true, Bool.not_false, Bool.false_eq_true, if_true,
      if_false] <;> rfl

/-- What a group that is executed leads to, once its commands have ended. -/
theorem runGroups_of_flows {holds : Bool} {gate : Gate} {before : Outcome}
    (allows : gate.allows before.exitCode = true) {group : Stage × List Stage}
    {outcomes : List Outcome} {between : Session} {code : ExitCode}
    (flows : Flows calls stdin session (stagesOf group) outcomes between)
    (ends : (Turn.mk (stagesOf group) (some outcomes)).code? = some code)
    (groups : List (Stage × List Stage)) :
    (runGroups calls stdin holds gate before (group :: groups)).run session =
      let turn : Turn := ⟨stagesOf group, some outcomes⟩
      let further := append before ⟨turn.last.stdout, turn.stderr, code⟩
      let session := { between with lastExitCode := code }
      if holds && groups.isEmpty then (.ok (sumUp true before [turn]), session)
      else (runGroups calls stdin holds (gateOf groups) further groups).run session := by
  have ran : (runPiped calls stdin "" (stagesOf group)).run session =
      (.ok ⟨(outcomes.getLastD .success).stdout,
        "" ++ String.join (outcomes.map Outcome.stderr),
        (outcomes.getLastD .success).exitCode⟩, between) :=
    runPiped_iff.2 ⟨outcomes, flows, rfl⟩
  have turned : negate group.1.negations (outcomes.getLastD .success).exitCode = code :=
    Option.some.inj ends
  have set : (setLastExitCode code).run between =
      (.ok (), { between with lastExitCode := code }) := rfl
  simp only [runGroups_cons, allows, if_true, run_bind, ran, turned, set]
  split
  · simp [run_pure, sumUp, stdoutOf, stderrOf, codeAfter_cons, codeAfter_nil, ends, Turn.last,
      Turn.stderr]
  · rw [String.empty_append]
    rfl

theorem exists_flows_of_runGroups {holds : Bool} {gate : Gate} {before : Outcome}
    (allows : gate.allows before.exitCode = true) {group : Stage × List Stage}
    {groups : List (Stage × List Stage)} {held : Held}
    (ended : (runGroups calls stdin holds gate before (group :: groups)).run session =
      (.ok held, after)) :
    ∃ outcomes between, Flows calls stdin session (stagesOf group) outcomes between := by
  rw [runGroups_cons, if_pos allows] at ended
  obtain ⟨_, between, ran, -⟩ := run_bind_eq_ok_iff.1 ended
  obtain ⟨outcomes, flows, -⟩ := runPiped_iff.1 ran
  exact ⟨outcomes, between, flows⟩

theorem exists_turns_of_runGroups {holds : Bool} {gate : Gate} {before : Outcome}
    {groups : List (Stage × List Stage)} {held : Held}
    (ended : (runGroups calls stdin holds gate before groups).run session = (.ok held, after)) :
    ∃ turns, turns.map Turn.stages = groups.map stagesOf ∧
      AreGated ⟨gate, before.exitCode⟩ turns ∧ TakesTurns calls stdin session turns after ∧
      held = sumUp holds before turns := by
  induction groups generalizing gate before session with
  | nil =>
      cases ended
      exact ⟨[], rfl, areGated_nil _, .nil, by simp [sumUp, stdoutOf, stderrOf, codeAfter]⟩
  | cons group groups inductionHypothesis =>
      cases allowed : gate.allows before.exitCode with
      | false =>
          rw [runGroups_cons, allowed, if_neg Bool.false_ne_true] at ended
          obtain ⟨turns, staged, gated, takes, rfl⟩ := inductionHypothesis ended
          rw [← gateBefore_of_stages staged] at gated
          exact ⟨⟨stagesOf group, none⟩ :: turns, by simp [staged],
            areGated_cons.2 ⟨allowed.symm, gated⟩, .skipped takes,
            (sumUp_skipped holds before _ turns).symm⟩
      | true =>
          obtain ⟨outcomes, between, flows⟩ := exists_flows_of_runGroups allowed ended
          rw [runGroups_of_flows allowed flows rfl] at ended
          dsimp only at ended
          split at ended
          case isTrue final =>
            obtain ⟨rfl, last⟩ := Bool.and_eq_true_iff.1 final
            obtain rfl := List.isEmpty_iff.1 last
            cases ended
            exact ⟨[⟨stagesOf group, some outcomes⟩], rfl,
              areGated_cons.2 ⟨allowed.symm, areGated_nil _⟩, .executed flows rfl .nil, rfl⟩
          case isFalse onward =>
            obtain ⟨turns, staged, gated, takes, rfl⟩ := inductionHypothesis ended
            rw [← gateBefore_of_stages staged] at gated
            rw [← isEmpty_of_stages staged, Bool.not_eq_true] at onward
            exact ⟨⟨stagesOf group, some outcomes⟩ :: turns, by simp [staged],
              areGated_cons.2 ⟨allowed.symm, gated⟩, .executed flows rfl takes,
              (sumUp_cons onward before _).symm⟩

theorem runGroups_of_turns {holds : Bool} {gate : Gate} {before : Outcome} {turns : List Turn}
    {groups : List (Stage × List Stage)} (takes : TakesTurns calls stdin session turns after)
    (staged : turns.map Turn.stages = groups.map stagesOf)
    (gated : AreGated ⟨gate, before.exitCode⟩ turns) :
    (runGroups calls stdin holds gate before groups).run session =
      (.ok (sumUp holds before turns), after) := by
  induction takes generalizing gate before groups with
  | nil =>
      obtain rfl := List.map_eq_nil_iff.1 staged.symm
      simp [runGroups, run_pure, sumUp, stdoutOf, stderrOf, codeAfter]
  | skipped rest inductionHypothesis =>
      obtain ⟨group, groups, rfl, -, others⟩ := List.map_eq_cons_iff.1 staged.symm
      obtain ⟨idle, gated⟩ := areGated_cons.1 gated
      rw [gateBefore_of_stages others.symm] at gated
      have closed : gate.allows before.exitCode = false := idle.symm
      rw [runGroups_cons, closed, if_neg Bool.false_ne_true, sumUp_skipped]
      exact inductionHypothesis others.symm gated
  | executed flows ends rest inductionHypothesis =>
      obtain ⟨group, groups, rfl, rfl, others⟩ := List.map_eq_cons_iff.1 staged.symm
      obtain ⟨executed, gated⟩ := areGated_cons.1 gated
      rw [gateBefore_of_stages others.symm, ends] at gated
      rw [runGroups_of_flows executed.symm flows ends]
      dsimp only
      split
      case isTrue final =>
        obtain ⟨rfl, last⟩ := Bool.and_eq_true_iff.1 final
        rw [← isEmpty_of_stages others.symm, List.isEmpty_iff] at last
        subst last
        cases rest
        rfl
      case isFalse onward =>
        rw [← isEmpty_of_stages others.symm, Bool.not_eq_true] at onward
        rw [inductionHypothesis others.symm gated, sumUp_cons onward, ends]
        rfl

/-- Groups run as turns that the gates allow. -/
theorem runGroups_iff {holds : Bool} {gate : Gate} {before : Outcome}
    {groups : List (Stage × List Stage)} {held : Held} :
    (runGroups calls stdin holds gate before groups).run session = (.ok held, after) ↔
      ∃ turns, turns.map Turn.stages = groups.map stagesOf ∧
        AreGated ⟨gate, before.exitCode⟩ turns ∧ TakesTurns calls stdin session turns after ∧
        held = sumUp holds before turns := by
  constructor
  · exact exists_turns_of_runGroups
  · rintro ⟨turns, staged, gated, takes, rfl⟩
    exact runGroups_of_turns takes staged gated

/-! ## Groups as runs -/

/-- A stage stands in front of the first group behind it, or in a group of its own. -/
theorem exists_groupStages_cons (stage next : Stage) (rest : List Stage) :
    ∃ others groups, groupStages (next :: rest) = (next, others) :: groups ∧
      groupStages (stage :: next :: rest) =
        if next.gate.isNone then (stage, next :: others) :: groups
        else (stage, []) :: (next, others) :: groups := by
  obtain ⟨others, groups, grouped⟩ :
      ∃ others groups, groupStages (next :: rest) = (next, others) :: groups := by
    cases rest with
    | nil => exact ⟨[], [], rfl⟩
    | cons third rest =>
        unfold groupStages
        split
        · split <;> exact ⟨_, _, rfl⟩
        · exact ⟨_, _, rfl⟩
  refine ⟨others, groups, grouped, ?_⟩
  conv_lhs => unfold groupStages
  rw [grouped]

theorem flatten_groupStages (stages : List Stage) :
    ((groupStages stages).map stagesOf).flatten = stages := by
  induction stages with
  | nil => rfl
  | cons stage rest inductionHypothesis =>
      cases rest with
      | nil => rfl
      | cons next rest =>
          obtain ⟨others, groups, grouped, joined⟩ := exists_groupStages_cons stage next rest
          rw [grouped] at inductionHypothesis
          rw [joined]
          split <;> simpa [stagesOf] using inductionHypothesis

/-- Pipes join the stages of a group. -/
theorem isChain_of_mem_groupStages {stages : List Stage} :
    ∀ group ∈ groupStages stages, (stagesOf group).IsChain fun _ next => next.gate.isNone := by
  induction stages with
  | nil => simp [groupStages]
  | cons stage rest inductionHypothesis =>
      cases rest with
      | nil => simp [groupStages, stagesOf]
      | cons next rest =>
          obtain ⟨others, groups, grouped, joined⟩ := exists_groupStages_cons stage next rest
          rw [grouped, List.forall_mem_cons] at inductionHypothesis
          obtain ⟨front, behind⟩ := inductionHypothesis
          rw [joined]
          split
          case isTrue piped =>
            exact List.forall_mem_cons.2 ⟨List.isChain_cons_cons.2 ⟨piped, front⟩, behind⟩
          case isFalse =>
            exact List.forall_mem_cons.2 ⟨List.isChain_singleton _,
              List.forall_mem_cons.2 ⟨front, behind⟩⟩

/-- A gate stands in front of each group but the first. -/
theorem isChain_groupStages (stages : List Stage) :
    ((groupStages stages).map stagesOf).IsChain fun before group =>
      ∃ filled first, (fun _ next : Stage => next.gate.isNone) (before.getLast filled)
        (group.head first) = false := by
  induction stages with
  | nil => simp [groupStages]
  | cons stage rest inductionHypothesis =>
      cases rest with
      | nil => simp [groupStages]
      | cons next rest =>
          obtain ⟨others, groups, grouped, joined⟩ := exists_groupStages_cons stage next rest
          rw [grouped, List.map_cons] at inductionHypothesis
          rw [joined]
          split
          case isTrue piped =>
            obtain ⟨front, behind⟩ := List.isChain_cons.1 inductionHypothesis
            refine List.isChain_cons.2 ⟨fun group among => ?_, behind⟩
            obtain ⟨filled, first, parted⟩ := front group among
            exact ⟨by simp [stagesOf], first, by simpa [stagesOf] using parted⟩
          case isFalse gated =>
            exact List.isChain_cons_cons.2 ⟨⟨by simp [stagesOf], by simp [stagesOf],
              Bool.eq_false_iff.2 gated⟩, inductionHypothesis⟩

/-- The groups of some stages are parted in front of each stage that has a gate. -/
theorem map_groupStages (stages : List Stage) :
    (groupStages stages).map stagesOf = stages.splitBy fun _ next => next.gate.isNone := by
  refine (List.splitBy_eq_iff.2 ⟨(flatten_groupStages stages).symm, ?_, ?_,
    isChain_groupStages stages⟩).symm
  · simp [stagesOf]
  · exact List.forall_mem_map.2 isChain_of_mem_groupStages

theorem groupStages_append {first : List Stage} {stage : Stage} (gated : stage.gate.isNone = false)
    (rest : List Stage) :
    groupStages (first ++ stage :: rest) = groupStages first ++ groupStages (stage :: rest) := by
  have injective : Function.Injective stagesOf := by
    rintro ⟨stage, others⟩ ⟨other, rest⟩ same
    cases same
    rfl
  apply List.map_injective_iff.2 injective
  rw [List.map_append, map_groupStages, map_groupStages, map_groupStages]
  exact List.splitBy_append_cons rest fun _ _ => gated

theorem gateOf_groupStages (stage : Stage) (rest : List Stage) :
    gateOf (groupStages (stage :: rest)) = stage.gate.getD .always := by
  cases rest with
  | nil => rfl
  | cons next rest =>
      obtain ⟨others, groups, -, joined⟩ := exists_groupStages_cons stage next rest
      rw [joined]
      split <;> rfl

/-! ## A pipeline in two parts -/

/-- An outcome behind another, and what is held back. -/
def Held.behind (first : Outcome) (held : Held) : Held :=
  ⟨append first held.outcome, held.held⟩

/-- What has been printed before stands in front of what the groups print. -/
theorem runGroups_behind (first : Outcome) (holds : Bool) (gate : Gate) (before : Outcome)
    (groups : List (Stage × List Stage)) :
    runGroups calls stdin holds gate (append first before) groups =
      Held.behind first <$> runGroups calls stdin holds gate before groups := by
  induction groups generalizing gate before with
  | nil => simp [runGroups, Held.behind]
  | cons group groups inductionHypothesis =>
      have code : (append first before).exitCode = before.exitCode := rfl
      rw [runGroups_cons, runGroups_cons, code]
      split
      · simp only [map_bind]
        congr 1
        funext outcome
        congr 1
        funext _
        split
        · simp [Held.behind, append, String.append_assoc]
        · rw [append_assoc, inductionHypothesis]
      · exact inductionHypothesis _ _

/-- Groups behind others start behind the outcome of those. -/
theorem runGroups_append {right : List (Stage × List Stage)} (filled : right ≠ []) (holds : Bool)
    (gate : Gate) (before : Outcome) (left : List (Stage × List Stage)) :
    runGroups calls stdin holds gate before (left ++ right) =
      (runGroups calls stdin false gate before left >>= fun former =>
        runGroups calls stdin holds (if left.isEmpty then gate else gateOf right) former.outcome
          right) := by
  induction left generalizing gate before with
  | nil => simp [runGroups]
  | cons group left inductionHypothesis =>
      have gates : (if left.isEmpty then gateOf (left ++ right) else gateOf right) =
          gateOf right := by
        cases left <;> rfl
      have more : (left ++ right).isEmpty = false := by
        simp [filled]
      have onward : ∀ before, runGroups calls stdin holds (gateOf (left ++ right)) before
          (left ++ right) = (runGroups calls stdin false (gateOf left) before left >>= fun former =>
            runGroups calls stdin holds (gateOf right) former.outcome right) := by
        intro before
        rw [inductionHypothesis, gates]
        cases left <;> rfl
      have later : (if (group :: left).isEmpty then gate else gateOf right) = gateOf right := rfl
      rw [List.cons_append, runGroups_cons, runGroups_cons, later]
      split
      · simp only [more, Bool.and_false, Bool.false_and, Bool.false_eq_true, if_false, onward,
          bind_assoc]
      · exact onward before

/-! ## Pipelines -/

theorem runPipeline_iff {stages : List Stage} {lead : Lead} {holds : Bool} {held : Held} :
    (runPipeline calls ⟨stages⟩ stdin lead holds).run session = (.ok held, after) ↔
      ∃ turns, turns.map Turn.stages = stages.splitBy (fun _ next => next.gate.isNone) ∧
        AreGated lead turns ∧ TakesTurns calls stdin session turns after ∧
        held = sumUp holds ⟨"", "", lead.previous⟩ turns := by
  rw [runPipeline, runGroups_iff, map_groupStages]

theorem runPipeline_append {first : List Stage} (filled : first ≠ []) {stage : Stage} {gate : Gate}
    (gated : stage.gate = some gate) (rest : List Stage) (lead : Lead) (holds : Bool) :
    runPipeline calls ⟨first ++ stage :: rest⟩ stdin lead holds =
      (runPipeline calls ⟨first⟩ stdin lead false >>= fun former =>
        Held.behind former.outcome <$>
          runPipeline calls ⟨stage :: rest⟩ stdin ⟨gate, former.outcome.exitCode⟩ holds) := by
  have behind : groupStages (stage :: rest) ≠ [] := groupStages_ne_nil (List.cons_ne_nil _ _)
  have ahead : (groupStages first).isEmpty = false := by
    simpa using groupStages_ne_nil filled
  have same : ∀ outcome : Outcome, append outcome ⟨"", "", outcome.exitCode⟩ = outcome := by
    intro outcome
    simp [append]
  unfold runPipeline
  rw [groupStages_append (by rw [gated]; rfl), runGroups_append behind, ahead]
  congr 1
  funext former
  rw [← runGroups_behind, same, gateOf_groupStages, gated]
  rfl

end

/-- A pipeline that ends is the turns of its runs, from left to right: the gate of each run
decides by the exit code of the run that was executed last, the output is that of the last
command of each executed run, and the error output that of every command. And a pipeline that
is split in front of a gate is its first part, and its second part behind that gate and the
exit code of the first. -/
theorem runPipeline_eq_turns_and_split (calls : Calls) (stdin : String) (lead : Lead)
    (holds : Bool) :
    (∀ (stages : List Stage) (session after : Session) (held : Held),
      (runPipeline calls ⟨stages⟩ stdin lead holds).run session = (.ok held, after) ↔
        ∃ turns, turns.map Turn.stages = stages.splitBy (fun _ next => next.gate.isNone) ∧
          AreGated lead turns ∧ TakesTurns calls stdin session turns after ∧
          held.outcome.stdout = stdoutOf (if holds then turns.dropLast else turns) ∧
          held.outcome.stderr = stderrOf turns ∧
          held.outcome.exitCode = codeAfter lead.previous turns ∧
          held.held = if holds then stdoutOf turns.getLast?.toList else "") ∧
      ∀ (first : List Stage) (stage : Stage) (rest : List Stage) (gate : Gate),
        first ≠ [] → stage.gate = some gate →
        runPipeline calls ⟨first ++ stage :: rest⟩ stdin lead holds = do
          let former ← runPipeline calls ⟨first⟩ stdin lead false
          let latter ←
            runPipeline calls ⟨stage :: rest⟩ stdin ⟨gate, former.outcome.exitCode⟩ holds
          return ⟨append former.outcome latter.outcome, latter.held⟩ := by
  refine ⟨fun stages session after held => ?_, fun first stage rest gate filled gated => ?_⟩
  · have sums : ∀ turns, held = sumUp holds ⟨"", "", lead.previous⟩ turns ↔
        held.outcome.stdout = stdoutOf (if holds then turns.dropLast else turns) ∧
          held.outcome.stderr = stderrOf turns ∧
          held.outcome.exitCode = codeAfter lead.previous turns ∧
          held.held = if holds then stdoutOf turns.getLast?.toList else "" := by
      intro turns
      obtain ⟨⟨stdout, stderr, code⟩, text⟩ := held
      simp [sumUp, and_assoc]
    simp only [runPipeline_iff, sums]
  · rw [runPipeline_append filled gated]
    rfl

/-- A command without quotes as a stage. -/
def plainStage (gate : Option Gate) (negations : Nat) (words : List String) : Stage :=
  ⟨⟨words.map fun text => ⟨[⟨text, .unquoted⟩], 0, 0⟩, []⟩, gate, negations⟩

/-- The line `! echo a | true && echo b; echo c`, split at its semicolon, its last output held
back. -/
theorem runPipeline_eq_turns_and_split_semicolon :
    let former := [plainStage none 1 ["echo", "a"], plainStage none 0 ["true"],
      plainStage (some .onSuccess) 0 ["echo", "b"]]
    let latter := plainStage (some .always) 0 ["echo", "c"]
    let calls := callsAt librarySetup 3
    (former ≠ [] ∧ latter.gate = some .always) ∧
      runPipeline calls ⟨former ++ [latter]⟩ "" .initial true = (do
        let first ← runPipeline calls ⟨former⟩ "" .initial false
        let second ← runPipeline calls ⟨[latter]⟩ "" ⟨.always, first.outcome.exitCode⟩ true
        return ⟨append first.outcome second.outcome, second.held⟩) ∧
      ((runPipeline calls ⟨former⟩ "" .initial false).run bareShell.session).1.toOption =
        some ⟨⟨"", "", 1⟩, ""⟩ ∧
      ((runPipeline calls ⟨former ++ [latter]⟩ "" .initial true).run
        bareShell.session).1.toOption = some ⟨⟨"", "", 0⟩, "c\n"⟩ := by
  intro former latter calls
  have parts : former ≠ [] ∧ latter.gate = some .always := by decide
  exact ⟨parts,
    (runPipeline_eq_turns_and_split calls "" .initial true).2 former latter [] .always parts.1
      parts.2,
    by decide +kernel, by decide +kernel⟩

end VirtualShell.Interpreter
