import VirtualShell.Proofs.Interpreter.Runs

/-!
Contract: when a loop needs more passes than it may have.

Owns:
- `Loop`, a loop under way, and `Loop.turn`, one turn of a loop that no cap holds up;
- `Passes` and `EndsAfter`: a loop goes through so many passes, and then ends by itself;
- `runInner_of_endsAfter`: with a cap, such a loop does the same if it has passes enough, and
  is stopped behind the last pass that it may have if not;
- `exists_breach_within_cap`, a loop that is stopped although it has had passes enough;
- `runItems_eq_of_allowed`: a loop over words takes the words for which `Limits.passes` allows a
  pass, and is stopped if there is another one.

A pass of a loop over words begins with its word, so the loop can end when no pass is left. A
pass of a loop with a condition begins with the condition, so to see that it has come to its
end such a loop needs one pass more than the body is run.
-/

namespace VirtualShell.Interpreter

open VirtualShell.Engine VirtualShell.Fallible

/-! ## Loops that no cap holds up -/

/-- A loop under way, with what it has still to do. -/
inductive Loop where
  | forEach (variableName body : String) (items : List String)
  | conditional (kind : LoopKind) (condition body : String)
deriving DecidableEq, Repr

namespace Loop

/-- The name of a loop in messages. -/
def name : Loop → String
  | .forEach .. => "for"
  | .conditional kind .. => loopName kind

/-- Whether a loop knows from its words how many passes it needs. -/
def isCounted : Loop → Bool
  | .forEach .. => true
  | .conditional .. => false

/-- The loop without what it has still to do. -/
def form : Loop → Loop
  | .forEach variableName body _ => .forEach variableName body []
  | .conditional kind condition body => .conditional kind condition body

/-- One turn: the loop ends by itself, or its body runs once and the loop goes on. -/
def turn (calls : Calls) (stdin : String) (before : Outcome) :
    Loop → Engine (Outcome × Option Loop)
  | .forEach _ _ [] => return (before, none)
  | .forEach variableName body (item :: rest) => do
      modify fun session => session.assign variableName item
      let outcome ← calls.run body stdin .initial
      return (append before outcome, some (.forEach variableName body rest))
  | .conditional kind condition body => do
      let tested ← calls.run condition stdin .initial
      let after := appendOutput before tested
      if goesOn kind tested.exitCode then
        let outcome ← calls.run body stdin .initial
        return (append after outcome, some (.conditional kind condition body))
      else return (after, none)

/-- The loop as the shell runs it, with so many passes left. -/
def run (setup : Setup) (calls : Calls) (stdin : String) (passes : Nat) (before : Outcome) :
    Loop → Engine Outcome
  | .forEach variableName body items =>
      runItems setup calls variableName body stdin passes before items
  | .conditional kind condition body =>
      runLoop setup calls kind condition body stdin passes before

/-- The session once the loop has ended: a loop over words has unset its variable. -/
def leave (session : Session) : Loop → Session
  | .forEach variableName .. => session.discard variableName
  | .conditional .. => session

end Loop

/-- How far a loop has come: what it has still to do, its outcome so far, and the session. -/
structure LoopState where
  loop : Loop
  outcome : Outcome
  session : Session

section

variable {setup : Setup} {calls : Calls} {stdin : String}

/-- The body runs `count` times, one pass after the other. -/
inductive Passes (calls : Calls) (stdin : String) : Nat → LoopState → LoopState → Prop where
  | none (state : LoopState) : Passes calls stdin 0 state state
  | pass {count : Nat} {start last : LoopState} {outcome : Outcome} {loop : Loop}
      {session : Session}
      (passed : (start.loop.turn calls stdin start.outcome).run start.session =
        (.ok (outcome, some loop), session))
      (onward : Passes calls stdin count ⟨loop, outcome, session⟩ last) :
      Passes calls stdin (count + 1) start last

/-- The body runs `count` times, and then the loop ends by itself. -/
def EndsAfter (calls : Calls) (stdin : String) (count : Nat) (start : LoopState)
    (outcome : Outcome) (session : Session) : Prop :=
  ∃ last, Passes calls stdin count start last ∧
    (last.loop.turn calls stdin last.outcome).run last.session = (.ok (outcome, none), session)

/-- The first passes of a loop, and those behind them. -/
theorem Passes.split {first rest : Nat} {start last : LoopState}
    (passes : Passes calls stdin (first + rest) start last) :
    ∃ middle, Passes calls stdin first start middle ∧ Passes calls stdin rest middle last := by
  induction first generalizing start with
  | zero => exact ⟨start, .none start, Nat.zero_add rest ▸ passes⟩
  | succ first inductionHypothesis =>
      rw [Nat.succ_add] at passes
      cases passes with
      | pass passed onward =>
          obtain ⟨middle, before, behind⟩ := inductionHypothesis onward
          exact ⟨middle, .pass passed before, behind⟩

/-! ## Loops with a cap -/

/-- What follows a turn, with so many passes left. -/
def Loop.proceed (setup : Setup) (calls : Calls) (stdin : String) (passes : Nat) :
    Outcome × Option Loop → Engine Outcome
  | (outcome, none) => return outcome
  | (outcome, some next) => next.run setup calls stdin passes outcome

/-- With a pass left, a loop takes a turn. -/
theorem Loop.run_succ (loop : Loop) (passes : Nat) (before : Outcome) :
    loop.run setup calls stdin (passes + 1) before =
      loop.turn calls stdin before >>= proceed setup calls stdin passes := by
  cases loop with
  | forEach variableName body items =>
      cases items <;> simp [Loop.run, runItems, Loop.turn, proceed]
  | conditional kind condition body =>
      simp only [Loop.run, runLoop, Loop.turn, bind_assoc]
      congr 1
      funext tested
      split <;> simp [proceed, Loop.run]

/-- A loop that would take another pass, with no pass left, is stopped. -/
theorem Loop.run_zero_of_passed {loop next : Loop} {before outcome : Outcome}
    {session after : Session}
    (passed : (loop.turn calls stdin before).run session = (.ok (outcome, some next), after)) :
    loop.run setup calls stdin 0 before = breachLoop setup loop.name before := by
  cases loop with
  | conditional kind condition body => rfl
  | forEach variableName body items =>
      cases items with
      | nil => cases passed
      | cons item rest => rfl

/-- A loop over words that has come to its end needs no pass to end. -/
theorem Loop.run_zero_of_ended {loop : Loop} {before outcome : Outcome} {session after : Session}
    (ended : (loop.turn calls stdin before).run session = (.ok (outcome, none), after))
    (counted : loop.isCounted = true) :
    (loop.run setup calls stdin 0 before).run session = (.ok outcome, after) := by
  cases loop with
  | conditional kind condition body => cases counted
  | forEach variableName body items =>
      cases items with
      | nil =>
          cases ended
          rfl
      | cons item rest =>
          simp only [turn, run_bind, run_modify] at ended
          split at ended <;> cases ended

/-- Every loop that has come to its end can end with a pass left. -/
theorem Loop.run_succ_of_ended {loop : Loop} {before outcome : Outcome} {session after : Session}
    (ended : (loop.turn calls stdin before).run session = (.ok (outcome, none), after))
    (passes : Nat) :
    (loop.run setup calls stdin (passes + 1) before).run session = (.ok outcome, after) := by
  rw [Loop.run_succ, run_bind, ended]
  rfl

/-- A loop that may have more passes than it has gone through goes on from where it stands. -/
theorem Passes.run_eq {count : Nat} {start last : LoopState}
    (passes : Passes calls stdin count start last) (more : Nat) :
    (start.loop.run setup calls stdin (count + more) start.outcome).run start.session =
      (last.loop.run setup calls stdin more last.outcome).run last.session := by
  induction passes with
  | none state => rw [Nat.zero_add]
  | pass passed onward inductionHypothesis =>
      rw [Nat.succ_add, Loop.run_succ, run_bind, passed]
      exact inductionHypothesis

/-! ## The passes that are allowed -/

theorem count_true_passes (limits : Limits) (count : Nat) :
    (limits.passes count).count true = min count limits.loopPasses := by
  unfold Limits.passes
  rw [List.count_eq_countP, List.countP_map]
  induction count with
  | zero => rw [List.range_zero, List.countP_nil, Nat.zero_min]
  | succ count inductionHypothesis =>
      rw [List.range_succ, List.countP_append, inductionHypothesis, List.countP_singleton]
      simp only [Function.comp_apply, beq_true, decide_eq_true_eq]
      split <;> omega

theorem all_passes_iff {limits : Limits} {count : Nat} :
    (limits.passes count).all id = true ↔ count ≤ limits.loopPasses := by
  simp only [Limits.passes, List.all_map, List.all_eq_true, List.mem_range, Function.comp_apply,
    id_eq, decide_eq_true_eq]
  constructor
  · intro allowed
    exact Nat.le_of_not_lt fun few => Nat.lt_irrefl _ (allowed limits.loopPasses few)
  · exact fun enough pass below => Nat.lt_of_lt_of_le below enough

/-- With so many passes left a loop over words takes as many words, and stops if one is left. -/
theorem runItems_eq_of_take (variableName body : String) (passes : Nat) (before : Outcome)
    (items : List String) :
    runItems setup calls variableName body stdin passes before items =
      runItems setup calls variableName body stdin items.length before (items.take passes) >>=
        fun outcome =>
          if items.length ≤ passes then pure outcome else breachLoop setup "for" outcome := by
  induction items generalizing passes before with
  | nil => simp [runItems]
  | cons item rest inductionHypothesis =>
      cases passes with
      | zero => simp [runItems]
      | succ passes => simp [runItems, inductionHypothesis]

/-- A loop over words takes the words for which a pass is allowed, and stops if one is left. -/
theorem runItems_eq_of_allowed (variableName body : String) (before : Outcome)
    (items : List String) :
    runItems setup calls variableName body stdin setup.limits.loopPasses before items =
      runItems setup calls variableName body stdin items.length before
          (items.take ((setup.limits.passes items.length).count true)) >>=
        fun outcome =>
          if (setup.limits.passes items.length).all id then pure outcome
          else breachLoop setup "for" outcome := by
  rw [runItems_eq_of_take, count_true_passes, Nat.min_comm, ← List.take_eq_take_min]
  simp only [all_passes_iff]

/-! ## Loop statements -/

/-- A loop over words starts with the words that its list stands for. -/
inductive Starts (session : Session) : Compound → Loop → Prop where
  | forEach {variableName list body : String} {items : List String}
      (expanded : ((loopItems list).run session).1 = .ok items) :
      Starts session (.forEach variableName list body) (.forEach variableName body items)
  | loop (kind : LoopKind) (condition body : String) :
      Starts session (.loop kind condition body) (.conditional kind condition body)

/-- The words of a loop are expanded without a change. -/
theorem leaves_loopItems (list : String) : Leaves id (loopItems list) := by
  refine Leaves.get.bind fun session => ?_
  split
  · exact Leaves.throw _
  · dsimp only [ofFaulty]
    split
    · exact Leaves.pure _
    · exact Leaves.throw _

theorem Starts.run_eq {compound : Compound} {loop : Loop} {session : Session}
    (starts : Starts session compound loop) :
    (runInner setup calls compound stdin).run session =
      (((loop.run setup calls stdin setup.limits.loopPasses .success).run session).1,
        loop.leave
          ((loop.run setup calls stdin setup.limits.loopPasses .success).run session).2) := by
  cases starts with
  | @forEach variableName list body items expanded =>
      have begins : (loopItems list).run session = (.ok items, session) :=
        Prod.ext expanded (leaves_loopItems list session)
      show (runForEach setup calls variableName list body stdin).run session = _
      unfold runForEach
      rw [run_bind, begins]
      rfl
  | loop kind condition body => rfl

theorem Loop.form_of_passed {loop next : Loop} {before outcome : Outcome}
    {session after : Session}
    (passed : (loop.turn calls stdin before).run session = (.ok (outcome, some next), after)) :
    next.form = loop.form := by
  cases loop with
  | forEach variableName body items =>
      cases items with
      | nil => cases passed
      | cons item rest =>
          simp only [turn, run_bind, run_modify] at passed
          split at passed
          · cases passed
            rfl
          · cases passed
  | conditional kind condition body =>
      simp only [turn, run_bind] at passed
      split at passed
      · split at passed
        · rw [run_bind] at passed
          split at passed
          · cases passed
            rfl
          · cases passed
        · cases passed
      · cases passed

theorem Passes.form_eq {count : Nat} {start last : LoopState}
    (passes : Passes calls stdin count start last) : last.loop.form = start.loop.form := by
  induction passes with
  | none state => rfl
  | pass passed onward inductionHypothesis =>
      exact inductionHypothesis.trans (Loop.form_of_passed passed)

theorem Loop.name_eq_of_form {loop other : Loop} (same : loop.form = other.form) :
    loop.name = other.name := by
  cases loop <;> cases other <;> cases same <;> rfl

theorem Loop.isCounted_eq_of_form {loop other : Loop} (same : loop.form = other.form) :
    loop.isCounted = other.isCounted := by
  cases loop <;> cases other <;> cases same <;> rfl

section

variable {count : Nat} {start : LoopState} {outcome : Outcome} {after : Session}

/-- A loop that has passes enough ends as it does without a cap. -/
theorem EndsAfter.run_of_le (ends : EndsAfter calls stdin count start outcome after)
    {passes : Nat} (enough : count ≤ passes)
    (last : count = passes → start.loop.isCounted = true) :
    (start.loop.run setup calls stdin passes start.outcome).run start.session =
      (.ok outcome, after) := by
  obtain ⟨reached, through, ended⟩ := ends
  obtain ⟨spare, rfl⟩ := Nat.exists_eq_add_of_le enough
  rw [through.run_eq]
  cases spare with
  | zero =>
      have counted : reached.loop.isCounted = true :=
        (Loop.isCounted_eq_of_form through.form_eq).trans (last rfl)
      exact Loop.run_zero_of_ended ended counted
  | succ spare => exact Loop.run_succ_of_ended ended spare

/-- A loop that needs more passes than it has is stopped behind the last one. -/
theorem EndsAfter.run_of_lt (ends : EndsAfter calls stdin count start outcome after)
    {passes : Nat} (few : passes < count) :
    ∃ reached, Passes calls stdin passes start reached ∧
      (start.loop.run setup calls stdin passes start.outcome).run start.session =
        (breachLoop setup start.loop.name reached.outcome).run reached.session := by
  obtain ⟨last, through, -⟩ := ends
  obtain ⟨rest, rfl⟩ := Nat.exists_eq_add_of_lt few
  rw [Nat.add_assoc] at through
  obtain ⟨reached, first, behind⟩ := through.split
  refine ⟨reached, first, ?_⟩
  have arrives : (start.loop.run setup calls stdin (passes + 0) start.outcome).run start.session =
      _ := first.run_eq 0
  rw [Nat.add_zero] at arrives
  cases behind with
  | pass passed onward =>
      rw [arrives, Loop.run_zero_of_passed passed, Loop.name_eq_of_form first.form_eq]

end

theorem run_breachLoop (name : String) (before : Outcome) (session : Session) :
    (breachLoop setup name before).run session =
      (.ok ⟨before.stdout, before.stderr ++ setup.limits.loopMessage name, 1⟩,
        { session with
          journal := session.journal.record
            ⟨.warning, Text.trim (setup.limits.loopMessage name), "guard", session.callDepth⟩ }) :=
  rfl

/-- A loop that ends by itself after `count` passes when no cap holds it up does the same with a
cap that allows as many, and is stopped behind the last pass that the cap allows if it does not.
A loop with a condition that needs every pass which the cap allows is left out. -/
theorem runInner_of_endsAfter (setup : Setup) {compound : Compound} {loop : Loop}
    {session after : Session} {count : Nat} {outcome : Outcome}
    (starts : Starts session compound loop)
    (ends : EndsAfter calls stdin count ⟨loop, .success, session⟩ outcome after)
    (apart : count = setup.limits.loopPasses → loop.isCounted = true) :
    (count ≤ setup.limits.loopPasses →
      (runInner setup calls compound stdin).run session = (.ok outcome, loop.leave after)) ∧
    (setup.limits.loopPasses < count →
      ∃ reached, Passes calls stdin setup.limits.loopPasses ⟨loop, .success, session⟩ reached ∧
        (runInner setup calls compound stdin).run session =
          (.ok ⟨reached.outcome.stdout,
              reached.outcome.stderr ++ setup.limits.loopMessage loop.name, 1⟩,
            loop.leave { reached.session with
              journal := reached.session.journal.record
                ⟨.warning, Text.trim (setup.limits.loopMessage loop.name), "guard",
                  reached.session.callDepth⟩ })) := by
  rw [starts.run_eq]
  constructor
  · intro enough
    rw [ends.run_of_le enough apart]
  · intro few
    obtain ⟨reached, through, stopped⟩ := ends.run_of_lt few
    refine ⟨reached, through, ?_⟩
    rw [stopped, run_breachLoop]

end

/-- The commands of the library, with a cap on the passes of a loop. -/
def cappedSetup (passes : Nat) : Setup :=
  { librarySetup with limits := { Limits.default with loopPasses := passes } }

/-- A loop over two words ends with two passes, and is stopped behind the first with one. -/
theorem runInner_of_endsAfter_words :
    ∃ after reached,
      Starts bareShell.session (.forEach "i" "a b" "echo $i")
        (.forEach "i" "echo $i" ["a", "b"]) ∧
      EndsAfter (callsAt (cappedSetup 2) 3) ""
        2 ⟨.forEach "i" "echo $i" ["a", "b"], .success, bareShell.session⟩ ⟨"a\nb\n", "", 0⟩ after ∧
      (runInner (cappedSetup 2) (callsAt (cappedSetup 2) 3) (.forEach "i" "a b" "echo $i") "").run
        bareShell.session = (.ok ⟨"a\nb\n", "", 0⟩, after.discard "i") ∧
      Passes (callsAt (cappedSetup 2) 3) ""
        1 ⟨.forEach "i" "echo $i" ["a", "b"], .success, bareShell.session⟩ reached ∧
      ((runInner (cappedSetup 1) (callsAt (cappedSetup 2) 3) (.forEach "i" "a b" "echo $i") "").run
        bareShell.session).1 =
          .ok ⟨reached.outcome.stdout,
            reached.outcome.stderr ++ (cappedSetup 1).limits.loopMessage "for", 1⟩ := by
  have starts : Starts bareShell.session (.forEach "i" "a b" "echo $i")
      (.forEach "i" "echo $i" ["a", "b"]) :=
    .forEach (eq_ok_of_toOption (by decide +kernel))
  have first : ((Loop.forEach "i" "echo $i" ["a", "b"]).turn (callsAt (cappedSetup 2) 3) ""
      .success).run bareShell.session =
        (.ok (⟨"a\n", "", 0⟩, some (.forEach "i" "echo $i" ["b"])), _) :=
    Prod.ext (eq_ok_of_toOption (by decide +kernel)) rfl
  have second : ((Loop.forEach "i" "echo $i" ["b"]).turn (callsAt (cappedSetup 2) 3) ""
      ⟨"a\n", "", 0⟩).run (((Loop.forEach "i" "echo $i" ["a", "b"]).turn (callsAt (cappedSetup 2) 3)
        "" .success).run bareShell.session).2 =
        (.ok (⟨"a\nb\n", "", 0⟩, some (.forEach "i" "echo $i" [])), _) :=
    Prod.ext (eq_ok_of_toOption (by decide +kernel)) rfl
  have ends : EndsAfter (callsAt (cappedSetup 2) 3) ""
      2 ⟨.forEach "i" "echo $i" ["a", "b"], .success, bareShell.session⟩ ⟨"a\nb\n", "", 0⟩ _ :=
    ⟨_, .pass first (.pass second (.none _)), rfl⟩
  have whole := (runInner_of_endsAfter (cappedSetup 2) starts ends fun _ => rfl).1 (Nat.le_refl 2)
  obtain ⟨reached, through, stopped⟩ :=
    (runInner_of_endsAfter (cappedSetup 1) starts ends fun _ => rfl).2 (by decide)
  exact ⟨_, reached, starts, ends, whole, through, congrArg Prod.fst stopped⟩

/-- A loop that runs its body once, as often as it may, is stopped all the same. -/
theorem exists_breach_within_cap :
    ∃ after,
      Statement.read "until test -n \"$x\"; do x=1; done" =
        .ok (some ⟨.compound (.loop .untilTrue "test -n \"$x\"" "x=1") [], none⟩) ∧
      Starts bareShell.session (.loop .untilTrue "test -n \"$x\"" "x=1")
        (.conditional .untilTrue "test -n \"$x\"" "x=1") ∧
      EndsAfter (callsAt (cappedSetup 1) 3) "" (cappedSetup 1).limits.loopPasses
        ⟨.conditional .untilTrue "test -n \"$x\"" "x=1", .success, bareShell.session⟩
        ⟨"", "", 0⟩ after ∧
      ((runInner (cappedSetup 1) (callsAt (cappedSetup 1) 3)
          (.loop .untilTrue "test -n \"$x\"" "x=1") "").run bareShell.session).1.toOption =
        some ⟨"", "bash: until loop: too many iterations (1). " ++
          "Increase with max_loop_iterations option.\n", 1⟩ := by
  have passed : ((Loop.conditional .untilTrue "test -n \"$x\"" "x=1").turn
      (callsAt (cappedSetup 1) 3) "" .success).run bareShell.session =
        (.ok (⟨"", "", 0⟩, some (.conditional .untilTrue "test -n \"$x\"" "x=1")), _) :=
    Prod.ext (eq_ok_of_toOption (by decide +kernel)) rfl
  have ended : ((Loop.conditional .untilTrue "test -n \"$x\"" "x=1").turn
      (callsAt (cappedSetup 1) 3) "" ⟨"", "", 0⟩).run
        (((Loop.conditional .untilTrue "test -n \"$x\"" "x=1").turn (callsAt (cappedSetup 1) 3) ""
          .success).run bareShell.session).2 = (.ok (⟨"", "", 0⟩, none), _) :=
    Prod.ext (eq_ok_of_toOption (by decide +kernel)) rfl
  exact ⟨_, eq_ok_of_toOption (by decide +kernel), .loop _ _ _,
    ⟨_, .pass passed (.none _), ended⟩, by decide +kernel⟩

end VirtualShell.Interpreter
