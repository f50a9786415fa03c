import VirtualShell.Proofs.Interpreter.Balance
import VirtualShell.Proofs.Interpreter.Carrying

/-!
Contract: a limit that is not hit changes nothing.

Owns:
- `Interpreter.recorded`, the events that a line records;
- `Interpreter.execute_replays`: what a line does depends on no journal, and its events are
  what it adds to any;
- `Interpreter.execute_of_quiet`: a line that records no breach of a limit does the same under
  any higher limits.

Both are one comparison of two runs. The left one starts with an empty journal that forgets
nothing, so that a breach which it has recorded can be seen at its end.
-/

namespace VirtualShell

/-- Whether an event tells that a limit was hit. -/
def Entry.tellsBreach (entry : Entry) : Bool :=
  entry.level == .warning && entry.source == "guard"

namespace Journal

/-- The journal with the events of another one recorded in it. -/
def replay (journal other : Journal) : Journal :=
  other.entries.foldl Journal.record journal

theorem record_of_unbounded {journal : Journal} (unbounded : journal.capacity = none)
    (entry : Entry) : journal.record entry = ⟨none, entry :: journal.recent⟩ := by
  simp [record, unbounded]

theorem replay_record {other : Journal} (unbounded : other.capacity = none) (journal : Journal)
    (entry : Entry) :
    journal.replay (other.record entry) = (journal.replay other).record entry := by
  simp [replay, entries, record_of_unbounded unbounded]

end Journal

/-- Each cap is at most the other one's. -/
instance : LE Limits where
  le limits more := limits.callDepth ≤ more.callDepth ∧ limits.commandCount ≤ more.commandCount ∧
    limits.loopPasses ≤ more.loopPasses

namespace Interpreter

open VirtualShell.Engine VirtualShell.Fallible

/-! ## The comparison -/

/-- The left journal forgets nothing, and the right one is `start` with its events. If
`watching`, nothing is said of the right run once the left has recorded a breach or has been
given up at a limit. -/
def replaying (start : Journal) (watching : Prop) : Relation where
  between session journal :=
    session.journal.capacity = none ∧ journal = start.replay session.journal
  afterwards _ session journal :=
    session.journal.capacity = none ∧ journal = start.replay session.journal
  spoiled journal :=
    watching ∧ journal.capacity = none ∧ ∃ entry ∈ journal.recent, entry.tellsBreach
  ruins abort journal := watching ∧ journal.capacity = none ∧ ∃ message, abort = .limit message

/-- The limits of the other setup are the same, or higher if someone is watching. -/
structure Tolerates (watching : Prop) (setup other : Setup) : Prop where
  commands : other.commands = setup.commands
  limits : other.limits = setup.limits ∨ watching ∧ setup.limits ≤ other.limits

section

variable {start : Journal} {watching : Prop} {setup other : Setup}

theorem Tolerates.le (tolerates : Tolerates watching setup other) :
    setup.limits ≤ other.limits := by
  obtain same | ⟨-, le⟩ := tolerates.limits
  · rw [same]
    exact ⟨Nat.le_refl _, Nat.le_refl _, Nat.le_refl _⟩
  · exact le

/-- Only the journal of the left session matters. -/
theorem between_of_journal {session after : Session} {journal : Journal}
    (holds : (replaying start watching).between session journal)
    (same : after.journal = session.journal) :
    (replaying start watching).between after journal := by
  show after.journal.capacity = none ∧ journal = start.replay after.journal
  rw [same]
  exact holds

theorem record_replaying (session : Session) (entry : Entry) (journal : Journal)
    (holds : (replaying start watching).between session journal) :
    (replaying start watching).between
      { session with journal := session.journal.record entry } (journal.record entry) := by
  obtain ⟨unbounded, rfl⟩ := holds
  exact ⟨unbounded, (Journal.replay_record unbounded start entry).symm⟩

theorem spoiled_replaying (journal : Journal) (entry : Entry)
    (spoiled : (replaying start watching).spoiled journal) :
    (replaying start watching).spoiled (journal.record entry) := by
  obtain ⟨watched, unbounded, breach, member, tells⟩ := spoiled
  refine ⟨watched, unbounded, breach, ?_, tells⟩
  rw [Journal.record_of_unbounded unbounded]
  exact List.mem_cons_of_mem _ member

/-- A breach that is recorded spoils a journal that forgets nothing. -/
theorem spoiled_record (watched : watching) {journal : Journal}
    (unbounded : journal.capacity = none) {entry : Entry} (tells : entry.tellsBreach = true) :
    (replaying start watching).spoiled (journal.record entry) := by
  refine ⟨watched, unbounded, entry, ?_, tells⟩
  rw [Journal.record_of_unbounded unbounded]
  exact List.mem_cons_self

/-- Behind a breach that someone watches, anything may follow. -/
theorem follows_of_breach (watched : watching) (message : String) (outcome : Outcome)
    (right : Engine Outcome) :
    Follows (replaying start watching)
      (do
        recordBreach message
        return outcome)
      right where
  stays _ spoiled := .inl (spoiled_replaying _ _ spoiled)
  ends _ _ holds := .inl (.inl (spoiled_record watched holds.1 rfl))

/-- A breach of the left limits is followed by one of the right limits if they are the same,
and by anything if not. -/
theorem breach_follows (tolerates : Tolerates watching setup other) (message : Limits → String)
    (failed : String → Outcome) {right : Engine Outcome}
    (same : other.limits = setup.limits → right = do
      recordBreach (message setup.limits)
      return failed (message setup.limits)) :
    Follows (replaying start watching)
      (do
        recordBreach (message setup.limits)
        return failed (message setup.limits))
      right := by
  obtain equal | ⟨watched, -⟩ := tolerates.limits
  · rw [same equal]
    refine (Follows.record spoiled_replaying ?_).bind fun _ => Follows.pure _
    exact fun session entry journal _ => record_replaying session entry journal
  · exact follows_of_breach watched _ _ _

/-- A run too many gives the line up on the left; on the right, the count may go on. -/
theorem countRun_follows (tolerates : Tolerates watching setup other) :
    Follows (replaying start watching) (countRun setup) (countRun other) := by
  refine (Follows.modify (fun _ _ => rfl) ?_).bind fun _ => ?_
  · exact fun _ _ holds => between_of_journal holds rfl
  refine Follows.get_bind fun session journal => ?_
  have le := tolerates.le.2.1
  show Follows _ _ (if other.limits.commandCount < session.commandCount then _ else _)
  by_cases beyond : setup.limits.commandCount < session.commandCount
  · rw [if_pos beyond]
    obtain equal | ⟨watched, -⟩ := tolerates.limits
    · rw [equal, if_pos beyond]
      exact Follows.throw fun _ _ holds => holds
    · refine Follows.throw_of_ruins ?_ _
      exact fun _ _ holds => ⟨watched, holds.1, _, rfl⟩
  · rw [if_neg beyond, if_neg (by omega)]
    exact Follows.pure _

theorem carries_replaying (tolerates : Tolerates watching setup other) :
    Carries (replaying start watching) setup other where
  commands := tolerates.commands
  callDepth := tolerates.le.1
  passes := tolerates.le.2.2
  unchanged := between_of_journal
  afterwards := Iff.rfl
  record session entry journal _ := record_replaying session entry journal
  spoiled := spoiled_replaying
  ruins := fun ⟨_, _, message⟩ => message
  reported := fun ⟨watched, unbounded, _⟩ => spoiled_record watched unbounded rfl
  spent := by
    obtain equal | ⟨watched, -⟩ := tolerates.limits
    · exact .inl equal
    · exact .inr fun holds => ⟨watched, holds.1, _, rfl⟩
  breach message failed right := breach_follows tolerates message failed
  countRun := countRun_follows tolerates

theorem run_follows (tolerates : Tolerates watching setup other) (room : Nat) :
    RunnersFollow (replaying start watching) (run setup room) (run other room) := by
  have carries : Carries (replaying start watching) setup other := carries_replaying tolerates
  induction room with
  | zero => exact fun _ _ _ => Follows.throw fun _ _ holds => holds
  | succ room inductionHypothesis =>
      apply runText_follows carries
      exact ⟨inductionHypothesis, dispatch_follows carries inductionHypothesis⟩

end

/-! ## Lines -/

/-- The events that a line records, the oldest first. -/
def recorded (run : Runner) (session : Session) (line : String) : List Entry :=
  ((execute run line).run (session.withJournal (.empty none))).2.journal.entries

theorem eq_of_matches {start : Journal} {watching : Prop}
    {left right : Except Abort Outcome × Session}
    (ended : (replaying start watching).Matches left right) :
    right = (left.1, left.2.withJournal (start.replay left.2.journal)) := by
  apply ended.eq start.replay
  rintro session journal (⟨-, same⟩ | ⟨_, -, same⟩)
  · exact same
  · exact same

/-- What a line does depends on no journal, and each journal gets the events of the line. -/
theorem execute_replays (setup : Setup) (room : Nat) (session : Session) (line : String) :
    (execute (run setup room) line).run session =
      (((execute (run setup room) line).run (session.withJournal (.empty none))).1,
        ((execute (run setup room) line).run (session.withJournal (.empty none))).2.withJournal
          ((recorded (run setup room) session line).foldl Journal.record session.journal)) := by
  have same : Tolerates False setup setup := ⟨rfl, .inl rfl⟩
  have started : (replaying session.journal False).between (session.withJournal (.empty none))
      session.journal := ⟨rfl, rfl⟩
  obtain (spoiled | ⟨_, _, ruined⟩) | ended :=
    (execute_follows (carries_replaying same) (run_follows same room) line).ends _ _ started
  · exact spoiled.1.elim
  · exact ruined.1.elim
  · exact eq_of_matches ended

/-- A line from the host is never given up at a limit without an outcome. -/
theorem execute_ne_limit {session : Session}
    (outermost : session.nesting = 0 ∧ session.callDepth = 0) (run : Runner)
    (line message : String) : ((execute run line).run session).1 ≠ .error (.limit message) := by
  obtain ⟨begun, begins⟩ : ∃ begun : Session, (beginLine line).run session = (.ok (), begun) := by
    unfold beginLine
    simp only [run_bind, run_modify]
    split <;> exact ⟨_, rfl⟩
  have outer : (session.nesting == 0 && session.callDepth == 0) = true := by
    simp [outermost]
  unfold execute
  rw [run_bind, run_get]
  dsimp only
  rw [if_pos outer, run_bind, begins]
  unfold endAtLimit
  dsimp only
  rw [run_tryCatch]
  intro failed
  rcases ran : (runLine run line).run begun with ⟨abort | outcome, after⟩
  · rw [ran] at failed
    cases abort <;> cases failed
  · rw [ran] at failed
    cases failed

section

variable {commands : Table String Command} {limits more : Limits} {room : Nat} {session : Session}
  {line : String}

theorem execute_eq_of_quiet (le : limits ≤ more)
    (outermost : session.nesting = 0 ∧ session.callDepth = 0)
    (quiet : ∀ entry ∈ recorded (run ⟨limits, commands⟩ room) session line,
      entry.tellsBreach = false) :
    (execute (run ⟨more, commands⟩ room) line).run session =
      (execute (run ⟨limits, commands⟩ room) line).run session := by
  have higher : Tolerates True ⟨limits, commands⟩ ⟨more, commands⟩ := ⟨rfl, .inr ⟨trivial, le⟩⟩
  have started : (replaying session.journal True).between (session.withJournal (.empty none))
      session.journal := ⟨rfl, rfl⟩
  have still : (session.withJournal (.empty none)).nesting = 0 ∧
      (session.withJournal (.empty none)).callDepth = 0 := outermost
  obtain (⟨-, -, entry, member, tells⟩ | ⟨_, aborted, -, -, message, rfl⟩) | ended :=
    (execute_follows (carries_replaying higher) (run_follows higher room) line).ends _ _ started
  · rw [quiet entry (List.mem_reverse.2 member)] at tells
    cases tells
  · exact absurd aborted (execute_ne_limit still _ line message)
  · rw [execute_replays ⟨limits, commands⟩]
    exact eq_of_matches ended

/-- A line from the host that records no breach of a limit does the same under higher limits. -/
theorem execute_of_quiet (le : limits ≤ more)
    (outermost : session.nesting = 0 ∧ session.callDepth = 0)
    (quiet : ∀ entry ∈ recorded (run ⟨limits, commands⟩ room) session line,
      entry.tellsBreach = false) :
    (execute (run ⟨more, commands⟩ room) line).run session =
        (execute (run ⟨limits, commands⟩ room) line).run session ∧
      recorded (run ⟨more, commands⟩ room) session line =
        recorded (run ⟨limits, commands⟩ room) session line := by
  have fresh : (execute (run ⟨more, commands⟩ room) line).run (session.withJournal (.empty none)) =
      (execute (run ⟨limits, commands⟩ room) line).run (session.withJournal (.empty none)) :=
    execute_eq_of_quiet le outermost quiet
  exact ⟨execute_eq_of_quiet le outermost quiet, congrArg (·.2.journal.entries) fresh⟩

end

/-- A call of a function with a loop in it uses up all of these limits, and hits none. -/
theorem execute_of_quiet_call :
    (⟨1, 5, 2⟩ : Limits) ≤ .default ∧
      (bareShell.session.nesting = 0 ∧ bareShell.session.callDepth = 0) ∧
      (∀ entry ∈ recorded (run ⟨⟨1, 5, 2⟩, .empty⟩ 4) bareShell.session
          "f() \x7b for i in a b; do cd; done; \x7d; f", entry.tellsBreach = false) ∧
      (execute (run ⟨.default, .empty⟩ 4) "f() \x7b for i in a b; do cd; done; \x7d; f").run
          bareShell.session =
        (execute (run ⟨⟨1, 5, 2⟩, .empty⟩ 4) "f() \x7b for i in a b; do cd; done; \x7d; f").run
          bareShell.session ∧
      recorded (run ⟨.default, .empty⟩ 4) bareShell.session
          "f() \x7b for i in a b; do cd; done; \x7d; f" =
        recorded (run ⟨⟨1, 5, 2⟩, .empty⟩ 4) bareShell.session
          "f() \x7b for i in a b; do cd; done; \x7d; f" := by
  have le : (⟨1, 5, 2⟩ : Limits) ≤ .default := by
    refine ⟨?_, ?_, ?_⟩ <;> decide
  have outermost : bareShell.session.nesting = 0 ∧ bareShell.session.callDepth = 0 := ⟨rfl, rfl⟩
  have quiet : ∀ entry ∈ recorded (run ⟨⟨1, 5, 2⟩, .empty⟩ 4) bareShell.session
      "f() \x7b for i in a b; do cd; done; \x7d; f", entry.tellsBreach = false := by
    decide +kernel
  exact ⟨le, outermost, quiet, execute_of_quiet le outermost quiet⟩

end Interpreter

end VirtualShell
