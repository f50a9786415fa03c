import VirtualShell.Proofs.Interpreter.Keeping

/-!
Contract: a line from the host ends within its budget of runs.

Owns:
- `EndsLine`, what is known of the end of a line from the host, and `execute_endsLine`, that it
  holds of every line that has room for one run more than allowed;
- `execute_within_budget`: a line starts at most one run more than allowed, and whatever room
  there is beyond that makes no difference;
- `IsCutShort`, a limit ends a line, or the lack of room for one more run does; `run_execute`, what
  any other line does.
-/

namespace VirtualShell.Interpreter

open VirtualShell.Engine VirtualShell.Fallible

/-- A line that started in a session has ended with an outcome, unless a fault of an expansion
got out; the outcome is the message about the budget if the budget was exceeded. -/
structure EndsLine (limits : Limits) (permits : List FileOperation → Prop) (session : Session)
    (ended : Except Abort Outcome × Session) : Prop where
  permitted : permits ended.2.storage.refused
  reached : Reached { session with commandCount := 0 } ended.2
  count : ended.2.commandCount ≤ limits.commandCount + 1
  beyond : limits.commandCount < ended.2.commandCount →
    ended.1 = .ok (.failure limits.commandCountMessage 1)
  result : (∃ outcome, ended.1 = .ok outcome) ∨
    ∃ fault, ended.1 = .error (.fault fault) ∧ Escapes permits fault

section

variable {setup : Setup} {permits : List FileOperation → Prop} {left right : Runner}
  {session : Session}

theorem run_beginLine (unbounded : session.journal.capacity = none) (line : String) :
    ∃ begun, (beginLine line).run session = (.ok (), begun) ∧
      begun.storage = session.storage ∧ begun.commandCount = 0 ∧
      Reached { session with commandCount := 0 } begun := by
  have shell : IsReporter "shell" := .inl rfl
  unfold beginLine
  simp only [run_bind, run_modify]
  split
  · have reached := @Reached.of_record { session with commandCount := 0 } unbounded
    exact ⟨_, rfl, rfl, rfl, reached shell⟩
  · exact ⟨_, rfl, rfl, rfl, .refl unbounded⟩

/-- Where the line is given up, its outcome is the message. -/
theorem endsLine_of_underway {begun : Session} (zero : begun.commandCount = 0)
    (reached : Reached { session with commandCount := 0 } begun) {work : Engine Outcome}
    (ends : (underway setup.limits permits (Escapes permits) begun).OfEnd (work.run begun)) :
    EndsLine setup.limits permits session ((endAtLimit work).run begun) := by
  unfold endAtLimit
  rw [run_tryCatch]
  rcases ran : work.run begun with ⟨abort | outcome, after⟩
  · rw [ran] at ends
    cases abort with
    | nestingSpent => exact ends.2.2.elim
    | limit message =>
        obtain ⟨permitted, further, rfl, -, count⟩ := ends
        have guard : IsReporter "guard" := .inr (.inl rfl)
        refine ⟨permitted, (reached.trans further).trans ?_, ?_, fun _ => rfl, .inl ⟨_, rfl⟩⟩
        · exact .of_record further.unbounded guard
        · show after.commandCount ≤ _
          omega
    | fault fault =>
        obtain ⟨permitted, further, escapes, count⟩ := ends
        refine ⟨permitted, reached.trans further, ?_, ?_, .inr ⟨fault, rfl, escapes⟩⟩
        · show after.commandCount ≤ _
          omega
        · intro beyond
          have beyond : setup.limits.commandCount < after.commandCount := beyond
          omega
  · rw [ran] at ends
    obtain ⟨permitted, further, count⟩ := ends
    refine ⟨permitted, reached.trans further, ?_, ?_, .inl ⟨outcome, rfl⟩⟩
    · show after.commandCount ≤ _
      omega
    · intro beyond
      have beyond : setup.limits.commandCount < after.commandCount := beyond
      omega

/-- A line from the host counts its runs afresh. -/
theorem execute_endsLine (runs : RunnersKeep setup.limits permits 0 left right)
    (outermost : session.nesting = 0 ∧ session.callDepth = 0)
    (permitted : permits session.storage.refused) (unbounded : session.journal.capacity = none)
    (line : String) :
    (execute left line).run session = (execute right line).run session ∧
      EndsLine setup.limits permits session ((execute left line).run session) := by
  have outer : (session.nesting == 0 && session.callDepth == 0) = true := by
    simp [outermost]
  obtain ⟨begun, begins, storage, zero, reached⟩ := run_beginLine unbounded line
  obtain ⟨same, ends⟩ := runLine_underway runs line (storage ▸ permitted) reached.unbounded
    (Nat.zero_le begun.commandCount)
  have ended := endsLine_of_underway zero reached ends
  have equal : (endAtLimit (runLine left line)).run begun =
      (endAtLimit (runLine right line)).run begun := by
    unfold endAtLimit
    rw [run_tryCatch, run_tryCatch, same]
  unfold execute
  rw [run_bind, run_bind, run_get]
  dsimp only
  rw [if_pos outer, if_pos outer, run_bind, run_bind, begins]
  exact ⟨equal, ended⟩

/-- The same line without an observer. -/
theorem execute_of_observed (setup : Setup) (room : Nat) (session : Session) (line : String) :
    (execute (run setup room) line).run session =
      (((execute (runObserved setup room) line).run (session.withJournal (.empty none))).1,
        ((execute (runObserved setup room) line).run
          (session.withJournal (.empty none))).2.withJournal
          (((execute (runObserved setup room) line).run
            (session.withJournal (.empty none))).2.journal.events.foldl Journal.record
              session.journal)) :=
  run_of_noted (execute_follows (carries_noted setup) (runObserved_follows room) line)

end

/-- Let a line come from the host in any session. With room for more runs than allowed, the
line ends in one way that the room does not change, and it never lacks room. Its observer, who
does not change it either, has noted at most one run more than allowed; if it was one more, the
outcome is the message about it. -/
theorem execute_within_budget (setup : Setup) (session : Session)
    (outermost : session.nesting = 0 ∧ session.callDepth = 0) (line : String) :
    ∃ result after,
      (∀ room, setup.limits.commandCount < room →
        (execute (runObserved setup room) line).run (session.withJournal (.empty none)) =
            (result, after) ∧
          (execute (run setup room) line).run session =
            (result,
              after.withJournal (after.journal.events.foldl Journal.record session.journal))) ∧
      after.journal.notes.count .run ≤ setup.limits.commandCount + 1 ∧
      (setup.limits.commandCount < after.journal.notes.count .run →
        result = .ok (.failure setup.limits.commandCountMessage 1)) ∧
      result ≠ .error .nestingSpent := by
  -- Commands may do what they like with the storage.
  have commands : setup.Keeps fun _ => True := setup.keeps_of_forall fun _ => trivial
  let start := session.withJournal (.empty none)
  let ended := (execute (runObserved setup (setup.limits.commandCount + 1)) line).run start
  have each (room : Nat) (enough : setup.limits.commandCount < room) :
      ended = (execute (runObserved setup room) line).run start ∧
        EndsLine setup.limits (fun _ => True) start ended := by
    have runs : RunnersKeep setup.limits (fun _ => True) 0
        (runObserved setup (setup.limits.commandCount + 1)) (runObserved setup room) := by
      apply runObserved_keep commands
      · omega
      · omega
    have idle : start.nesting = 0 ∧ start.callDepth = 0 := outermost
    exact execute_endsLine runs idle trivial rfl line
  have least := (each (setup.limits.commandCount + 1) (Nat.lt_succ_self _)).2
  obtain ⟨notes, noted, count, -, -⟩ := least.reached.noted
  have runs : ended.2.journal.notes.count .run = ended.2.commandCount := by
    rw [noted, count, List.count_append]
    simp [start, Session.withJournal, Journal.notes, Journal.entries, Journal.empty]
  refine ⟨ended.1, ended.2, ?_, ?_, ?_, ?_⟩
  · intro room enough
    have same := (each room enough).1
    refine ⟨same.symm, ?_⟩
    rw [execute_of_observed, ← same]
  · rw [runs]
    exact least.count
  · rw [runs]
    exact least.beyond
  · intro spent
    obtain ⟨outcome, ok⟩ | ⟨fault, failed, -⟩ := least.result
    · rw [ok] at spent
      cases spent
    · rw [failed] at spent
      cases spent

/-- A loop that nothing else would end. -/
theorem execute_within_budget_endless :
    (bareShell.session.nesting = 0 ∧ bareShell.session.callDepth = 0) ∧
      ∃ after,
        (∀ room, 3 < room →
          (execute (runObserved ⟨⟨100, 3, 5⟩, .empty⟩ room) "while cd; do cd; done").run
              (bareShell.session.withJournal (.empty none)) =
            (.ok (.failure (Limits.commandCountMessage ⟨100, 3, 5⟩) 1), after) ∧
          (execute (run ⟨⟨100, 3, 5⟩, .empty⟩ room) "while cd; do cd; done").run
              bareShell.session =
            (.ok (.failure (Limits.commandCountMessage ⟨100, 3, 5⟩) 1), after.withJournal
              (after.journal.events.foldl Journal.record bareShell.session.journal))) ∧
        after.journal.notes.count .run = 4 := by
  have outermost : bareShell.session.nesting = 0 ∧ bareShell.session.callDepth = 0 := ⟨rfl, rfl⟩
  obtain ⟨result, after, each, -, beyond, -⟩ :=
    execute_within_budget ⟨⟨100, 3, 5⟩, .empty⟩ bareShell.session outermost "while cd; do cd; done"
  have runs : ((execute (runObserved ⟨⟨100, 3, 5⟩, .empty⟩ 4) "while cd; do cd; done").run
      (bareShell.session.withJournal (.empty none))).2.journal.notes.count .run = 4 := by
    decide +kernel
  rw [(each 4 (by decide)).1] at runs
  have failed := beyond (by rw [runs]; decide)
  rw [failed] at each
  exact ⟨outermost, after, each, runs⟩

/-! ## Lines that are not cut short -/

theorem run_countRun (setup : Setup) (session : Session) :
    (countRun setup).run session =
      (if setup.limits.commandCount < session.commandCount + 1 then
          .error (.limit setup.limits.commandCountMessage)
        else .ok (), { session with commandCount := session.commandCount + 1 }) := by
  unfold countRun
  simp only [run_bind, run_modify, run_get]
  split
  · rfl
  · rfl

/-- A line as the host or a command asks for it, but no limit becomes an outcome. -/
def runToLimit (run : Runner) (line : String) : Engine Outcome := do
  let session ← get
  if session.nesting == 0 && session.callDepth == 0 then
    beginLine line
    runLine run line
  else runLine run line

/-- Work has ended at a limit, or for lack of room for one more run. -/
def EndsShort (result : Except Abort Outcome) : Prop :=
  ∃ abort, result = .error abort ∧ ∀ fault, abort ≠ .fault fault

theorem not_endsShort_of_isSome {result : Except Abort Outcome}
    (ended : result.toOption.isSome = true) : ¬ EndsShort result := by
  rintro ⟨abort, rfl, -⟩
  cases ended

/-- A limit ends the line, or the lack of room for one more run does. -/
def IsCutShort (run : Runner) (line : String) (session : Session) : Prop :=
  EndsShort ((runToLimit run line).run session).1

theorem run_endAtLimit {work : Engine Outcome} {session : Session}
    (whole : ¬ EndsShort (work.run session).1) :
    (endAtLimit work).run session = work.run session := by
  unfold endAtLimit
  rw [run_tryCatch]
  rcases ran : work.run session with ⟨abort | outcome, after⟩
  · cases abort with
    | fault fault => rfl
    | limit message => exact absurd ⟨_, congrArg Prod.fst ran, nofun⟩ whole
    | nestingSpent => exact absurd ⟨_, congrArg Prod.fst ran, nofun⟩ whole
  · rfl

/-- A limit makes no difference to a line that it does not cut short. -/
theorem run_execute {run : Runner} {line : String} {session : Session}
    (whole : ¬ IsCutShort run line session) :
    (execute run line).run session = (runToLimit run line).run session := by
  unfold IsCutShort at whole
  unfold runToLimit at whole ⊢
  unfold execute
  rw [run_bind, run_get] at whole ⊢
  rw [run_bind, run_get]
  dsimp only at whole ⊢
  split
  · rename_i outermost
    rw [if_pos outermost, run_bind] at whole
    rw [run_bind, run_bind]
    rcases begun : (beginLine line).run session with ⟨abort | value, after⟩
    · rfl
    · rw [begun] at whole
      exact run_endAtLimit whole
  · rfl

end VirtualShell.Interpreter
