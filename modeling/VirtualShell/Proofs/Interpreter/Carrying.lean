import VirtualShell.Proofs.Interpreter.Traversal

/-!
Contract: of two interpreters, the second follows the first if what is known of their journals
is carried through calls by name and lines.

Owns:
- `Interpreter.Carries`, what a relation between two runs needs for that;
- `Interpreter.IsBlindWork`, work that does not touch the journal, which is all that builtins
  and the ends of calls do;
- `Interpreter.leaving` and `Interpreter.run_callFunction`, what a call does around its body;
- `Interpreter.callByName_follows`, `Interpreter.dispatch_follows` and
  `Interpreter.execute_follows`, for runs of texts that follow each other.
-/

namespace VirtualShell.Interpreter

open VirtualShell.Engine VirtualShell.Fallible

/-- A relation between two runs that looks at nothing but the journals, and what it says where
the limits count: with the same limits both runs hit them, and with others the left run is
spoiled by hitting one. -/
structure Carries (relation : Relation) (setup other : Setup) : Prop where
  commands : other.commands = setup.commands
  callDepth : setup.limits.callDepth ≤ other.limits.callDepth
  passes : setup.limits.loopPasses ≤ other.limits.loopPasses
  unchanged : ∀ {session after : Session} {journal}, relation.between session journal →
    after.journal = session.journal → relation.between after journal
  afterwards : ∀ {abort session journal},
    relation.afterwards abort session journal ↔ relation.between session journal
  record : ∀ session entry journal, IsReporter entry.source → relation.between session journal →
    relation.between { session with journal := session.journal.record entry }
      (journal.record entry)
  spoiled : ∀ journal entry, relation.spoiled journal → relation.spoiled (journal.record entry)
  ruins : ∀ {abort journal}, relation.ruins abort journal → ∃ message, abort = .limit message
  reported : ∀ {message journal}, relation.ruins (.limit message) journal →
    relation.spoiled (journal.record ⟨.warning, Text.trim message, "guard", 0⟩)
  spent : other.limits = setup.limits ∨ ∀ {message session journal},
    relation.between session journal → relation.ruins (.limit message) session.journal
  breach : ∀ (message : Limits → String) (failed : String → Outcome) (right : Engine Outcome),
    (other.limits = setup.limits → right = do
      recordBreach (message setup.limits)
      return failed (message setup.limits)) →
    Follows relation
      (do
        recordBreach (message setup.limits)
        return failed (message setup.limits))
      right
  countRun : Follows relation (countRun setup) (countRun other)

section

variable {relation : Relation} {setup other : Setup} {left right : Runner}

theorem Carries.stable (carries : Carries relation setup other) : Stable relation where
  storage _ _ _ holds := carries.unchanged holds rfl
  environment _ _ _ holds := carries.unchanged holds rfl
  functions _ _ _ holds := carries.unchanged holds rfl
  lastExitCode _ _ _ holds := carries.unchanged holds rfl
  record := carries.record
  fault _ _ _ holds := carries.afterwards.2 holds
  discarded _ _ _ _ holds :=
    carries.afterwards.2 (carries.unchanged (carries.afterwards.1 holds) rfl)
  spoiled := carries.spoiled

theorem Carries.loops (carries : Carries relation setup other) :
    LoopsFollow relation setup other where
  passes := carries.passes
  breach name before right same := by
    apply carries.breach (·.loopMessage name) (failWith before)
    intro equal
    rw [same (by rw [equal]), breachLoop, equal]

/-- What is known of the journals stays known when a session changes elsewhere. -/
theorem Carries.holds_of_journal (carries : Carries relation setup other) {α : Type}
    {result : Except Abort α} {session after : Session} {journal : Journal}
    (same : after.journal = session.journal) (holds : relation.Holds (result, session) journal) :
    relation.Holds (result, after) journal := by
  cases result with
  | ok value => exact carries.unchanged holds same
  | error abort =>
      apply carries.afterwards.2
      exact carries.unchanged (carries.afterwards.1 holds) same

theorem modify_follows (carries : Carries relation setup other) {change : Session → Session}
    (blind : IsBlind change) : Follows relation (modify change) (modify change) :=
  Follows.modify blind fun session _ holds => carries.unchanged holds (blind.journal session)

/-- What a session is put back to when work ends is put back on both sides. -/
theorem onExit_follows (carries : Carries relation setup other) {work others : Engine Outcome}
    {exit : Except Abort Outcome → Session → Session} (follows : Follows relation work others)
    (blind : ∀ result, IsBlind (exit result)) :
    Follows relation (work.onExit exit) (others.onExit exit) := by
  refine follows.onExit blind fun result session journal => ?_
  exact carries.holds_of_journal ((blind result).journal session)

/-! ## Builtins -/

/-- Work that neither looks at the journal nor changes it. -/
def IsBlindWork {α : Type} (work : Engine α) : Prop :=
  ∀ session journal, work.run (session.withJournal journal) =
    ((work.run session).1, (work.run session).2.withJournal journal)

theorem follows_of_isBlindWork (carries : Carries relation setup other) {α : Type}
    {work : Engine α} (blind : IsBlindWork work) : Follows relation work work := by
  have kept : ∀ session, (work.run session).2.journal = session.journal := by
    intro session
    exact congrArg (fun ended => ended.2.journal) (blind session session.journal)
  refine ⟨fun session spoiled => .inl ?_, fun session journal holds => .inr ⟨journal, ?_, ?_⟩⟩
  · rw [kept]
    exact spoiled
  · exact blind session journal
  · have started : relation.Holds ((work.run session).1, session) journal := by
      cases (work.run session).1 with
      | ok value => exact holds
      | error abort => exact carries.afterwards.2 holds
    exact carries.holds_of_journal (kept session) started

theorem runCd_follows (carries : Carries relation setup other) (arguments : List String) :
    Follows relation (Builtin.runCd arguments) (Builtin.runCd arguments) := by
  refine Follows.get_bind fun session journal => ?_
  refine (Follows.attempt carries.stable.storage).bind fun result => ?_
  split
  · exact Follows.pure _
  · exact Follows.throw (carries.stable.fault _)
  · split
    · exact Follows.pure _
    · exact (modify_follows carries fun _ _ => rfl).bind fun _ => Follows.pure _

theorem isBlindWork_runExport (arguments : List String) :
    IsBlindWork (Builtin.runExport arguments) := by
  intro session journal
  unfold Builtin.runExport
  simp only [run_bind, run_get]
  split <;> rfl

theorem recordLocal_withJournal (session : Session) (journal : Journal) (name : String) :
    (session.withJournal journal).recordLocal name =
      (session.recordLocal name).withJournal journal := by
  unfold Session.recordLocal Session.withJournal
  dsimp only
  split
  · rfl
  · split <;> rfl

theorem localAll_withJournal (session : Session) (journal : Journal) (arguments : List String) :
    Builtin.localAll (session.withJournal journal) arguments =
      ((Builtin.localAll session arguments).1.withJournal journal,
        (Builtin.localAll session arguments).2) := by
  induction arguments generalizing session with
  | nil => rfl
  | cons argument rest inductionHypothesis =>
      unfold Builtin.localAll
      dsimp only
      split
      · rw [inductionHypothesis]
      · rw [recordLocal_withJournal]
        let recorded := session.recordLocal (cutAtEquals argument).1
        exact inductionHypothesis
          { recorded with
            environment := Builtin.declare recorded.environment (cutAtEquals argument).1
              (cutAtEquals argument).2 }

theorem isBlindWork_runLocal (arguments : List String) :
    IsBlindWork (Builtin.runLocal arguments) := by
  intro session journal
  unfold Builtin.runLocal
  have inside : (session.withJournal journal).inFunction = session.inFunction := rfl
  simp only [run_bind, run_get, localAll_withJournal, inside]
  split <;> rfl

theorem unsetAll_withJournal (functions : Bool) (session : Session) (journal : Journal)
    (names : List String) :
    Builtin.unsetAll functions (session.withJournal journal) names =
      (Builtin.unsetAll functions session names).withJournal journal := by
  induction names generalizing functions session with
  | nil => rfl
  | cons name rest inductionHypothesis =>
      unfold Builtin.unsetAll
      split
      · rfl
      · rename_i same
        cases same
        exact inductionHypothesis true session
      · rename_i same
        cases same
        exact inductionHypothesis false session
      · rename_i same
        cases same
        cases functions with
        | false => exact inductionHypothesis false (session.discard name)
        | true =>
            exact inductionHypothesis true
              { session with functions := session.functions.erase name }

theorem builtin_follows (carries : Carries relation setup other) (builtin : Builtin)
    (arguments : List String) :
    Follows relation (builtin.run arguments) (builtin.run arguments) := by
  cases builtin with
  | cd => exact runCd_follows carries arguments
  | «export» => exact follows_of_isBlindWork carries (isBlindWork_runExport arguments)
  | unset =>
      refine (modify_follows carries ?_).bind fun _ => Follows.pure _
      exact fun session journal => unsetAll_withJournal false session journal arguments
  | exit => exact Follows.pure _
  | «local» => exact follows_of_isBlindWork carries (isBlindWork_runLocal arguments)

/-! ## Functions, lines and commands -/

theorem popScope_withJournal (session : Session) (journal : Journal) :
    (session.withJournal journal).popScope = session.popScope.withJournal journal := by
  unfold Session.popScope Session.withJournal
  dsimp only
  split <;> rfl

theorem popScopesTo_withJournal (count : Nat) (session : Session) (journal : Journal) :
    Session.popScopesTo count (session.withJournal journal) =
      (Session.popScopesTo count session).withJournal journal := by
  fun_induction Session.popScopesTo count session with
  | case1 session few =>
      rw [Session.popScopesTo]
      exact if_pos few
  | case2 session many inductionHypothesis =>
      rw [Session.popScopesTo, ← inductionHypothesis, ← popScope_withJournal]
      exact if_neg many

theorem leaveFunction_withJournal (session : Session) (journal : Journal) (depth scopes : Nat)
    (hidden : List (String × Option String)) :
    (session.withJournal journal).leaveFunction depth scopes hidden =
      (session.leaveFunction depth scopes hidden).withJournal journal :=
  congrArg
    (fun closed : Session =>
      let cleared := closed.environment.eraseAll
        (closed.environment.keys.filter Session.isPositional)
      { closed with environment := Session.restoreAll cleared hidden })
    (popScopesTo_withJournal scopes { session with callDepth := depth } journal)

/-- Every run of a text on the right follows the one on the left. -/
def RunnersFollow (relation : Relation) (left right : Runner) : Prop :=
  ∀ text stdin lead, Follows relation (left text stdin lead) (right text stdin lead)

/-- What a call that was made in a session puts back when it ends. -/
def leaving (session : Session) (arguments : List String) (result : Except Abort Outcome)
    (after : Session) : Session :=
  match result with
  | .error .nestingSpent => after
  | _ => after.leaveFunction session.callDepth session.scopes.length
      (Session.hiddenValues session.environment arguments.length)

theorem leaving_of_ne {result : Except Abort Outcome} (roomy : result ≠ .error .nestingSpent)
    (session : Session) (arguments : List String) (after : Session) :
    leaving session arguments result after =
      after.leaveFunction session.callDepth session.scopes.length
        (Session.hiddenValues session.environment arguments.length) := by
  match result with
  | .error .nestingSpent => exact absurd rfl roomy
  | .error (.limit _) | .error (.fault _) | .ok _ => rfl

/-- A call that is too deep is reported; another one runs the body in a session of its own. -/
theorem run_callFunction (setup : Setup) (run : Runner) (name body : String)
    (arguments : List String) (stdin : String) (session : Session) :
    (callFunction setup run name body arguments stdin).run session =
      if setup.limits.callDepth ≤ session.callDepth then
        (.ok (.failure (setup.limits.callDepthMessage name) 1),
          { session with
            journal := session.journal.record
              ⟨.warning, Text.trim (setup.limits.callDepthMessage name), "guard",
                session.callDepth⟩ })
      else
        let ended := (run body stdin .initial).run (session.enterFunction arguments)
        (ended.1, leaving session arguments ended.1 ended.2) := by
  unfold callFunction
  rw [run_bind, run_get]
  dsimp only
  split
  · rfl
  · rw [run_bind, run_set]
    dsimp only
    rw [run_onExit]
    rfl

theorem isBlind_leaving (session : Session) (arguments : List String)
    (result : Except Abort Outcome) : IsBlind (leaving session arguments result) := by
  intro after journal
  match result with
  | .error .nestingSpent => rfl
  | .error (.limit _) | .error (.fault _) | .ok _ =>
      exact leaveFunction_withJournal after journal _ _ _

theorem callFunction_follows (carries : Carries relation setup other)
    (runs : RunnersFollow relation left right) (name body : String) (arguments : List String)
    (stdin : String) :
    Follows relation (callFunction setup left name body arguments stdin)
      (callFunction other right name body arguments stdin) := by
  have le := carries.callDepth
  have inner (session : Session) :=
    onExit_follows carries (runs body stdin .initial) (isBlind_leaving session arguments)
  constructor
  · intro session spoiled
    unfold callFunction
    rw [run_bind, run_get]
    dsimp only
    split
    · exact .inl (carries.spoiled _ _ spoiled)
    · exact (inner session).stays (session.enterFunction arguments) spoiled
  · intro session journal holds
    unfold callFunction
    rw [run_bind, run_bind, run_get, run_get]
    dsimp only
    by_cases deep : setup.limits.callDepth ≤ session.callDepth
    · rw [if_pos deep]
      refine (carries.breach (·.callDepthMessage name) (.failure · 1) _ ?_).ends
        session journal holds
      intro equal
      rw [equal]
      exact if_pos deep
    · rw [if_neg deep]
      have shallow : ¬ other.limits.callDepth ≤ (session.withJournal journal).callDepth := by
        show ¬ other.limits.callDepth ≤ session.callDepth
        omega
      rw [if_neg shallow]
      exact (inner session).ends (session.enterFunction arguments) journal
        (carries.unchanged holds rfl)

theorem runLine_follows (carries : Carries relation setup other)
    (runs : RunnersFollow relation left right) (line : String) :
    Follows relation (runLine left line) (runLine right line) := by
  refine (modify_follows carries fun _ _ => rfl).bind fun _ => ?_
  exact onExit_follows carries (runs line "" .initial) fun _ _ _ => rfl

theorem beginLine_follows (carries : Carries relation setup other) (line : String) :
    Follows relation (beginLine line) (beginLine line) := by
  refine (modify_follows carries fun _ _ => rfl).bind fun _ => ?_
  split
  · exact record_follows carries.stable (.inl rfl) _ _
  · exact Follows.pure _

/-- A line given up at a limit on the left has recorded this once it has ended. -/
theorem endAtLimit_follows (carries : Carries relation setup other) {work others : Engine Outcome}
    (follows : Follows relation work others) :
    Follows relation (endAtLimit work) (endAtLimit others) := by
  refine follows.tryCatch ?_ ?_
  · intro abort session spoils
    cases abort with
    | limit message =>
        obtain spoiled | ⟨_, same, ruins⟩ := spoils
        · exact .inl (carries.spoiled _ _ spoiled)
        · cases same
          exact .inl (carries.reported ruins)
    | nestingSpent | fault fault => exact spoils
  · intro abort session journal holds
    cases abort with
    | limit message =>
        have between := carries.afterwards.1 holds
        exact .inr ⟨_, rfl, carries.record _ _ journal (.inr (.inl rfl)) between⟩
    | nestingSpent | fault fault => exact .inr ⟨journal, rfl, holds⟩

/-- A line, from the host or from a command. -/
theorem execute_follows (carries : Carries relation setup other)
    (runs : RunnersFollow relation left right) (line : String) :
    Follows relation (execute left line) (execute right line) := by
  refine Follows.get_bind fun session journal => ?_
  have lines := runLine_follows carries runs line
  show Follows _ _ (if session.nesting == 0 && session.callDepth == 0 then _ else _)
  split
  · exact (beginLine_follows carries line).bind fun _ => endAtLimit_follows carries lines
  · exact lines

theorem callByName_follows (carries : Carries relation setup other)
    (runs : RunnersFollow relation left right) (name : String) (arguments : List String)
    (stdin : String) :
    Follows relation (callByName setup left name arguments stdin)
      (callByName other right name arguments stdin) := by
  refine Follows.get_bind fun session journal => ?_
  have functions : (session.withJournal journal).functions = session.functions := rfl
  simp only [carries.commands, functions]
  split
  · exact builtin_follows carries _ _
  · exact callFunction_follows carries runs _ _ _ _
  · exact perform_follows carries.stable (execute_follows carries runs) _
  · exact Follows.pure _

theorem dispatch_follows (carries : Carries relation setup other)
    (runs : RunnersFollow relation left right) (name : String) (arguments : List String)
    (stdin : String) :
    Follows relation (dispatch setup left name arguments stdin)
      (dispatch other right name arguments stdin) := by
  unfold dispatch
  split
  · exact Follows.pure _
  · refine (callByName_follows carries runs name arguments stdin).tryCatch ?_ ?_
    · intro abort session spoils
      obtain spoiled | ⟨_, same, ruins⟩ := spoils
      · cases abort with
        | limit message => exact .inl spoiled
        | nestingSpent => exact .inl spoiled
        | fault fault => exact .inl (carries.spoiled _ _ spoiled)
      · cases same
        obtain ⟨message, rfl⟩ := carries.ruins ruins
        exact .inr ⟨_, rfl, ruins⟩
    · intro abort session journal holds
      have between := carries.afterwards.1 holds
      cases abort with
      | limit message => exact .inr ⟨journal, rfl, holds⟩
      | nestingSpent =>
          -- A lack of room becomes a limit here, whose message depends on the limits.
          obtain equal | ruined := carries.spent
          · refine .inr ⟨journal, ?_, carries.afterwards.2 between⟩
            rw [atBoundary, atBoundary, equal]
            rfl
          · exact .inl (.inr ⟨_, rfl, ruined between⟩)
      | fault fault =>
          refine Follows.ends ?_ session journal between
          exact (record_follows carries.stable (.inr (.inr rfl)) _ _).bind fun _ => Follows.pure _

/-- A run of a text follows another one if the calls that it makes do. -/
theorem runText_follows (carries : Carries relation setup other) {calls others : Calls}
    (follow : CallsFollow relation calls others) (text stdin : String) (lead : Lead) :
    Follows relation (runText setup calls text stdin lead) (runText other others text stdin lead) :=
  carries.countRun.bind fun _ =>
    runRead_follows carries.stable follow carries.loops text stdin lead

end

end VirtualShell.Interpreter
