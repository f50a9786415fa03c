import VirtualShell.Proofs.Interpreter.Budget
import VirtualShell.Proofs.Interpreter.Runs
import VirtualShell.Proofs.Statement.Line

/-!
Contract: what `$?` stands for once a line has ended is the exit code that the line ends with.

Owns:
- `Ensures`, what holds of the value and the session that work ends with, if it is not cut short;
- `HasStatus`, that `$?` stands for an exit code, and `Ready`, that a statement runs or `$?` stands
  for the exit code that it passes on;
- `lastExitCode_of_execute`, for filled lines that are not cut short.

Nothing has to be known of what a command does to `$?`: each group of commands, each compound
statement and each definition sets it when it ends, and only then does what follows run.
-/

namespace VirtualShell.Interpreter

open VirtualShell.Engine VirtualShell.Fallible

/-! ## What work ends with -/

/-- From a session for which `before` holds, the work ends with a value and a session for which
`after` holds, unless it is cut short. -/
def Ensures {α : Type} (before : Session → Prop) (work : Engine α)
    (after : α → Session → Prop) : Prop :=
  ∀ session value last, before session → work.run session = (.ok value, last) → after value last

namespace Ensures

variable {α β : Type} {before : Session → Prop} {work : Engine α}

theorem pure {value : α} {after : α → Session → Prop}
    (holds : ∀ session, before session → after value session) :
    Ensures before (pure value) after := by
  intro session other last start ran
  cases ran
  exact holds session start

theorem bind {next : α → Engine β} {middle : α → Session → Prop} {after : β → Session → Prop}
    (first : Ensures before work middle)
    (rest : ∀ value, Ensures (middle value) (next value) after) :
    Ensures before (work >>= next) after := by
  intro session value last start ran
  rw [run_bind] at ran
  rcases worked : work.run session with ⟨abort | found, between⟩
  · rw [worked] at ran
    cases ran
  · rw [worked] at ran
    exact rest found between value last (first session found between start worked) ran

theorem mono {weaker : Session → Prop} {after : α → Session → Prop}
    (ensures : Ensures weaker work after) (start : ∀ session, before session → weaker session) :
    Ensures before work after :=
  fun session value last holds => ensures session value last (start session holds)

theorem trivial : Ensures before work fun _ _ => True :=
  fun _ _ _ _ _ => True.intro

end Ensures

/-! ## Statuses -/

/-- `$?` stands for the exit code. -/
def HasStatus (code : ExitCode) (session : Session) : Prop :=
  session.lastExitCode = code

/-- The statement runs, or `$?` stands for the exit code of what ran before it. -/
def Ready (lead : Lead) (session : Session) : Prop :=
  lead.allows = true ∨ HasStatus lead.previous session

/-- A run of a filled line ends with the exit code that `$?` stands for. -/
def KeepsStatus (runner : Runner) : Prop :=
  ∀ text stdin lead, IsFilledLine text.toList →
    Ensures (Ready lead) (runner text stdin lead) fun outcome => HasStatus outcome.exitCode

theorem setLastExitCode_status (before : Session → Prop) (code : ExitCode) :
    Ensures before (setLastExitCode code) fun _ => HasStatus code := by
  intro session value last _ ran
  cases ran
  rfl

section

variable {setup : Setup} {calls : Calls}

theorem groupStages_ne_nil {stages : List Stage} (filled : stages ≠ []) :
    groupStages stages ≠ [] := by
  cases stages with
  | nil => exact absurd rfl filled
  | cons stage rest =>
      unfold groupStages
      split
      · split <;> exact List.cons_ne_nil _ _
      · exact List.cons_ne_nil _ _

/-- Each group that runs sets `$?`, and one that does not leaves it. -/
theorem runGroups_status (stdin : String) (holds : Bool) (groups : List (Stage × List Stage))
    (gate : Gate) (before : Outcome) :
    Ensures
      (fun session => groups ≠ [] ∧ gate.allows before.exitCode = true ∨
        HasStatus before.exitCode session)
      (runGroups calls stdin holds gate before groups)
      fun held => HasStatus held.outcome.exitCode := by
  induction groups generalizing gate before with
  | nil =>
      apply Ensures.pure
      intro session start
      obtain ⟨filled, -⟩ | status := start
      · exact absurd rfl filled
      · exact status
  | cons group rest inductionHypothesis =>
      unfold runGroups
      dsimp only
      cases allowed : gate.allows before.exitCode with
      | false =>
          apply (inductionHypothesis _ before).mono
          rintro session (⟨-, allows⟩ | status)
          · cases allows
          · exact .inr status
      | true =>
          refine Ensures.trivial.bind fun outcome => ?_
          refine (setLastExitCode_status _ _).bind fun _ => ?_
          split
          · exact Ensures.pure fun session status => status
          · exact (inductionHypothesis _ _).mono fun session status => .inr status

theorem runLines_status (stdin : String) (holds : Bool) (pipelines : List Pipeline)
    (filled : ∀ pipeline ∈ pipelines, pipeline.stages ≠ []) (gate : Gate) (before : Outcome) :
    Ensures
      (fun session => pipelines ≠ [] ∧ gate.allows before.exitCode = true ∨
        HasStatus before.exitCode session)
      (runLines calls stdin holds gate before pipelines)
      fun held => HasStatus held.outcome.exitCode := by
  induction pipelines generalizing stdin gate before with
  | nil =>
      apply Ensures.pure
      intro session start
      obtain ⟨some, -⟩ | status := start
      · exact absurd rfl some
      · exact status
  | cons pipeline rest inductionHypothesis =>
      obtain ⟨staged, others⟩ := List.forall_mem_cons.1 filled
      have first : Ensures
          (fun session => pipeline :: rest ≠ [] ∧ gate.allows before.exitCode = true ∨
            HasStatus before.exitCode session)
          (runPipeline calls pipeline stdin ⟨gate, before.exitCode⟩ (holds && rest.isEmpty))
          fun held => HasStatus held.outcome.exitCode := by
        apply (runGroups_status stdin _ _ gate ⟨"", "", before.exitCode⟩).mono
        rintro session (⟨-, allows⟩ | status)
        · exact .inl ⟨groupStages_ne_nil staged, allows⟩
        · exact .inr status
      unfold runLines
      refine first.bind fun result => ?_
      dsimp only
      split
      · exact Ensures.pure fun session status => status
      · exact (inductionHypothesis _ others _ _).mono fun session status => .inr status

/-- Behind a statement the rest of the line runs, or `$?` stands for what it passes on. -/
theorem runTail_status (runs : KeepsStatus calls.run) {tail : Option Tail}
    (filled : ∀ behind, tail = some behind → IsFilledLine behind.text.toList)
    (outcome : Outcome) (stdin : String) :
    Ensures (HasStatus outcome.exitCode) (runTail calls outcome stdin tail)
      fun after => HasStatus after.exitCode := by
  cases tail with
  | none => exact Ensures.pure fun session status => status
  | some behind =>
      obtain ⟨joint, text⟩ := behind
      have line : IsFilledLine text.toList := filled _ rfl
      cases joint with
      | pipe =>
          refine ((runs text _ .initial line).mono fun _ _ => .inl rfl).bind fun piped => ?_
          exact Ensures.pure fun session status => status
      | newline =>
          have follows := runs text outcome.stdout ⟨.always, outcome.exitCode⟩ line
          refine (follows.mono fun _ status => .inr status).bind fun rest => ?_
          exact Ensures.pure fun session status => status
      | gate gate =>
          have follows := runs text stdin ⟨gate, outcome.exitCode⟩ line
          refine (follows.mono fun _ status => .inr status).bind fun rest => ?_
          exact Ensures.pure fun session status => status

theorem runPipelines_status (runs : KeepsStatus calls.run) {pipelines : List Pipeline}
    (areFilled : Statement.AreFilled pipelines) {tail : Option Tail}
    (filled : ∀ behind, tail = some behind → IsFilledLine behind.text.toList)
    (stdin : String) (lead : Lead) :
    Ensures (Ready lead) (runPipelines calls pipelines tail stdin lead)
      fun outcome => HasStatus outcome.exitCode := by
  have lines (holds : Bool) : Ensures (Ready lead)
      (runLines calls stdin holds lead.gate ⟨"", "", lead.previous⟩ pipelines)
      fun held => HasStatus held.outcome.exitCode := by
    apply (runLines_status stdin holds pipelines areFilled.2 _ _).mono
    rintro session (allows | status)
    · exact .inl ⟨areFilled.1, allows⟩
    · exact .inr status
  unfold runPipelines
  split
  · rename_i text
    have line : IsFilledLine text.toList := filled _ rfl
    refine (lines true).bind fun held => ?_
    refine ((runs text _ .initial line).mono fun _ _ => .inl rfl).bind fun piped => ?_
    exact Ensures.pure fun session status => status
  · refine (lines false).bind fun held => ?_
    exact runTail_status runs filled held.outcome stdin

/-- What a statement that is skipped passes on is what `$?` stands for. -/
theorem runStatement_status (runs : KeepsStatus calls.run) {statement : Statement}
    (filled : statement.IsFilled) (stdin : String) (lead : Lead) :
    Ensures (Ready lead) (runStatement setup calls statement stdin lead)
      fun outcome => HasStatus outcome.exitCode := by
  obtain ⟨body, tail⟩ := statement
  have behind := runTail_status runs filled.tail
  have skips (refused : lead.allows = false) :
      Ensures (Ready lead) (runTail calls (skipped lead) stdin tail)
        fun outcome => HasStatus outcome.exitCode := by
    apply (behind (skipped lead) stdin).mono
    rintro session (allows | status)
    · rw [refused] at allows
      cases allows
    · exact status
  cases body with
  | pipelines pipelines =>
      exact runPipelines_status runs (filled.pipelines _ rfl) filled.tail stdin lead
  | function name text =>
      unfold runStatement
      dsimp only
      cases allowed : lead.allows with
      | false => exact skips allowed
      | true =>
          refine Ensures.trivial.bind fun outcome => ?_
          exact (setLastExitCode_status _ _).bind fun _ => behind outcome stdin
  | compound compound redirections =>
      unfold runStatement
      dsimp only
      cases allowed : lead.allows with
      | false => exact skips allowed
      | true =>
          refine Ensures.trivial.bind fun outcome => ?_
          exact (setLastExitCode_status _ _).bind fun _ => behind outcome stdin

theorem reportSyntaxError_status (before : Session → Prop) (error : SyntaxError) :
    Ensures before (reportSyntaxError error) fun outcome => HasStatus outcome.exitCode := by
  refine Ensures.trivial.bind fun _ => ?_
  refine (setLastExitCode_status _ _).bind fun _ => ?_
  exact Ensures.pure fun session status => status

theorem runRead_status (runs : KeepsStatus calls.run) {text : String}
    (filled : IsFilledLine text.toList) (stdin : String) (lead : Lead) :
    Ensures (Ready lead) (runRead setup calls text stdin lead)
      fun outcome => HasStatus outcome.exitCode := by
  obtain ⟨nonempty, statements⟩ := Statement.isFilled_of_read filled
  have solid : ¬ Text.isBlankText text = true := filled.not_all_isBlank
  unfold runRead
  rw [if_neg solid]
  split
  · exact reportSyntaxError_status _ _
  · rename_i nothing
    exact absurd nothing nonempty
  · rename_i statement read
    exact runStatement_status runs (statements statement read) stdin lead

theorem countRun_ready (lead : Lead) :
    Ensures (Ready lead) (countRun setup) fun _ => Ready lead := by
  intro session value after ready ran
  rw [run_countRun] at ran
  cases congrArg Prod.snd ran
  exact ready

/-- A run of a filled line keeps `$?` in step, however deep runs nest. -/
theorem run_status (room : Nat) : KeepsStatus (run setup room) := by
  induction room with
  | zero =>
      intro text stdin lead _ session outcome after _ ran
      cases ran
  | succ room inductionHypothesis =>
      intro text stdin lead filled
      refine (countRun_ready lead).bind fun _ => ?_
      exact runRead_status inductionHypothesis filled stdin lead

end

/-! ## Lines -/

/-- From any session, once a line whose white space is spaces and tabs, and that holds something
to run, has ended with an outcome and was not cut short, `$?` stands for the exit code of that
outcome. -/
theorem lastExitCode_of_execute {setup : Setup} {room : Nat} {line : String}
    {session after : Session} {outcome : Outcome} (filled : IsFilledLine line.toList)
    (whole : ¬ IsCutShort (run setup room) line session)
    (ended : (execute (run setup room) line).run session = (.ok outcome, after)) :
    after.lastExitCode = outcome.exitCode := by
  have runs : Ensures (fun _ => True) (runLine (run setup room) line)
      fun outcome => HasStatus outcome.exitCode := by
    refine Ensures.trivial.bind fun _ session outcome after _ ran => ?_
    rw [run_onExit] at ran
    rcases own : (run setup room line "" .initial).run session with ⟨result, last⟩
    rw [own] at ran
    cases ran
    exact run_status room line "" .initial filled session outcome last (.inl rfl) own
  rw [run_execute whole] at ended
  have ensures : Ensures (fun _ => True) (runToLimit (run setup room) line)
      fun outcome => HasStatus outcome.exitCode := by
    refine Ensures.trivial.bind fun session => ?_
    split
    · exact Ensures.trivial.bind fun _ => runs.mono fun _ _ => .intro
    · exact runs.mono fun _ _ => .intro
  exact ensures session outcome after .intro ended

/-- An exit code that is turned round, a compound statement that is left out, and a text that is
no statement behind it. -/
theorem lastExitCode_of_execute_skipped :
    IsFilledLine "! true && if true; then cd; fi || fi".toList ∧
      ¬ IsCutShort (run librarySetup 5) "! true && if true; then cd; fi || fi"
        bareShell.session ∧
      ∃ outcome after,
        (execute (run librarySetup 5) "! true && if true; then cd; fi || fi").run
          bareShell.session = (.ok outcome, after) ∧
        after.lastExitCode = outcome.exitCode ∧ outcome.exitCode = 2 := by
  have filled : IsFilledLine "! true && if true; then cd; fi || fi".toList := by decide +kernel
  have ends : ((runToLimit (run librarySetup 5) "! true && if true; then cd; fi || fi").run
      bareShell.session).1.toOption.map Outcome.exitCode = some 2 := by
    decide +kernel
  have whole : ¬ IsCutShort (run librarySetup 5) "! true && if true; then cd; fi || fi"
      bareShell.session := by
    apply not_endsShort_of_isSome
    rw [← Option.isSome_map, ends]
    rfl
  rcases ran : (runToLimit (run librarySetup 5) "! true && if true; then cd; fi || fi").run
    bareShell.session with ⟨abort | outcome, after⟩
  · rw [ran] at ends
    cases ends
  · have ended := (run_execute whole).trans ran
    rw [ran] at ends
    exact ⟨filled, whole, outcome, after, ended, lastExitCode_of_execute filled whole ended,
      Option.some.inj ends⟩

end VirtualShell.Interpreter
