import VirtualShell.Proofs.Interpreter.Budget
import VirtualShell.Proofs.Interpreter.Runs
import VirtualShell.Proofs.Statement.Breaks

/-!
Contract: what line breaks behind a line do when the line runs.

Owns:
- `IsCleared` and `Clears`, that work ends as other work does, but for the exit code, which is
  zero, and the count of runs;
- `execute_withBreaks`: line breaks behind a statement change nothing, unless they put an empty
  text behind it; that text takes away the exit code;
- `exists_execute_withBreaks_ne`, an exit code that is taken away, and a definition that is none
  any more.
-/

namespace VirtualShell.Interpreter

open VirtualShell.Engine VirtualShell.Fallible VirtualShell.Statement

/-! ## Ends without an exit code -/

/-- The same output, failure and session, with exit code zero and another count of runs. -/
def IsCleared (left right : Except Abort Outcome × Session) : Prop :=
  ∃ count, right = (left.1.map fun outcome => { outcome with exitCode := 0 },
    { left.2 with commandCount := count })

/-- The second piece of work is cut short, or it ends as the first one does without its exit
code. -/
def Clears (left right : Engine Outcome) : Prop :=
  ∀ session, EndsShort (right.run session).1 ∨ IsCleared (left.run session) (right.run session)

namespace Clears

theorem success : Clears (pure .success) (pure .success) :=
  fun session => .inr ⟨session.commandCount, rfl⟩

theorem bind {α : Type} (work : Engine α) {left right : α → Engine Outcome}
    (each : ∀ value, Clears (left value) (right value)) :
    Clears (work >>= left) (work >>= right) := by
  intro session
  rw [run_bind, run_bind]
  rcases work.run session with ⟨abort | value, after⟩
  · exact .inr ⟨after.commandCount, rfl⟩
  · exact each value after

theorem behind (work : Engine Outcome) {right : Outcome → Engine Outcome}
    (each : ∀ outcome, Clears (pure outcome) (right outcome)) :
    Clears work (work >>= right) := by
  have clears := Clears.bind work each
  rwa [bind_pure] at clears

end Clears

section

variable {setup : Setup}

/-- An empty text runs as nothing, but it counts as a run. -/
theorem run_empty (setup : Setup) (room : Nat) (stdin : String) (lead : Lead) (session : Session) :
    EndsShort ((run setup room "" stdin lead).run session).1 ∨
      (run setup room "" stdin lead).run session =
        (.ok .success, { session with commandCount := session.commandCount + 1 }) := by
  cases room with
  | zero => exact .inl ⟨.nestingSpent, rfl, nofun⟩
  | succ room =>
      have counted : run setup (room + 1) "" stdin lead =
          countRun setup >>= fun _ => pure .success := rfl
      rw [counted, run_bind, run_countRun]
      by_cases exceeded : setup.limits.commandCount < session.commandCount + 1
      · rw [if_pos exceeded]
        exact .inl ⟨_, rfl, nofun⟩
      · rw [if_neg exceeded]
        exact .inr rfl

/-- An empty text behind a statement takes away its exit code. -/
theorem clears_runTail {joint : Joint} (separates : joint.isSeparator = true) (room : Nat)
    (dispatch : String → List String → String → Engine Outcome) (outcome : Outcome)
    (stdin : String) :
    Clears (pure outcome)
      (runTail ⟨run setup room, dispatch⟩ outcome stdin (some ⟨joint, ""⟩)) := by
  intro session
  have emptied (input : String) (lead : Lead) :
      EndsShort ((run setup room "" input lead >>= fun rest =>
          pure (append outcome rest) : Engine Outcome).run session).1 ∨
        IsCleared (.ok outcome, session)
          ((run setup room "" input lead >>= fun rest =>
            pure (append outcome rest) : Engine Outcome).run session) := by
    rw [run_bind]
    obtain ⟨abort, failed, limits⟩ | same := run_empty setup room input lead session
    · rcases ran : (run setup room "" input lead).run session with ⟨result, after⟩
      rw [ran] at failed
      cases failed
      exact .inl ⟨abort, rfl, limits⟩
    · rw [same]
      refine .inr ⟨session.commandCount + 1, ?_⟩
      simp [append, Outcome.success, run_pure, Except.map]
  cases joint with
  | newline => exact emptied _ _
  | pipe => cases separates
  | gate gate =>
      cases gate with
      | always => exact emptied _ _
      | onSuccess | onFailure => cases separates

/-- What follows a compound statement or a definition runs behind it. -/
theorem runStatement_tail (calls : Calls) {body : StatementBody}
    (compound : ∀ pipelines, body ≠ .pipelines pipelines) (tail : Option Tail) (stdin : String)
    (lead : Lead) :
    runStatement setup calls ⟨body, tail⟩ stdin lead =
      runStatement setup calls ⟨body, none⟩ stdin lead >>= fun outcome =>
        runTail calls outcome stdin tail := by
  cases body with
  | pipelines pipelines => exact absurd rfl (compound pipelines)
  | function name text =>
      unfold runStatement
      dsimp only
      split <;> simp [runTail]
  | compound compound redirections =>
      unfold runStatement
      dsimp only
      split <;> simp [runTail]

theorem isBlankText_withBreaks (line : String) (count : Nat) :
    Text.isBlankText (withBreaks line count) = Text.isBlankText line := by
  have blank : (List.replicate count '\n').all Text.isBlank = true := by
    rw [List.all_eq_true]
    exact fun c member => List.eq_of_mem_replicate member ▸ rfl
  unfold Text.isBlankText
  rw [toList_withBreaks, List.all_append, blank, Bool.and_true]

theorem beginLine_withBreaks (line : String) (count : Nat) :
    beginLine (withBreaks line count) = beginLine line := by
  have trimmed : Text.trim (withBreaks line count) = Text.trim line := by
    unfold Text.trim
    rw [toList_withBreaks,
      trimChars_append_blanks fun c member => List.eq_of_mem_replicate member ▸ rfl]
  unfold beginLine
  rw [isBlankText_withBreaks, trimmed]

/-- What is read alike runs alike. -/
theorem run_withBreaks_of_eq (setup : Setup) {line : String} {count : Nat}
    (same : Statement.read (withBreaks line count) = Statement.read line) (room : Nat) :
    run setup room (withBreaks line count) = run setup room line := by
  cases room with
  | zero => rfl
  | succ room =>
      funext stdin lead
      simp only [run, runText, runRead, same, isBlankText_withBreaks]

theorem clears_run (setup : Setup) {line : String} {count : Nat} {statement other : Statement}
    (reads : Statement.read line = .ok (some statement))
    (readsBroken : Statement.read (withBreaks line count) = .ok (some other))
    (gains : GainsBlank statement other) (room : Nat) (stdin : String) (lead : Lead) :
    Clears (run setup room line stdin lead)
      (run setup room (withBreaks line count) stdin lead) := by
  cases room with
  | zero => exact fun session => .inl ⟨.nestingSpent, rfl, nofun⟩
  | succ room =>
      have blankToo := isBlankText_withBreaks line count
      cases blank : Text.isBlankText line with
      | true =>
          rw [blank] at blankToo
          simp only [run, runText, runRead, blank, blankToo, if_true]
          exact Clears.bind _ fun _ => .success
      | false =>
          rw [blank] at blankToo
          obtain ⟨joint, separates, rfl⟩ := gains.behind
          obtain ⟨body, tail⟩ := statement
          have bare : tail = none := gains.before
          rw [run_of_read blank reads, run_of_read blankToo readsBroken, bare,
            runStatement_tail _ gains.compound (some _)]
          refine Clears.bind _ fun _ => .behind _ fun outcome => ?_
          exact clears_runTail separates room _ outcome stdin

end

/-- A line is run as its text is, whatever is done before and after it. -/
theorem clears_runToLimit {left right : Runner} {line : String} {count : Nat}
    (runs : Clears (left line "" .initial) (right (withBreaks line count) "" .initial)) :
    Clears (runToLimit left line) (runToLimit right (withBreaks line count)) := by
  have lines : Clears (runLine left line) (runLine right (withBreaks line count)) := by
    apply Clears.bind
    intro _ session
    rw [run_onExit, run_onExit]
    obtain short | ⟨runs, same⟩ := runs session
    · exact .inl short
    · rw [same]
      exact .inr ⟨runs, rfl⟩
  unfold runToLimit
  apply Clears.bind
  intro session
  rw [beginLine_withBreaks]
  split
  · exact Clears.bind _ fun _ => lines
  · exact lines

/-- Let a line that does not end in a backslash be read as a statement, with and without line
breaks behind it. Unless a limit cuts it short, the line with the line breaks ends as the line
does, with the same output, exit code and session. Where they have put an empty text behind a
compound statement or a definition, the output and the session are the same, apart from the count
of runs, but the exit code is zero. -/
theorem execute_withBreaks {setup : Setup} {room count : Nat} {line : String}
    {statement other : Statement} {session : Session}
    (unescaped : line.toList.getLast? ≠ some '\\')
    (reads : Statement.read line = .ok (some statement))
    (readsBroken : Statement.read (withBreaks line count) = .ok (some other))
    (whole : ¬ IsCutShort (run setup room) (withBreaks line count) session) :
    other = statement ∧
        (execute (run setup room) (withBreaks line count)).run session =
          (execute (run setup room) line).run session ∨
      GainsBlank statement other ∧
        IsCleared ((execute (run setup room) line).run session)
          ((execute (run setup room) (withBreaks line count)).run session) := by
  obtain ⟨result, same, after⟩ := afterBreaks_of_read reads unescaped count
  rw [readsBroken] at same
  cases after with
  | same =>
      cases same
      have runs := run_withBreaks_of_eq setup (readsBroken.trans reads.symm) room
      refine .inl ⟨rfl, ?_⟩
      simp only [execute, runLine, beginLine_withBreaks, runs]
  | blank gains =>
      cases same
      have runs := clears_run setup reads readsBroken gains room "" .initial
      obtain short | cleared := clears_runToLimit runs session
      · exact absurd short whole
      · refine .inr ⟨gains, ?_⟩
        have wholeToo : ¬ IsCutShort (run setup room) line session := by
          rintro ⟨abort, failed, limits⟩
          obtain ⟨runs, same⟩ := cleared
          exact whole ⟨abort, by rw [same, failed]; rfl, limits⟩
        rw [run_execute whole, run_execute wholeToo]
        exact cleared
  | unclosed => cases same

/-- A definition and a call behind it that fails, as the last line of a text. -/
theorem execute_withBreaks_called :
    "f() \x7b false; \x7d; f".toList.getLast? ≠ some '\\' ∧
      ∃ statement, Statement.read "f() \x7b false; \x7d; f" = .ok (some statement) ∧
        Statement.read (withBreaks "f() \x7b false; \x7d; f" 2) = .ok (some statement) ∧
        ¬ IsCutShort (run librarySetup 5) (withBreaks "f() \x7b false; \x7d; f" 2)
          bareShell.session ∧
        (execute (run librarySetup 5) (withBreaks "f() \x7b false; \x7d; f" 2)).run
            bareShell.session =
          (execute (run librarySetup 5) "f() \x7b false; \x7d; f").run bareShell.session := by
  have unescaped : "f() \x7b false; \x7d; f".toList.getLast? ≠ some '\\' := by decide
  have reads : Statement.read "f() \x7b false; \x7d; f" =
      .ok (some ⟨.function "f" "false", some ⟨.gate .always, "f"⟩⟩) :=
    eq_ok_of_toOption (by decide +kernel)
  have readsBroken : Statement.read (withBreaks "f() \x7b false; \x7d; f" 2) =
      .ok (some ⟨.function "f" "false", some ⟨.gate .always, "f"⟩⟩) :=
    eq_ok_of_toOption (by decide +kernel)
  have whole : ¬ IsCutShort (run librarySetup 5) (withBreaks "f() \x7b false; \x7d; f" 2)
      bareShell.session :=
    not_endsShort_of_isSome (by decide +kernel)
  obtain ⟨-, same⟩ | ⟨gains, -⟩ := execute_withBreaks unescaped reads readsBroken whole
  · exact ⟨unescaped, _, reads, readsBroken, whole, same⟩
  · cases gains.before

/-- Two line breaks turn the failure of a statement into a success, and one takes a definition
away. -/
theorem exists_execute_withBreaks_ne :
    Statement.read "if true; then false; fi" =
        .ok (some ⟨.compound (.conditional [⟨some "true", "false"⟩]) [], none⟩) ∧
      Statement.read "f() \x7b echo a \x7d" = .ok (some ⟨.function "f" "echo a", none⟩) ∧
      ∃ shell, Shell.ofOptions (Options.standard 0) = .ok shell ∧
        (shell.execute "if true; then false; fi").1.toOption = some ⟨"", "", 1⟩ ∧
        (shell.execute (withBreaks "if true; then false; fi" 2)).1.toOption = some ⟨"", "", 0⟩ ∧
        (shell.execute "f() \x7b echo a \x7d").1.toOption = some ⟨"", "", 0⟩ ∧
        (shell.execute (withBreaks "f() \x7b echo a \x7d" 1)).1.toOption =
          some ⟨"", "bash: syntax error: unexpected end of file\n", 2⟩ := by
  obtain ⟨shell, made, ends⟩ : ∃ shell, Shell.ofOptions (Options.standard 0) = .ok shell ∧
      decide ((shell.execute "if true; then false; fi").1.toOption = some ⟨"", "", 1⟩ ∧
        (shell.execute (withBreaks "if true; then false; fi" 2)).1.toOption = some ⟨"", "", 0⟩ ∧
        (shell.execute "f() \x7b echo a \x7d").1.toOption = some ⟨"", "", 0⟩ ∧
        (shell.execute (withBreaks "f() \x7b echo a \x7d" 1)).1.toOption =
          some ⟨"", "bash: syntax error: unexpected end of file\n", 2⟩) = true :=
    exists_shell (by decide +kernel)
  exact ⟨eq_ok_of_toOption (by decide +kernel), eq_ok_of_toOption (by decide +kernel), shell, made,
    of_decide_eq_true ends⟩

end VirtualShell.Interpreter
