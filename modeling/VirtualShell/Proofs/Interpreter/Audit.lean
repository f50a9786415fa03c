import VirtualShell.Proofs.Interpreter.Budget
import VirtualShell.Proofs.Statement.Breaks
import VirtualShell.Proofs.Statement.Nested

/-!
Contract: the journal tells of each line from the host once.

Owns:
- `Entry.isMark`, the events that only lines from the host leave: that one starts, and that it has
  been given up because of its number of runs; `Journal.marks`, those in a journal;
- `Limits.trim_ne_trim`: no other limit is reported with the message about the number of runs;
- `Interpreter.quiet`, that a journal has no more marks than it had, and `run_quiet`, that this is
  kept by a run of a text, with all its calls and the lines that commands ask for;
- `Interpreter.execute_marks`, the marks of one line from the host;
- `Interpreter.audit_of_history`, those of the lines that the host asks for, one after the other.

A line is from the host if no other one and no call is under way. A text that runs is always part
of a line under way, so only the count of lines matters to what is quiet; that no call is under way
any more when a line has ended is what the histories need room for.
-/

namespace VirtualShell

open VirtualShell.Text

/-! ## Marks -/

/-- Whether an event tells that a line has been given up because of its number of runs. -/
def Entry.tellsSpent (limits : Limits) (entry : Entry) : Bool :=
  entry.source == "guard" && entry.message == trim limits.commandCountMessage

/-- Whether an event tells that a line from the host starts, or that it has been given up because
of its number of runs. -/
def Entry.isMark (limits : Limits) (entry : Entry) : Bool :=
  entry.level == .debug || entry.tellsSpent limits

/-- The marks of a journal, the oldest first. -/
def Journal.marks (limits : Limits) (journal : Journal) : List Entry :=
  journal.entries.filter (Entry.isMark limits)

theorem Journal.marks_record {journal : Journal} (unbounded : journal.capacity = none)
    (limits : Limits) (entry : Entry) :
    (journal.record entry).marks limits =
      journal.marks limits ++ if entry.isMark limits then [entry] else [] := by
  rw [marks, entries_record unbounded, List.filter_append, marks, List.filter_cons,
    List.filter_nil]

/-! ## Messages -/

namespace Limits

theorem trim_message {message body : String} (written : message = "bash: " ++ body ++ ".\n") :
    trim message = "bash: " ++ body ++ "." := by
  have chars : message.toList = ("bash: " ++ body ++ ".").toList ++ ['\n'] := by
    rw [written]
    simp
  have opens : ("bash: " ++ body ++ ".").toList = 'b' :: ("ash: " ++ body ++ ".").toList := by
    simp
  have ends : ("bash: " ++ body ++ ".").toList = ("bash: " ++ body).toList ++ ['.'] := by
    simp
  have firm := Grammar.trimChars_eq_self opens (by decide) ends (by decide)
  have broken : ∀ c ∈ ['\n'], isBlank c = true := List.forall_mem_singleton.2 (by decide)
  rw [trim, chars, Statement.trimChars_append_blanks broken, firm, String.ofList_toList]

/-- Messages that end in different words of one length stay different when they are trimmed. -/
theorem trim_ne_trim {message other body otherBody ending otherEnding : String}
    (written : message = "bash: " ++ (body ++ ending) ++ ".\n")
    (otherWritten : other = "bash: " ++ (otherBody ++ otherEnding) ++ ".\n")
    (level : ending.toList.length = otherEnding.toList.length) (different : ending ≠ otherEnding) :
    trim message ≠ trim other := by
  intro same
  rw [trim_message written, trim_message otherWritten, ← String.toList_inj] at same
  have bodies : body.toList ++ ending.toList = otherBody.toList ++ otherEnding.toList := by
    simpa [← List.append_assoc] using same
  exact different (String.toList_inj.1 (List.append_inj_right' bodies level))

theorem commandCountMessage_eq (limits : Limits) :
    limits.commandCountMessage = "bash: " ++ ("maximum command count (" ++
      toString limits.commandCount ++
      ") exceeded (possible infinite loop). Increase with max_command_" ++ "count option") ++
      ".\n" := by
  have opening : "bash: maximum command count (" = "bash: " ++ "maximum command count (" := by
    decide
  have ending : ") exceeded (possible infinite loop). Increase with max_command_count option.\n" =
      ") exceeded (possible infinite loop). Increase with max_command_" ++ "count option" ++
        ".\n" := by
    decide
  unfold commandCountMessage
  simp only [opening, ending, String.append_assoc]

theorem callDepthMessage_eq (limits : Limits) (name : String) :
    limits.callDepthMessage name = "bash: " ++ (name ++ ": maximum recursion depth (" ++
      toString limits.callDepth ++ ") exceeded. Increase with max_call_" ++ "depth option") ++
      ".\n" := by
  have ending : ") exceeded. Increase with max_call_depth option.\n" =
      ") exceeded. Increase with max_call_" ++ "depth option" ++ ".\n" := by
    decide
  unfold callDepthMessage
  simp only [ending, String.append_assoc]

theorem loopMessage_eq (limits : Limits) (loop : String) :
    limits.loopMessage loop = "bash: " ++ (loop ++ " loop: too many iterations (" ++
      toString limits.loopPasses ++ "). Increase with max_loop_itera" ++ "tions option") ++
      ".\n" := by
  have ending : "). Increase with max_loop_iterations option.\n" =
      "). Increase with max_loop_itera" ++ "tions option" ++ ".\n" := by
    decide
  unfold loopMessage
  simp only [ending, String.append_assoc]

theorem trim_callDepthMessage_ne (limits other : Limits) (name : String) :
    trim (limits.callDepthMessage name) ≠ trim other.commandCountMessage :=
  trim_ne_trim (limits.callDepthMessage_eq name) other.commandCountMessage_eq (by decide)
    (by decide)

theorem trim_loopMessage_ne (limits other : Limits) (loop : String) :
    trim (limits.loopMessage loop) ≠ trim other.commandCountMessage :=
  trim_ne_trim (limits.loopMessage_eq loop) other.commandCountMessage_eq (by decide) (by decide)

end Limits

/-! ## Sessions -/

/-- So many lines are under way, the journal forgets nothing, and its marks are as given. -/
structure Session.IsMarked (limits : Limits) (marks : List Entry) (nesting : Nat)
    (session : Session) : Prop where
  nesting : session.nesting = nesting
  unbounded : session.journal.capacity = none
  marks : session.journal.marks limits = marks

namespace Session

variable {limits : Limits} {marks : List Entry} {nesting : Nat} {session : Session}

/-- Only the lines under way and the journal matter. -/
theorem IsMarked.congr (marked : session.IsMarked limits marks nesting) {other : Session}
    (lines : other.nesting = session.nesting) (journal : other.journal = session.journal) :
    other.IsMarked limits marks nesting :=
  ⟨lines.trans marked.nesting, journal ▸ marked.unbounded, journal ▸ marked.marks⟩

theorem IsMarked.record (marked : session.IsMarked limits marks nesting) {entry : Entry}
    (plain : entry.isMark limits = false) :
    { session with journal := session.journal.record entry }.IsMarked limits marks nesting := by
  refine ⟨marked.nesting, marked.unbounded, ?_⟩
  rw [Journal.marks_record marked.unbounded, plain, marked.marks]
  exact List.append_nil _

theorem exists_popScopesTo (count : Nat) (session : Session) :
    ∃ scopes environment, popScopesTo count session =
      { session with scopes := scopes, environment := environment } := by
  fun_induction popScopesTo count session with
  | case1 => exact ⟨_, _, rfl⟩
  | case2 session many inductionHypothesis =>
      obtain ⟨scopes, environment, closed⟩ := inductionHypothesis
      refine ⟨scopes, environment, closed.trans ?_⟩
      unfold popScope
      split <;> rfl

theorem exists_localAll (session : Session) (arguments : List String) :
    ∃ scopes environment, (Builtin.localAll session arguments).1 =
      { session with scopes := scopes, environment := environment } := by
  induction arguments generalizing session with
  | nil => exact ⟨_, _, rfl⟩
  | cons argument rest inductionHypothesis =>
      unfold Builtin.localAll
      dsimp only
      split
      · exact inductionHypothesis session
      · obtain ⟨scopes, environment, declared⟩ := inductionHypothesis _
        refine ⟨scopes, environment, declared.trans ?_⟩
        unfold recordLocal
        split
        · rfl
        · split <;> rfl

end Session

namespace Interpreter

open VirtualShell.Engine VirtualShell.Fallible

/-! ## Work without marks -/

/-- So many lines are under way, and the journal has just the given marks. If a limit cuts the work
short, it is that on the number of runs or that on the depth of calls. -/
def quiet (limits : Limits) (marks : List Entry) (nesting : Nat) : Condition where
  between session := session.IsMarked limits marks nesting
  afterwards abort session := session.IsMarked limits marks nesting ∧
    ∀ message, abort = .limit message →
      message = limits.commandCountMessage ∨ ∃ name, message = limits.callDepthMessage name

section

variable {setup : Setup} {limits : Limits} {marks : List Entry} {nesting : Nat} {runner : Runner}

theorem isMark_of_report {level : Level} {message source : String}
    (report : IsReport level message source) (depth : Int) :
    Entry.isMark limits ⟨level, message, source, depth⟩ = false := by
  cases report with
  | definition | syntaxError => rfl
  | breach other name =>
      simpa [Entry.isMark, Entry.tellsSpent] using other.trim_loopMessage_ne limits name

theorem isMark_callDepth (name : String) (depth : Int) :
    Entry.isMark limits ⟨.warning, Text.trim (limits.callDepthMessage name), "guard", depth⟩ =
      false := by
  simpa [Entry.isMark, Entry.tellsSpent] using limits.trim_callDepthMessage_ne limits name

theorem attempt_quiet {α : Type} (action : Storage.Action α) :
    Agree (quiet limits marks nesting) (attempt action) (attempt action) :=
  Agree.attempt fun _ _ holds => holds.congr rfl rfl

theorem throw_fault_quiet {α : Type} (fault : Fault) :
    Agree (quiet limits marks nesting) (throw (.fault fault) : Engine α) (throw (.fault fault)) :=
  Agree.throw fun _ holds => ⟨holds, nofun⟩

theorem ofFaulty_quiet {α : Type} (result : Except Fault α) :
    Agree (quiet limits marks nesting) (ofFaulty result) (ofFaulty result) := by
  cases result with
  | ok value => exact Agree.pure value
  | error fault => exact throw_fault_quiet fault

theorem Step.quiet {α : Type} {work : Engine α} (step : Step work) :
    Agree (quiet limits marks nesting) work work := by
  cases step with
  | read | write | append => exact attempt_quiet _
  | expandArguments words => exact Agree.get.bind fun _ => ofFaulty_quiet _
  | loopItems stored =>
      refine Agree.get.bind fun session => ?_
      split
      · exact throw_fault_quiet _
      · exact ofFaulty_quiet _
  | assign | define | setLastExitCode => exact Agree.modify fun _ holds => holds.congr rfl rfl
  | record report => exact Agree.modify fun _ holds => holds.record (isMark_of_report report _)

/-! ## Builtins and functions -/

theorem runCd_quiet (arguments : List String) :
    Agree (quiet limits marks nesting) (Builtin.runCd arguments) (Builtin.runCd arguments) := by
  refine Agree.get.bind fun session => (attempt_quiet _).bind fun result => ?_
  split
  · exact Agree.pure _
  · exact throw_fault_quiet _
  · split
    · exact Agree.pure _
    · refine Agree.bind (Agree.modify fun _ holds => ?_) fun _ => Agree.pure _
      exact Session.IsMarked.congr holds rfl rfl

theorem builtin_quiet (builtin : Builtin) (arguments : List String) :
    Agree (quiet limits marks nesting) (builtin.run arguments) (builtin.run arguments) := by
  cases builtin with
  | cd => exact runCd_quiet arguments
  | «export» =>
      refine Agree.get_bind fun session holds => ?_
      dsimp only
      split
      · exact ⟨rfl, holds⟩
      · exact ⟨rfl, holds.congr rfl rfl⟩
  | unset =>
      refine (Agree.modify fun session holds => ?_).bind fun _ => Agree.pure _
      obtain ⟨environment, functions, unset⟩ := exists_unsetAll false session arguments
      rw [unset]
      exact holds.congr rfl rfl
  | exit => exact Agree.pure _
  | «local» =>
      refine Agree.get_bind fun session holds => ?_
      obtain ⟨scopes, environment, declared⟩ := Session.exists_localAll session arguments
      dsimp only
      split
      · exact ⟨rfl, holds⟩
      · refine ⟨rfl, ?_⟩
        show (Builtin.localAll session arguments).1.IsMarked limits marks nesting
        rw [declared]
        exact holds.congr rfl rfl

/-- Every run of a text leaves no mark, as long as at least one line is under way. -/
def RunsQuiet (limits : Limits) (runner : Runner) : Prop :=
  ∀ marks nesting text stdin lead, 0 < nesting →
    Agree (quiet limits marks nesting) (runner text stdin lead) (runner text stdin lead)

theorem isMarked_leaving {session after : Session} (arguments : List String)
    (result : Except Abort Outcome) (marked : after.IsMarked limits marks nesting) :
    (leaving session arguments result after).IsMarked limits marks nesting := by
  obtain ⟨scopes, environment, closed⟩ := Session.exists_popScopesTo session.scopes.length
    { after with callDepth := session.callDepth }
  match result with
  | .error .nestingSpent => exact marked
  | .ok _ | .error (.limit _) | .error (.fault _) =>
      refine marked.congr ?_ ?_ <;> simp only [leaving, Session.leaveFunction, closed]

theorem callFunction_quiet (runs : RunsQuiet setup.limits runner) (active : 0 < nesting)
    (name body : String) (arguments : List String) (stdin : String) :
    Agree (quiet setup.limits marks nesting) (callFunction setup runner name body arguments stdin)
      (callFunction setup runner name body arguments stdin) := by
  intro session holds
  refine ⟨rfl, ?_⟩
  rw [run_callFunction]
  split
  · exact holds.record (isMark_callDepth name _)
  · have entered : (session.enterFunction arguments).IsMarked setup.limits marks nesting :=
      holds.congr rfl rfl
    obtain ⟨-, ends⟩ := runs marks nesting body stdin .initial active _ entered
    rcases ran : (runner body stdin .initial).run (session.enterFunction arguments) with
      ⟨abort | outcome, after⟩
    · rw [ran] at ends
      exact ⟨isMarked_leaving arguments _ ends.1, ends.2⟩
    · rw [ran] at ends
      exact isMarked_leaving arguments _ ends

/-! ## Lines and commands -/

theorem runLine_quiet (runs : RunsQuiet limits runner) (line : String) :
    Agree (quiet limits marks nesting) (runLine runner line) (runLine runner line) := by
  intro session holds
  have started : (quiet limits marks (nesting + 1)).between
      { session with nesting := session.nesting + 1 } :=
    ⟨congrArg (· + 1) holds.nesting, holds.unbounded, holds.marks⟩
  have ended {after : Session} (inner : after.IsMarked limits marks (nesting + 1)) :
      Session.IsMarked limits marks nesting { after with nesting := after.nesting - 1 } :=
    ⟨by simp [inner.nesting], inner.unbounded, inner.marks⟩
  unfold runLine
  rw [run_bind, run_modify]
  refine Agree.onExit (runs marks (nesting + 1) line "" .initial (Nat.succ_pos _)) ?_ started
  intro result after ends
  cases result with
  | ok outcome => exact ended ends
  | error abort => exact ⟨ended ends.1, ends.2⟩

/-- A line that a command asks for is not from the host. -/
theorem execute_quiet (runs : RunsQuiet limits runner) (active : 0 < nesting) (line : String) :
    Agree (quiet limits marks nesting) (execute runner line) (execute runner line) := by
  refine Agree.get_bind fun session holds => ?_
  have inner : (session.nesting == 0 && session.callDepth == 0) = false := by
    rw [holds.nesting]
    simp [Nat.ne_of_gt active]
  rw [inner]
  exact runLine_quiet runs line session holds

theorem perform_quiet {exec : String → Engine Outcome}
    (lines : ∀ line, Agree (quiet limits marks nesting) (exec line) (exec line))
    (process : Process) :
    Agree (quiet limits marks nesting) (perform exec process) (perform exec process) := by
  induction process with
  | finished world result =>
      refine Agree.bind (Agree.modify fun _ holds => ?_) fun _ => ofFaulty_quiet result
      exact Session.IsMarked.congr holds rfl rfl
  | running world line resume inductionHypothesis =>
      refine Agree.bind (Agree.modify fun _ holds => ?_) fun _ => ?_
      · exact Session.IsMarked.congr holds rfl rfl
      · refine (lines line).bind fun outcome => Agree.get.bind fun session => ?_
        exact inductionHypothesis _ _

theorem callByName_quiet (runs : RunsQuiet setup.limits runner) (active : 0 < nesting)
    (name : String) (arguments : List String) (stdin : String) :
    Agree (quiet setup.limits marks nesting) (callByName setup runner name arguments stdin)
      (callByName setup runner name arguments stdin) := by
  refine Agree.get.bind fun session => ?_
  split
  · exact builtin_quiet _ _
  · exact callFunction_quiet runs active _ _ _ _
  · exact perform_quiet (execute_quiet runs active) _
  · exact Agree.pure _

theorem dispatch_quiet (runs : RunsQuiet setup.limits runner) (active : 0 < nesting)
    (name : String) (arguments : List String) (stdin : String) :
    Agree (quiet setup.limits marks nesting) (dispatch setup runner name arguments stdin)
      (dispatch setup runner name arguments stdin) := by
  unfold dispatch
  split
  · exact Agree.pure _
  · refine Agree.tryCatch (callByName_quiet runs active _ _ _) ?_
    rintro abort session ⟨marked, messages⟩
    cases abort with
    | limit message => exact ⟨marked, messages⟩
    | nestingSpent =>
        -- It goes on as a limit, with the message about the depth of calls.
        refine ⟨marked, ?_⟩
        rintro _ ⟨⟩
        exact .inr ⟨name, rfl⟩
    | fault fault => exact marked.record rfl

/-! ## Runs -/

theorem countRun_quiet :
    Agree (quiet setup.limits marks nesting) (countRun setup) (countRun setup) := by
  intro session holds
  have counted : Session.IsMarked setup.limits marks nesting
      { session with commandCount := session.commandCount + 1 } := holds.congr rfl rfl
  refine ⟨rfl, ?_⟩
  rw [run_countRun]
  split
  · refine ⟨counted, ?_⟩
    rintro _ ⟨⟩
    exact .inl rfl
  · exact counted

/-- A run leaves no mark if what it starts leaves none. -/
theorem runText_quiet (runs : RunsQuiet setup.limits runner) :
    RunsQuiet setup.limits (runText setup ⟨runner, dispatch setup runner⟩) := by
  intro marks nesting text stdin lead active
  refine countRun_quiet.bind fun _ => ?_
  refine (runRead_alike (Nat.le_refl _) text stdin lead).agree Step.quiet ?_
    ⟨fun text stdin lead => runs marks nesting text stdin lead active,
      dispatch_quiet runs active⟩
  intro α result session name ends
  cases result with
  | ok value => exact ends.congr rfl rfl
  | error abort => exact ⟨ends.1.congr rfl rfl, ends.2⟩

theorem run_quiet (setup : Setup) (room : Nat) : RunsQuiet setup.limits (run setup room) := by
  induction room with
  | zero => exact fun _ _ _ _ _ _ => Agree.throw fun _ holds => ⟨holds, nofun⟩
  | succ room inductionHypothesis => exact runText_quiet inductionHypothesis

/-! ## Lines from the host -/

/-- What a line from the host tells when it starts. -/
def startEntry (line : String) : Entry :=
  ⟨.debug, "exec: " ++ Text.trim line, "shell", 0⟩

/-- What a line from the host tells when it is given up because of its number of runs. -/
def spentEntry (limits : Limits) : Entry :=
  ⟨.warning, Text.trim limits.commandCountMessage, "guard", 0⟩

/-- Whether a line is given up because of its number of runs. -/
def isSpent (limits : Limits) (runner : Runner) (session : Session) (line : String) : Bool :=
  abort? ((runToLimit runner line).run session).1 == some (.limit limits.commandCountMessage)

/-- What a line that starts tells. -/
def startMarks (line : String) : List Entry :=
  if Text.isBlankText line then [] else [startEntry line]

/-- What a line from the host tells. -/
def lineMarks (limits : Limits) (runner : Runner) (session : Session) (line : String) :
    List Entry :=
  startMarks line ++ if isSpent limits runner session line then [spentEntry limits] else []

theorem isMark_spentEntry (limits : Limits) : (spentEntry limits).isMark limits = true := by
  simp [spentEntry, Entry.isMark, Entry.tellsSpent]

theorem beginLine_marks {session : Session} (idle : session.IsIdle)
    (unbounded : session.journal.capacity = none) (line : String) :
    ∃ begun, (beginLine line).run session = (.ok (), begun) ∧
      begun.IsMarked limits (session.journal.marks limits ++ startMarks line) 0 := by
  unfold beginLine startMarks
  simp only [run_bind, run_modify]
  split
  · rename_i solid
    refine ⟨_, rfl, idle.nesting, unbounded, ?_⟩
    have told : (⟨.debug, "exec: " ++ Text.trim line, "shell", session.callDepth⟩ : Entry) =
        startEntry line := by
      rw [idle.callDepth]
      rfl
    rw [if_neg (by simpa using solid)]
    show (session.journal.record ⟨.debug, "exec: " ++ Text.trim line, "shell",
      session.callDepth⟩).marks limits = _
    rw [Journal.marks_record unbounded, told]
    rfl
  · rename_i blank
    refine ⟨_, rfl, idle.nesting, unbounded, ?_⟩
    rw [if_pos (by simpa using blank), List.append_nil]

theorem isMarked_endAtLimit {begun : Session} {work : Engine Outcome}
    (ends : (quiet limits marks 0).OfEnd (work.run begun)) :
    ((endAtLimit work).run begun).2.IsMarked limits
      (marks ++ if abort? (work.run begun).1 = some (.limit limits.commandCountMessage) then
        [spentEntry limits] else []) 0 := by
  unfold endAtLimit
  rw [run_tryCatch]
  rcases ran : work.run begun with ⟨abort | outcome, after⟩
  · rw [ran] at ends
    obtain ⟨marked, messages⟩ := ends
    cases abort with
    | limit message =>
        refine ⟨marked.nesting, marked.unbounded, ?_⟩
        show (after.journal.record ⟨.warning, Text.trim message, "guard", 0⟩).marks limits = _
        rw [Journal.marks_record marked.unbounded, marked.marks]
        obtain rfl | ⟨name, rfl⟩ := messages message rfl
        · rw [show (⟨.warning, _, "guard", 0⟩ : Entry) = spentEntry limits from rfl,
            if_pos (isMark_spentEntry limits)]
          simp [abort?]
        · -- Running out of room ends a line as well, but is told with another message.
          have other : limits.callDepthMessage name ≠ limits.commandCountMessage :=
            fun same => limits.trim_callDepthMessage_ne limits name (congrArg Text.trim same)
          rw [isMark_callDepth]
          simp [abort?, other]
    | nestingSpent | fault fault =>
        show after.IsMarked limits _ 0
        simpa [abort?] using marked
  · rw [ran] at ends
    have marked : after.IsMarked limits marks 0 := ends
    simpa [abort?] using marked

/-- A line from the host tells that it starts, unless it is blank, and that it is given up because
of its number of runs, if it is. -/
theorem execute_marks (runs : RunsQuiet limits runner) {session : Session} (idle : session.IsIdle)
    (unbounded : session.journal.capacity = none) (line : String) :
    ((execute runner line).run session).2.IsMarked limits
      (session.journal.marks limits ++ lineMarks limits runner session line) 0 := by
  have outermost : (session.nesting == 0 && session.callDepth == 0) = true := by
    simp [idle.nesting, idle.callDepth]
  obtain ⟨begun, begins, marked⟩ := @beginLine_marks limits _ idle unbounded line
  obtain ⟨-, ends⟩ := runLine_quiet runs line begun marked
  have spent : isSpent limits runner session line = true ↔
      abort? ((runLine runner line).run begun).1 = some (.limit limits.commandCountMessage) := by
    unfold isSpent runToLimit
    rw [run_bind, run_get]
    dsimp only
    rw [if_pos outermost, run_bind, begins, beq_iff_eq]
  have marked := isMarked_endAtLimit ends
  unfold execute lineMarks
  rw [run_bind, run_get]
  dsimp only
  rw [if_pos outermost, run_bind, begins, ← List.append_assoc]
  simpa only [spent] using marked

end

end Interpreter

/-! ## New shells -/

namespace Shell

theorem journal_register (command : Command) (shell : Shell) :
    ((register command).run shell).2.session.journal = shell.session.journal := by
  unfold register
  simp only [Fallible.run_bind, Fallible.run_get, Fallible.run_set]
  split
  · rw [run_onStorage]
  · rfl

theorem journal_of_ofOptions {options : Options} {shell : Shell}
    (made : ofOptions options = .ok shell) : shell.session.journal = options.journal := by
  apply ofOptions_induct made
  · exact fun _ _ _ _ => rfl
  · exact fun command _ shell same => (journal_register command shell).trans same

end Shell

namespace Interpreter

open VirtualShell.Engine VirtualShell.Fallible

/-! ## Histories -/

/-- If no run lacks room, the session is idle after each line from the host. -/
theorem isIdle_of_hasRoom {setup : Setup} {room : Nat} {session : Session} {lines : List String}
    (idle : session.IsIdle) (roomy : HasRoom setup room session lines) :
    ∀ step ∈ history (run setup room) session lines, step.2.IsIdle := by
  have bottom : RunnersAgree setup.limits True (fun _ => True)
      (fun _ _ _ => pure .success) (fun _ _ _ => pure .success) :=
    fun _ _ _ _ _ _ => Agree.pure _
  -- Any run that ends and leaves the frames alone may stand in where there is no room.
  rw [← roomy fun _ _ _ => pure .success]
  exact (history_agree (runAbove_framed bottom room) trivial idle lines).2

/-- The session after the lines that the host asks for, one after the other. -/
def sessionAfter (runner : Runner) (session : Session) (lines : List String) : Session :=
  lines.foldl (fun session line => ((execute runner line).run session).2) session

/-- Those of the lines that the host asks for which are given up because of their number of runs. -/
def spentLines (limits : Limits) (runner : Runner) (session : Session) : List String → List String
  | [] => []
  | line :: rest =>
      (if isSpent limits runner session line then [line] else []) ++
        spentLines limits runner ((execute runner line).run session).2 rest

/-- What the lines that the host asks for tell. -/
def audit (limits : Limits) (runner : Runner) (session : Session) : List String → List Entry
  | [] => []
  | line :: rest =>
      lineMarks limits runner session line ++
        audit limits runner ((execute runner line).run session).2 rest

section

variable {limits : Limits} {runner : Runner} {session : Session}

theorem marks_sessionAfter (runs : RunsQuiet limits runner) (idle : session.IsIdle)
    (unbounded : session.journal.capacity = none) {lines : List String}
    (idleAfter : ∀ step ∈ history runner session lines, step.2.IsIdle) :
    (sessionAfter runner session lines).journal.marks limits =
      session.journal.marks limits ++ audit limits runner session lines := by
  induction lines generalizing session with
  | nil => exact (List.append_nil _).symm
  | cons line rest inductionHypothesis =>
      rw [history_cons, List.forall_mem_cons] at idleAfter
      have marked := execute_marks runs idle unbounded line
      show (sessionAfter runner ((execute runner line).run session).2 rest).journal.marks limits = _
      rw [inductionHypothesis idleAfter.1 marked.unbounded idleAfter.2, marked.marks, audit,
        List.append_assoc]

theorem filter_debug_audit (lines : List String) :
    (audit limits runner session lines).filter (·.level == .debug) =
      (lines.filter fun line => !Text.isBlankText line).map startEntry := by
  induction lines generalizing session with
  | nil => rfl
  | cons line rest inductionHypothesis =>
      have spent : (if isSpent limits runner session line then [spentEntry limits] else []).filter
          (·.level == .debug) = [] := by
        split <;> rfl
      rw [audit, lineMarks, List.filter_append, List.filter_append, spent, inductionHypothesis,
        List.append_nil, startMarks, List.filter_cons]
      cases Text.isBlankText line <;> rfl

theorem filter_spent_audit (lines : List String) :
    (audit limits runner session lines).filter (Entry.tellsSpent limits) =
      (spentLines limits runner session lines).map fun _ => spentEntry limits := by
  induction lines generalizing session with
  | nil => rfl
  | cons line rest inductionHypothesis =>
      have starts : (startMarks line).filter (Entry.tellsSpent limits) = [] := by
        unfold startMarks
        split <;> rfl
      have tells : (spentEntry limits).tellsSpent limits = true := by
        simp [spentEntry, Entry.tellsSpent]
      rw [audit, lineMarks, List.filter_append, List.filter_append, starts, inductionHypothesis,
        spentLines, List.map_append]
      cases isSpent limits runner session line <;> simp [tells]

/-- What is looked for among all entries can be looked for among the marks. -/
theorem filter_entries_eq {kind : Entry → Bool}
    (marks : ∀ entry, kind entry = true → entry.isMark limits = true) (journal : Journal) :
    journal.entries.filter kind = (journal.marks limits).filter kind := by
  rw [Journal.marks, List.filter_filter]
  refine List.filter_congr fun entry _ => ?_
  cases told : kind entry with
  | false => rfl
  | true => simp [marks entry told]

end

/-- A new shell is idle and has the journal that it was given. From an idle session whose journal
forgets nothing, as long as no run lacks room, the entries for debugging are those from before and
one for each line from the host that is not blank, in order; and the entries about the number of
runs are those from before and one for each line that is given up because of it. -/
theorem audit_of_history :
    (∀ (options : Options) (shell : Shell), Shell.ofOptions options = .ok shell →
      shell.session.IsIdle ∧ shell.session.journal = options.journal) ∧
    ∀ (setup : Setup) (room : Nat) (session : Session) (lines : List String),
      session.IsIdle → session.journal.capacity = none → HasRoom setup room session lines →
        (sessionAfter (run setup room) session lines).journal.entries.filter (·.level == .debug) =
            session.journal.entries.filter (·.level == .debug) ++
              (lines.filter fun line => !Text.isBlankText line).map startEntry ∧
          (sessionAfter (run setup room) session lines).journal.entries.filter
              (Entry.tellsSpent setup.limits) =
            session.journal.entries.filter (Entry.tellsSpent setup.limits) ++
              (spentLines setup.limits (run setup room) session lines).map fun _ =>
                spentEntry setup.limits := by
  constructor
  · intro options shell made
    exact ⟨Shell.isIdle_of_ofOptions made, Shell.journal_of_ofOptions made⟩
  · intro setup room session lines idle unbounded roomy
    have marks := marks_sessionAfter (run_quiet setup room) idle unbounded
      (isIdle_of_hasRoom idle roomy)
    have debugging (journal : Journal) := @filter_entries_eq setup.limits (·.level == .debug)
      (fun entry told => by simp [Entry.isMark, told]) journal
    have spent (journal : Journal) := @filter_entries_eq setup.limits
      (Entry.tellsSpent setup.limits) (fun entry told => by simp [Entry.isMark, told]) journal
    constructor
    · rw [debugging, debugging, marks, List.filter_append, filter_debug_audit]
    · rw [spent, spent, marks, List.filter_append, filter_spent_audit]

/-- A loop that nothing else ends tells of itself once, whatever it runs, and so does the call of a
function behind it. -/
theorem audit_of_endless_loop :
    Shell.ofOptions bareOptions = .ok bareShell ∧ bareShell.session.IsIdle ∧
      bareShell.session.journal.capacity = none ∧
      HasRoom ⟨⟨100, 3, 5⟩, .empty⟩ 4 bareShell.session
        ["f() \x7b cd; \x7d", " ", "while cd; do cd; done", " f"] ∧
      (sessionAfter (run ⟨⟨100, 3, 5⟩, .empty⟩ 4) bareShell.session
          ["f() \x7b cd; \x7d", " ", "while cd; do cd; done", " f"]).journal.entries.filter
          (·.level == .debug) =
        [⟨.debug, "exec: f() \x7b cd; \x7d", "shell", 0⟩,
          ⟨.debug, "exec: while cd; do cd; done", "shell", 0⟩, ⟨.debug, "exec: f", "shell", 0⟩] ∧
      (sessionAfter (run ⟨⟨100, 3, 5⟩, .empty⟩ 4) bareShell.session
          ["f() \x7b cd; \x7d", " ", "while cd; do cd; done", " f"]).journal.entries.filter
          (Entry.tellsSpent ⟨100, 3, 5⟩) = [spentEntry ⟨100, 3, 5⟩] := by
  have made : Shell.ofOptions bareOptions = .ok bareShell := rfl
  have idle := (audit_of_history.1 bareOptions bareShell made).1
  have room : HasRoom ⟨⟨100, 3, 5⟩, .empty⟩ 4 bareShell.session
      ["f() \x7b cd; \x7d", " ", "while cd; do cd; done", " f"] :=
    hasRoom_of_commandCount_lt (by decide) idle _
  have once : (spentLines ⟨100, 3, 5⟩ (run ⟨⟨100, 3, 5⟩, .empty⟩ 4) bareShell.session
      ["f() \x7b cd; \x7d", " ", "while cd; do cd; done", " f"]).length = 1 := by
    decide +kernel
  obtain ⟨debugging, spent⟩ := audit_of_history.2 _ _ _ _ idle rfl room
  refine ⟨made, idle, rfl, room, debugging.trans ?_, spent.trans ?_⟩
  · decide +kernel
  · rw [List.map_const', once]
    rfl

end Interpreter

end VirtualShell
