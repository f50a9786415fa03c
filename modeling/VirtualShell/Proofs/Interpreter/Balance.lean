import VirtualShell.Proofs.Interpreter.Frames
import VirtualShell.Proofs.Path
import VirtualShell.Shell

/-!
Contract: calls, local frames and lines are taken down as they were set up.

Owns:
- `Session.IsBalanced`, as many frames as active calls and no more calls than allowed,
  and `Session.IsIdle`, nothing under way.
- `runWatched`, the interpreter in which an alarm stands in for every call by name in a
  session that is out of balance, and `runAbove`, the one in which something else stands
  in for every run that there is no room for.
- `history`, what the lines that the host asks for yield, one after the other.
- `balance_of_history`: an alarm is never raised, and the session is idle after each line.

A run that there is no room for leaves the frame of its call behind, so the main result
supposes that there is room: nothing depends on what stands in for such a run.
-/

namespace VirtualShell

/-- As many frames as active calls, and no more calls than allowed. -/
def Session.IsBalanced (limits : Limits) (session : Session) : Prop :=
  session.callDepth = session.scopes.length ∧ session.callDepth ≤ limits.callDepth

instance (limits : Limits) (session : Session) : Decidable (session.IsBalanced limits) := by
  unfold Session.IsBalanced
  infer_instance

/-- Nothing is under way: no call, no local frame and no line. -/
structure Session.IsIdle (session : Session) : Prop where
  callDepth : session.callDepth = 0
  scopes : session.scopes = []
  nesting : session.nesting = 0

theorem Session.HasFrames.isIdle {counts : Nat → Prop} {session : Session}
    (frames : session.HasFrames counts 0 0) : session.IsIdle :=
  ⟨frames.callDepth, List.length_eq_zero_iff.1 frames.scopes, frames.nesting⟩

namespace Interpreter

open VirtualShell.Engine VirtualShell.Fallible

/-- Calls a builtin, a function or a command by its name. -/
abbrev Dispatcher := String → List String → String → Engine Outcome

/-- The interpreter in which `spent` stands in for every run that there is no room for. -/
def runAbove (setup : Setup) (spent : Runner) : Nat → Runner
  | 0 => spent
  | room + 1 =>
      runText setup ⟨runAbove setup spent room, dispatch setup (runAbove setup spent room)⟩

/-- Calls by name, with `alarm` instead of those in a session that is out of balance. -/
def watched (limits : Limits) (alarm calls : Dispatcher) : Dispatcher :=
  fun name arguments stdin => do
    if (← get).IsBalanced limits then calls name arguments stdin
    else alarm name arguments stdin

/-- The interpreter in which every call by name is watched. -/
def runWatched (setup : Setup) (alarm : Dispatcher) : Nat → Runner
  | 0 => fun _ _ _ => throw .nestingSpent
  | room + 1 =>
      runText setup
        ⟨runWatched setup alarm room,
          watched setup.limits alarm (dispatch setup (runWatched setup alarm room))⟩

/-- What lines yield when the host asks for one after the other, each with the session
after it. -/
def history (run : Runner) (session : Session) :
    List String → List (Except Abort Outcome × Session)
  | [] => []
  | line :: rest =>
      let step := (execute run line).run session
      step :: history run step.2 rest

theorem history_nil (run : Runner) (session : Session) : history run session [] = [] :=
  rfl

theorem history_cons (run : Runner) (session : Session) (line : String) (rest : List String) :
    history run session (line :: rest) =
      (execute run line).run session ::
        history run ((execute run line).run session).2 rest :=
  rfl

/-- No run lacks room while the host asks for lines: nothing depends on what stands in
for such a run. -/
def HasRoom (setup : Setup) (room : Nat) (session : Session) (lines : List String) : Prop :=
  ∀ spent, history (runAbove setup spent room) session lines =
    history (run setup room) session lines

section

variable {setup : Setup} {roomy : Prop} {counts : Nat → Prop} {left right : Runner}

/-! ## Lines -/

theorem hasFrames_beginLine (start : counts 0) {session : Session} (idle : session.IsIdle)
    (line : String) :
    ∃ begun : Session,
      (beginLine line).run session = (.ok (), begun) ∧ begun.HasFrames counts 0 0 := by
  have scopes := List.length_eq_zero_iff.2 idle.scopes
  unfold beginLine
  simp only [run_bind, run_modify]
  split
  · exact ⟨_, rfl, idle.callDepth, scopes, idle.nesting, start⟩
  · exact ⟨_, rfl, idle.callDepth, scopes, idle.nesting, start⟩

/-- A line that the host asks for. -/
theorem execute_idle (runs : RunnersAgree setup.limits roomy counts left right) (start : counts 0)
    {session : Session} (idle : session.IsIdle) (line : String) :
    (execute left line).run session = (execute right line).run session ∧
      (roomy → ((execute left line).run session).2.IsIdle) := by
  have outermost : (session.nesting == 0 && session.callDepth == 0) = true := by
    simp [idle.nesting, idle.callDepth]
  obtain ⟨begun, begins, frames⟩ := hasFrames_beginLine start idle line
  obtain ⟨same, ends⟩ := runLine_framed runs line begun ⟨Nat.zero_le _, frames⟩
  unfold execute
  rw [run_bind, run_bind, run_get]
  dsimp only
  rw [if_pos outermost, if_pos outermost, run_bind, run_bind, begins]
  unfold endAtLimit
  dsimp only
  rw [run_tryCatch, run_tryCatch, ← same]
  refine ⟨rfl, fun room => ?_⟩
  rcases ran : (runLine left line).run begun with ⟨abort | outcome, after⟩
  · rw [ran] at ends
    cases abort with
    | limit message =>
        have frames := ends room
        exact ⟨frames.callDepth, List.length_eq_zero_iff.1 frames.scopes, frames.nesting⟩
    | nestingSpent => exact absurd room ends
    | fault fault => exact ends.2.isIdle
  · rw [ran] at ends
    exact ends.2.isIdle

/-- If runs never lack room, two interpreters that agree yield the same line by line, and
the session is idle after each line. -/
theorem history_agree (runs : RunnersAgree setup.limits True counts left right) (start : counts 0)
    {session : Session} (idle : session.IsIdle) (lines : List String) :
    history left session lines = history right session lines ∧
      ∀ step ∈ history left session lines, step.2.IsIdle := by
  induction lines generalizing session with
  | nil =>
      rw [history_nil, history_nil]
      exact ⟨rfl, List.forall_mem_nil _⟩
  | cons line rest inductionHypothesis =>
      obtain ⟨same, next⟩ := execute_idle runs start idle line
      obtain ⟨others, idleAfter⟩ := inductionHypothesis (next trivial)
      rw [history_cons, history_cons, ← same, ← others, List.forall_mem_cons]
      exact ⟨rfl, next trivial, idleAfter⟩

/-! ## Runs -/

/-- A run starts another one, or calls something by its name, after it has been counted. -/
theorem callsAgree_framed (runs : RunnersAgree setup.limits roomy counts left right)
    (depth : Nat) {nesting : Nat} (active : 0 < nesting) :
    CallsAgree (framed setup.limits roomy counts depth nesting)
      ⟨left, dispatch setup left⟩ ⟨right, dispatch setup right⟩ :=
  ⟨fun text stdin lead => runs depth nesting text stdin lead active,
    dispatch_framed runs active⟩

theorem runAbove_framed {spent : Runner}
    (bottom : RunnersAgree setup.limits roomy (fun _ => True) spent spent) (room : Nat) :
    RunnersAgree setup.limits roomy (fun _ => True) (runAbove setup spent room)
      (runAbove setup spent room) := by
  induction room with
  | zero => exact bottom
  | succ room inductionHypothesis =>
      intro depth nesting text stdin lead active
      exact runText_framed (fun _ _ _ => trivial) (fun _ _ => trivial)
        (callsAgree_framed inductionHypothesis depth active) text stdin lead

/-- A watched run does the same as an ordinary one. -/
theorem runWatched_framed (alarm : Dispatcher) (room : Nat) :
    RunnersAgree setup.limits False (fun _ => True) (runWatched setup alarm room)
      (run setup room) := by
  induction room with
  | zero =>
      intro depth nesting text stdin lead active
      exact Agree.throw fun _ _ => not_false
  | succ room inductionHypothesis =>
      intro depth nesting text stdin lead active
      have plain := callsAgree_framed inductionHypothesis depth active
      have agree : CallsAgree (framed setup.limits False (fun _ => True) depth nesting)
          ⟨runWatched setup alarm room,
            watched setup.limits alarm (dispatch setup (runWatched setup alarm room))⟩
          ⟨run setup room, dispatch setup (run setup room)⟩ := by
        refine ⟨plain.run, fun name arguments stdin session holds => ?_⟩
        have balanced : session.IsBalanced setup.limits := by
          refine ⟨holds.2.callDepth.trans holds.2.scopes.symm, ?_⟩
          rw [holds.2.callDepth]
          exact holds.1
        unfold watched
        rw [run_bind, run_get]
        dsimp only
        rw [if_pos balanced]
        exact plain.dispatch name arguments stdin session holds
      exact runText_framed (fun _ _ _ => trivial) (fun _ _ => trivial) agree text stdin lead

/-- Once the runs so far and the room together exceed the number of runs allowed, nothing
depends on what stands in for a run that there is no room for. -/
theorem runAbove_agree (spent other : Runner) (room : Nat) :
    RunnersAgree setup.limits True
      (fun count => count ≤ setup.limits.commandCount ∧ setup.limits.commandCount < room + count)
      (runAbove setup spent room) (runAbove setup other room) := by
  induction room with
  | zero =>
      intro depth nesting text stdin lead active session holds
      have := holds.2.count
      omega
  | succ room inductionHypothesis =>
      intro depth nesting text stdin lead active
      exact runText_framed (fun _ _ _ => by omega) (fun _ _ => by omega)
        (callsAgree_framed inductionHypothesis depth active) text stdin lead

theorem run_eq_runAbove (setup : Setup) (room : Nat) :
    run setup room = runAbove setup (fun _ _ _ => throw .nestingSpent) room := by
  induction room with
  | zero => rfl
  | succ room inductionHypothesis => rw [run, runAbove, inductionHypothesis]

/-- No run lacks room where more runs can nest than a line may make. -/
theorem hasRoom_of_commandCount_lt {room : Nat} (enough : setup.limits.commandCount < room)
    {session : Session} (idle : session.IsIdle) (lines : List String) :
    HasRoom setup room session lines := by
  intro spent
  rw [run_eq_runAbove]
  exact (history_agree (runAbove_agree spent _ room) ⟨Nat.zero_le _, enough⟩ idle lines).1

/-- As long as the session is idle after each line, an alarm is never raised. -/
theorem history_runWatched (alarm : Dispatcher) (room : Nat) (lines : List String)
    {session : Session} (idle : session.IsIdle)
    (idleAfter : ∀ step ∈ history (run setup room) session lines, step.2.IsIdle) :
    history (runWatched setup alarm room) session lines =
      history (run setup room) session lines := by
  induction lines generalizing session with
  | nil => rw [history_nil, history_nil]
  | cons line rest inductionHypothesis =>
      have same : (execute (runWatched setup alarm room) line).run session =
          (execute (run setup room) line).run session :=
        (execute_idle (runWatched_framed alarm room) trivial idle line).1
      rw [history_cons, List.forall_mem_cons] at idleAfter
      rw [history_cons, history_cons, same, inductionHypothesis idleAfter.1 idleAfter.2]

end

end Interpreter

/-! ## New shells -/

namespace Shell

open VirtualShell.Fallible

theorem run_onStorage {α : Type} (action : Storage.Action α) (shell : Shell) :
    ((onStorage action).run shell).2 =
      { shell with
        session := { shell.session with storage := (action.run shell.session.storage).2 } } := by
  unfold onStorage
  rw [run_bind, run_get]
  dsimp only
  rcases action.run shell.session.storage with ⟨result, storage⟩
  dsimp only
  rw [run_bind, run_set]
  cases result <;> rfl

theorem isIdle_register (command : Command) {shell : Shell} (idle : shell.session.IsIdle) :
    ((register command).run shell).2.session.IsIdle := by
  unfold register
  simp only [run_bind, run_get, run_set]
  split
  · rw [run_onStorage]
    exact ⟨idle.callDepth, idle.scopes, idle.nesting⟩
  · exact idle

/-- What registering commands keeps, registering all of them keeps. -/
theorem forM_register_induct {holds : Shell → Prop} {commands : List Command}
    (registers : ∀ command ∈ commands, ∀ shell, holds shell →
      holds ((register command).run shell).2)
    {shell after : Shell} {result : Except FileError Unit}
    (ran : (commands.forM register).run shell = (result, after)) (start : holds shell) :
    holds after := by
  induction commands generalizing shell with
  | nil =>
      cases ran
      exact start
  | cons command rest inductionHypothesis =>
      have registered := registers command List.mem_cons_self shell start
      have others := fun other member => registers other (List.mem_cons_of_mem _ member)
      change (register command >>= fun _ => rest.forM register).run shell = _ at ran
      rw [run_bind] at ran
      rcases first : (register command).run shell with ⟨failure | ⟨⟩, between⟩
      · rw [first] at ran registered
        cases ran
        exact registered
      · rw [first] at ran registered
        exact inductionHypothesis others ran registered

theorem normalize_start (options : Options) :
    let start := (options.cwd.map Path.normalize).getD
      (if options.wantsLayout then layoutHome else "/")
    Path.normalize start = start := by
  dsimp only
  cases options.cwd with
  | none => split <;> decide
  | some path => exact Path.normalize_normalize path

/-- What holds before a shell gets its commands, and is kept when it gets one, holds of it. -/
theorem ofOptions_induct {holds : Shell → Prop} {options : Options} {shell : Shell}
    (made : ofOptions options = .ok shell)
    (bare : ∀ limits home start, Path.normalize start = start →
      holds ⟨⟨limits, .empty⟩, initialSession options home start
        ((prepare options start).run options.storage).2, options.wantsLayout⟩)
    (registers : ∀ command ∈ options.commands, ∀ shell, holds shell →
      holds ((register command).run shell).2) : holds shell := by
  unfold ofOptions at made
  simp only [bind, Except.bind] at made
  split at made
  · simp only [pure, Except.pure] at made
    split at made
    · contradiction
    · rename_i storage prepared
      split at made
      · contradiction
      · rename_i ran
        cases made
        apply forM_register_induct registers ran
        have start := bare ‹_› (if options.wantsLayout = true then layoutHome else "/")
          ((options.cwd.map Path.normalize).getD
            (if options.wantsLayout = true then layoutHome else "/")) (normalize_start options)
        rw [prepared] at start
        exact start
  · contradiction

theorem isIdle_of_ofOptions {options : Options} {shell : Shell}
    (made : ofOptions options = .ok shell) : shell.session.IsIdle := by
  apply ofOptions_induct made
  · exact fun _ _ _ _ => ⟨rfl, rfl, rfl⟩
  · exact fun command _ _ idle => isIdle_register command idle

end Shell

namespace Interpreter

open VirtualShell.Engine

/-- A new shell is idle. From an idle session, as long as no run lacks room, whatever
stands in for the calls by name that are made out of balance changes nothing, so there
are none; and the session is idle after each line, however the line ends. -/
theorem balance_of_history :
    (∀ (options : Options) (shell : Shell),
      Shell.ofOptions options = .ok shell → shell.session.IsIdle) ∧
    ∀ (setup : Setup) (room : Nat) (session : Session) (lines : List String),
      session.IsIdle → HasRoom setup room session lines →
        (∀ alarm, history (runWatched setup alarm room) session lines =
          history (run setup room) session lines) ∧
        ∀ step ∈ history (run setup room) session lines, step.2.IsIdle := by
  refine ⟨fun options shell made => Shell.isIdle_of_ofOptions made, ?_⟩
  intro setup room session lines idle hasRoom
  -- With a limit instead of the lack of room, every run puts back what it has set up.
  have bottom : RunnersAgree setup.limits True (fun _ => True)
      (fun _ _ _ => throw (.limit "")) (fun _ _ _ => throw (.limit "")) := by
    intro depth nesting text stdin lead active
    exact Agree.throw fun session holds _ =>
      ⟨holds.2.callDepth, holds.2.scopes, holds.2.nesting, trivial⟩
  have idleAfter : ∀ step ∈ history (run setup room) session lines, step.2.IsIdle := by
    rw [← hasRoom fun _ _ _ => throw (.limit "")]
    exact (history_agree (runAbove_framed bottom room) trivial idle lines).2
  exact ⟨fun alarm => history_runWatched alarm room lines idle idleAfter, idleAfter⟩

/-- Why work has been cut short. -/
def abort? : Except Abort Outcome → Option Abort
  | .ok _ => none
  | .error abort => some abort

theorem eq_of_abort? {result : Except Abort Outcome} {abort : Abort}
    (aborted : abort? result = some abort) : result = .error abort := by
  cases result with
  | ok outcome => cases aborted
  | error other =>
      cases aborted
      rfl

/-- A shell that is as its options say exists if making it succeeds and a test of it does. -/
theorem exists_shell {options : Options} {test : Shell → Bool}
    (passes : (Shell.ofOptions options).toOption.any test = true) :
    ∃ shell, Shell.ofOptions options = .ok shell ∧ test shell = true := by
  rcases made : Shell.ofOptions options with failure | shell
  · rw [made] at passes
    cases passes
  · rw [made] at passes
    exact ⟨shell, rfl, passes⟩

/-- What is asked of a shell without commands in the root directory of an empty tree. -/
def bareOptions : Options := { Options.standard 0 with cwd := some "/", commands := [] }

/-- A shell without commands in the root directory of an empty tree. -/
def bareShell : Shell :=
  ⟨⟨.default, .empty⟩, Shell.initialSession bareOptions "/" "/" bareOptions.storage, false⟩

/-- A function that calls itself, and a line after it. -/
theorem balance_of_recursion :
    Shell.ofOptions bareOptions = .ok bareShell ∧
      bareShell.session.IsIdle ∧
      HasRoom bareShell.setup 10001 bareShell.session ["f() \x7b f; \x7d; f", "cd"] ∧
      (∀ alarm,
        history (runWatched bareShell.setup alarm 10001) bareShell.session
            ["f() \x7b f; \x7d; f", "cd"] =
          history (run bareShell.setup 10001) bareShell.session ["f() \x7b f; \x7d; f", "cd"]) ∧
      ∀ step ∈ history (run bareShell.setup 10001) bareShell.session
          ["f() \x7b f; \x7d; f", "cd"], step.2.IsIdle := by
  have made : Shell.ofOptions bareOptions = .ok bareShell := rfl
  have idle := balance_of_history.1 bareOptions bareShell made
  have room : HasRoom bareShell.setup 10001 bareShell.session ["f() \x7b f; \x7d; f", "cd"] :=
    hasRoom_of_commandCount_lt (by decide) idle _
  exact ⟨made, idle, room, balance_of_history.2 _ _ _ _ idle room⟩

end Interpreter

end VirtualShell
