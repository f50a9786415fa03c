import VirtualShell.Proofs.Command.Keeping
import VirtualShell.Proofs.Interpreter.Budget
import VirtualShell.Proofs.Table

/-!
Contract: what can get out of a line from the host.

Owns:
- `Shell.keeps_of_ofOptions`, that a new shell on a storage that refuses nothing has commands
  that keep it so;
- `history_ends_or_escapes`: a line ends with an outcome, or with the fault of a loop whose
  stored words cannot be read, or of a pattern whose expression is worse than malformed;
- `exists_escape`, one line for each of the two.

Every other fault arises where a command is called, and ends there.
-/

namespace VirtualShell

namespace Shell

open VirtualShell.Fallible VirtualShell.Interpreter

/-- Nothing is refused. -/
def grantsAll (refused : List FileOperation) : Prop :=
  refused = []

theorem leaves_prepare (options : Options) (start : String) :
    Leaves Storage.refused (prepare options start) := by
  have makes (path : String) : Leaves Storage.refused (Storage.makeDirectory path true) :=
    Storage.leaves_perform _ _ _
  unfold prepare
  split
  · refine (Leaves.forM (fun _ => Storage.leaves_perform _ _ _) _).bind fun _ => ?_
    split
    · exact (Leaves.forM makes _).bind fun _ => makes start
    · exact makes start
  · exact Leaves.pure _

theorem register_keeps {permits : List FileOperation → Prop} {command : Command}
    (keeps : command.Keeps permits) {shell : Shell}
    (holds : shell.setup.Keeps permits ∧ permits shell.session.storage.refused) :
    ((register command).run shell).2.setup.Keeps permits ∧
      permits ((register command).run shell).2.session.storage.refused := by
  have inserted : Setup.Keeps permits
      { shell.setup with commands := shell.setup.commands.insert command.name command } := by
    intro name other found
    have found : (shell.setup.commands.insert command.name command).get? name = some other := found
    rw [Table.get?_insert] at found
    split at found
    · cases found
      exact keeps
    · exact holds.1 name other found
  unfold register
  simp only [run_bind, run_get, run_set]
  split
  · rw [run_onStorage]
    refine ⟨inserted, ?_⟩
    show permits ((Storage.perform _ _ _).run shell.session.storage).2.refused
    rw [Storage.leaves_perform]
    exact holds.2
  · exact ⟨inserted, holds.2⟩

/-- A new shell with the commands of the library, on a storage that refuses nothing. -/
theorem keeps_of_ofOptions {options : Options} {shell : Shell}
    (made : ofOptions options = .ok shell) (granted : options.storage.refused = [])
    (standard : options.commands = Command.library) :
    shell.setup.Keeps grantsAll ∧ grantsAll shell.session.storage.refused := by
  apply ofOptions_induct made
  · intro limits home start _
    refine ⟨fun name command found => ?_, ?_⟩
    · have found : (Table.empty : Table String Command).get? name = some command := found
      rw [Table.get?_empty] at found
      cases found
    show ((prepare options start).run options.storage).2.refused = []
    rw [leaves_prepare options start options.storage, granted]
  · intro command member shell holds
    rw [standard] at member
    exact register_keeps (Command.keeps_of_mem_library member) holds

end Shell

namespace Interpreter

open VirtualShell.Engine VirtualShell.Fallible

/-- With more room on top of an interpreter, runs nest that much deeper. -/
theorem runAbove_run (setup : Setup) (extra room : Nat) :
    runAbove setup (run setup extra) room = run setup (extra + room) := by
  induction room with
  | zero => rfl
  | succ room inductionHypothesis =>
      rw [← Nat.add_assoc, runAbove, run, inductionHypothesis]

section

variable {setup : Setup} {permits : List FileOperation → Prop} {room : Nat} {session : Session}

/-- A line with room enough leaves no line and no call under way, and the storage as it may be;
what gets out of it comes from an expansion. -/
theorem execute_ends_or_escapes (commands : setup.Keeps permits)
    (enough : setup.limits.commandCount < room)
    (outermost : session.nesting = 0 ∧ session.callDepth = 0)
    (permitted : permits session.storage.refused) (line : String) {result : Except Abort Outcome}
    {after : Session} (ran : (execute (run setup room) line).run session = (result, after)) :
    (after.nesting = 0 ∧ after.callDepth = 0) ∧ permits after.storage.refused ∧
      ((∃ outcome, result = .ok outcome) ∨
        ∃ fault, result = .error (.fault fault) ∧ Escapes permits fault) := by
  have runs : RunnersKeep setup.limits permits 0 (runObserved setup room)
      (runObserved setup room) := by
    apply runObserved_keep commands <;> omega
  let start := session.withJournal (.empty none)
  have idle : start.nesting = 0 ∧ start.callDepth = 0 := outermost
  obtain ⟨-, ended⟩ := execute_endsLine runs idle permitted rfl line
  rw [execute_of_observed] at ran
  cases ran
  refine ⟨⟨?_, ?_⟩, ended.permitted, ended.result⟩
  · exact ended.reached.nesting.trans outermost.1
  · exact ended.reached.callDepth.trans outermost.2

theorem history_of_enough (commands : setup.Keeps permits)
    (enough : setup.limits.commandCount < room) (lines : List String) {session : Session}
    (outermost : session.nesting = 0 ∧ session.callDepth = 0)
    (permitted : permits session.storage.refused) :
    ∀ step ∈ history (run setup room) session lines,
      (∃ outcome, step.1 = .ok outcome) ∨
        ∃ fault, step.1 = .error (.fault fault) ∧ Escapes permits fault := by
  induction lines generalizing session with
  | nil => exact List.forall_mem_nil _
  | cons line rest inductionHypothesis =>
      obtain ⟨idle, kept, ended⟩ :=
        execute_ends_or_escapes commands enough outermost permitted line rfl
      rw [history_cons, List.forall_mem_cons]
      exact ⟨ended, inductionHypothesis idle kept⟩

end

/-- Let lines come from the host to a shell with the commands of the library, on a storage that
refuses nothing, and let no run lack room. Then each line ends with an outcome, or with a fault
for which it is known where it comes from: the stored words of a loop that cannot be read, or a
pattern whose expression is not malformed but cannot be compiled all the same. -/
theorem history_ends_or_escapes (options : Options) (shell : Shell) (room : Nat)
    (lines : List String) (made : Shell.ofOptions options = .ok shell)
    (granted : options.storage.refused = []) (standard : options.commands = Command.library)
    (roomy : HasRoom shell.setup room shell.session lines) :
    ∀ step ∈ history (run shell.setup room) shell.session lines,
      (∃ outcome, step.1 = .ok outcome) ∨
        (∃ list error, IsLoopList list ∧ Token.scan list = .error error ∧
          step.1 = .error (.fault (.line error))) ∨
        ∃ pattern defect, Glob.compile pattern = .error defect ∧ defect ≠ .malformed ∧
          step.1 = .error (.fault (.expression defect)) := by
  obtain ⟨commands, permitted⟩ := Shell.keeps_of_ofOptions made granted standard
  have idle := Shell.isIdle_of_ofOptions made
  -- No run lacks room, so there might as well be room for every run that is allowed.
  rw [← roomy (run shell.setup (shell.setup.limits.commandCount + 1)), runAbove_run]
  intro step member
  obtain ended | ⟨fault, failed, escapes⟩ := history_of_enough commands (by omega) lines
    ⟨idle.nesting, idle.callDepth⟩ permitted step member
  · exact .inl ended
  · cases escapes with
    | line stored scanned => exact .inr (.inl ⟨_, _, stored, scanned, failed⟩)
    | expression compiled worse => exact .inr (.inr ⟨_, _, compiled, worse, failed⟩)
    | paths refuses member =>
        rw [show _ = [] from refuses] at member
        cases member

/-- What is asked of a shell with the commands of the library and a small budget. -/
def thriftyOptions : Options := { Options.standard 0 with commandCount := some 5 }

theorem history_ends_or_escapes_thrifty :
    ∃ shell, Shell.ofOptions thriftyOptions = .ok shell ∧
      thriftyOptions.storage.refused = [] ∧ thriftyOptions.commands = Command.library ∧
      HasRoom shell.setup 6 shell.session ["echo hi | cat", "for i in a b; do pwd; done"] ∧
      ∀ step ∈ history (run shell.setup 6) shell.session
          ["echo hi | cat", "for i in a b; do pwd; done"],
        (∃ outcome, step.1 = .ok outcome) ∨
          (∃ list error, IsLoopList list ∧ Token.scan list = .error error ∧
            step.1 = .error (.fault (.line error))) ∨
          ∃ pattern defect, Glob.compile pattern = .error defect ∧ defect ≠ .malformed ∧
            step.1 = .error (.fault (.expression defect)) := by
  obtain ⟨shell, made, budget⟩ : ∃ shell, Shell.ofOptions thriftyOptions = .ok shell ∧
      decide (shell.setup.limits.commandCount < 6) = true := exists_shell (by decide +kernel)
  have room : HasRoom shell.setup 6 shell.session ["echo hi | cat", "for i in a b; do pwd; done"] :=
    hasRoom_of_commandCount_lt (of_decide_eq_true budget) (Shell.isIdle_of_ofOptions made) _
  exact ⟨shell, made, rfl, rfl, room,
    history_ends_or_escapes thriftyOptions shell 6 _ made rfl rfl room⟩

/-- Faults do get out. The blank in front of the first list is no blank between words, but it is
stripped when the list is stored, and what is left opens a quote behind a comment. The second
line has a set that closes behind its negation, so a repetition follows it. -/
theorem exists_escape :
    ∃ shell, Shell.ofOptions thriftyOptions = .ok shell ∧
      thriftyOptions.storage.refused = [] ∧ thriftyOptions.commands = Command.library ∧
      (∀ lines, HasRoom shell.setup 6 shell.session lines) ∧
      ((execute (run shell.setup 6) "for i in \u00a0#'a\n'; do echo $i; done").run
        shell.session).1 = .error (.fault (.line (.unclosedQuote '\''))) ∧
      ((execute (run shell.setup 6) "echo [!]\x7b99999999999\x7d]").run shell.session).1 =
        .error (.fault (.expression .repetitionTooLarge)) := by
  obtain ⟨shell, made, escapes⟩ : ∃ shell, Shell.ofOptions thriftyOptions = .ok shell ∧
      decide (shell.setup.limits.commandCount < 6 ∧
        abort? ((execute (run shell.setup 6) "for i in \u00a0#'a\n'; do echo $i; done").run
          shell.session).1 = some (.fault (.line (.unclosedQuote '\''))) ∧
        abort? ((execute (run shell.setup 6) "echo [!]\x7b99999999999\x7d]").run
          shell.session).1 = some (.fault (.expression .repetitionTooLarge))) = true :=
    exists_shell (by decide +kernel)
  obtain ⟨budget, unread, uncompiled⟩ := of_decide_eq_true escapes
  refine ⟨shell, made, rfl, rfl, fun lines => ?_, eq_of_abort? unread, eq_of_abort? uncompiled⟩
  exact hasRoom_of_commandCount_lt budget (Shell.isIdle_of_ofOptions made) lines

end Interpreter

end VirtualShell
