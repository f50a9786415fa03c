import VirtualShell.Proofs.Interpreter.Balance

/-!
Contract: the working directory is absolute and normalised.

Owns:
- `Session.IsRooted`, that the working directory and the one before it are fixed points of
  `Path.normalize`, and that every step but a change of directory keeps it so;
- `Builtin.Strays`, a change to the home directory by a tilde while the variable that holds it
  is not such a path, and `runStraight`, the interpreter in which it is skipped;
- `isRooted_of_history`: as long as no call strays, both directories are normalised after each
  line of a new shell; and `exists_stray`, a line that strays.

The home directory behind a tilde is the only target that is taken as it is written. Without an
argument the same directory is resolved.
-/

namespace VirtualShell

/-- The directories of the session are absolute and normalised. -/
structure Session.IsRooted (session : Session) : Prop where
  cwd : Path.normalize session.cwd = session.cwd
  previousDir : Path.normalize session.previousDir = session.previousDir

namespace Session

variable {session : Session}

/-- Only the directories matter. -/
theorem IsRooted.congr (rooted : session.IsRooted) {other : Session}
    (cwd : other.cwd = session.cwd) (previousDir : other.previousDir = session.previousDir) :
    other.IsRooted := by
  constructor
  · rw [cwd]
    exact rooted.cwd
  · rw [previousDir]
    exact rooted.previousDir

theorem IsRooted.popScope (rooted : session.IsRooted) : session.popScope.IsRooted := by
  unfold Session.popScope
  split
  · exact rooted
  · exact rooted.congr rfl rfl

theorem IsRooted.popScopesTo (rooted : session.IsRooted) (count : Nat) :
    (popScopesTo count session).IsRooted := by
  fun_induction Session.popScopesTo count session with
  | case1 => exact rooted
  | case2 session many inductionHypothesis => exact inductionHypothesis rooted.popScope

theorem IsRooted.leaveFunction (rooted : session.IsRooted) (depth scopes : Nat)
    (hidden : List (String × Option String)) :
    (session.leaveFunction depth scopes hidden).IsRooted := by
  have closed : Session.IsRooted { session with callDepth := depth } := rooted.congr rfl rfl
  exact (closed.popScopesTo scopes).congr rfl rfl

theorem IsRooted.recordLocal (rooted : session.IsRooted) (name : String) :
    (session.recordLocal name).IsRooted := by
  unfold Session.recordLocal
  split
  · exact rooted
  · split
    · exact rooted
    · exact rooted.congr rfl rfl

end Session

/-! ## Builtins -/

namespace Builtin

variable {session : Session}

/-- The arguments of `cd` mean the home directory by a tilde, which is taken as it is written,
and it is not written as an absolute, normalised path. -/
def Strays (session : Session) (arguments : List String) : Prop :=
  let home := (session.environment.get? "HOME").getD "/"
  arguments.head?.getD home = "~" ∧ Path.normalize home ≠ home

instance (session : Session) (arguments : List String) : Decidable (Strays session arguments) :=
  inferInstanceAs (Decidable (_ ∧ _))

/-- A directory that `cd` is asked for is normalised, unless it strays. -/
theorem normalize_target (rooted : session.IsRooted) {home argument : String}
    (written : argument = "~" → Path.normalize home = home) :
    Path.normalize (target session home argument) = target session home argument := by
  unfold target
  split
  · split
    · exact rooted.cwd
    · exact rooted.previousDir
  · split
    · rename_i tilde
      exact written tilde
    · exact Path.normalize_resolve session.cwd argument

theorem isRooted_moveTo (rooted : session.IsRooted) {directory : String}
    (normalised : Path.normalize directory = directory) : (moveTo session directory).IsRooted :=
  ⟨normalised, rooted.cwd⟩

theorem isRooted_unsetAll (rooted : session.IsRooted) (functions : Bool) (names : List String) :
    (unsetAll functions session names).IsRooted := by
  fun_induction unsetAll functions session names with
  | case1 => exact rooted
  | case2 functions session rest inductionHypothesis => exact inductionHypothesis rooted
  | case3 functions session rest inductionHypothesis => exact inductionHypothesis rooted
  | case4 functions session name rest _ _ inductionHypothesis =>
      apply inductionHypothesis
      split <;> exact rooted.congr rfl rfl

theorem isRooted_localAll (rooted : session.IsRooted) (arguments : List String) :
    (localAll session arguments).1.IsRooted := by
  induction arguments generalizing session with
  | nil => exact rooted
  | cons argument rest inductionHypothesis =>
      unfold localAll
      dsimp only
      split
      · exact inductionHypothesis rooted
      · apply inductionHypothesis
        exact (rooted.recordLocal (cutAtEquals argument).1).congr rfl rfl

end Builtin

/-! ## The condition -/

namespace Interpreter

open VirtualShell.Engine VirtualShell.Fallible

/-- The directories are normalised, however work ends. -/
def rooted : Condition where
  between := Session.IsRooted
  afterwards _ := Session.IsRooted

/-- Work that keeps the directories normalised. -/
def KeepsRoot {α : Type} (work : Engine α) : Prop :=
  Agree rooted work work

theorem steady_rooted : Steady rooted where
  storage _ _ holds := holds.congr rfl rfl
  environment _ _ holds := holds.congr rfl rfl
  functions _ _ holds := holds.congr rfl rfl
  lastExitCode _ _ holds := holds.congr rfl rfl
  journal _ _ holds := holds.congr rfl rfl
  fault _ _ holds := holds
  discarded _ _ _ holds := holds.congr rfl rfl

theorem KeepsRoot.ofEnd {α : Type} {work : Engine α} (keeps : KeepsRoot work)
    {session : Session} (holds : session.IsRooted) : rooted.OfEnd (work.run session) :=
  (keeps session holds).2

/-- Work that keeps the directories has ended with them normalised. -/
theorem KeepsRoot.isRooted {α : Type} {work : Engine α} (keeps : KeepsRoot work)
    {session : Session} (holds : session.IsRooted) : (work.run session).2.IsRooted := by
  have ends := keeps.ofEnd holds
  rcases ran : work.run session with ⟨abort | value, after⟩
  · rw [ran] at ends
    exact ends
  · rw [ran] at ends
    exact ends

/-! ## Builtins -/

/-- A change of directory that does not stray. -/
theorem runCd_rooted {session : Session} {arguments : List String} (holds : session.IsRooted)
    (straight : ¬ Builtin.Strays session arguments) :
    rooted.OfEnd ((Builtin.runCd arguments).run session) := by
  let home := (session.environment.get? "HOME").getD "/"
  have normalised : Path.normalize (Builtin.target session home (arguments.head?.getD home)) =
      Builtin.target session home (arguments.head?.getD home) := by
    apply Builtin.normalize_target holds
    intro tilde
    apply Decidable.of_not_not
    exact fun unwritten => straight ⟨tilde, unwritten⟩
  unfold Builtin.runCd
  rw [run_bind, run_get]
  dsimp only
  refine KeepsRoot.ofEnd ((Agree.attempt steady_rooted.storage).bind fun result => ?_) holds
  split
  · exact Agree.pure _
  · exact Agree.throw fun _ holds => holds
  · split
    · exact Agree.pure _
    · refine (Agree.modify ?_).bind fun _ => Agree.pure _
      intro session holds
      exact Builtin.isRooted_moveTo holds normalised

theorem Builtin.eq_of_ofName?_cd {name : String} (known : Builtin.ofName? name = some .cd) :
    name = "cd" := by
  obtain ⟨entry, found, means⟩ := Option.map_eq_some_iff.1 known
  have listed := List.mem_of_find?_eq_some found
  have same := List.find?_some found
  simp only [Builtin.named, List.mem_cons, List.not_mem_nil, or_false] at listed
  obtain rfl | rfl | rfl | rfl | rfl := listed
  · exact (eq_of_beq same).symm
  all_goals cases means

theorem runExport_rooted (arguments : List String) : KeepsRoot (Builtin.runExport arguments) := by
  refine Agree.get_bind fun session holds => ?_
  dsimp only
  split
  · exact ⟨rfl, holds⟩
  · exact ⟨rfl, holds.congr rfl rfl⟩

theorem runLocal_rooted (arguments : List String) : KeepsRoot (Builtin.runLocal arguments) := by
  refine Agree.get_bind fun session holds => ?_
  dsimp only
  split
  · exact ⟨rfl, holds⟩
  · exact ⟨rfl, Builtin.isRooted_localAll holds arguments⟩

theorem builtin_rooted {builtin : Builtin} {session : Session} {arguments : List String}
    (holds : session.IsRooted)
    (straight : builtin = .cd → ¬ Builtin.Strays session arguments) :
    rooted.OfEnd ((builtin.run arguments).run session) := by
  cases builtin with
  | cd => exact runCd_rooted holds (straight rfl)
  | «export» => exact (runExport_rooted arguments).ofEnd holds
  | unset => exact Builtin.isRooted_unsetAll holds false arguments
  | exit => exact holds
  | «local» => exact (runLocal_rooted arguments).ofEnd holds

/-! ## Functions and commands -/

/-- Running a text keeps the directories normalised. -/
def RunnerKeepsRoot (run : Runner) : Prop :=
  ∀ text stdin lead, KeepsRoot (run text stdin lead)

section

variable {setup : Setup} {runner : Runner}

theorem callFunction_rooted (runs : RunnerKeepsRoot runner) (name body : String)
    (arguments : List String) (stdin : String) :
    KeepsRoot (callFunction setup runner name body arguments stdin) := by
  refine Agree.get_bind fun session holds => ?_
  dsimp only
  split
  · exact (record_agree steady_rooted _ _ _).bind (fun _ => Agree.pure _) session holds
  · have entered : (session.enterFunction arguments).IsRooted := holds.congr rfl rfl
    rw [run_bind, run_set]
    refine Agree.onExit (runs body stdin .initial) ?_ entered
    intro result after ends
    match result with
    | .ok _ => exact Session.IsRooted.leaveFunction ends _ _ _
    | .error (.fault _) => exact Session.IsRooted.leaveFunction ends _ _ _
    | .error (.limit _) => exact Session.IsRooted.leaveFunction ends _ _ _
    | .error .nestingSpent => exact ends

theorem runLine_rooted (runs : RunnerKeepsRoot runner) (line : String) :
    KeepsRoot (runLine runner line) := by
  intro session holds
  unfold runLine
  rw [run_bind, run_modify]
  refine Agree.onExit (runs line "" .initial) ?_ (holds.congr rfl rfl)
  intro result after ends
  cases result with
  | ok _ => exact Session.IsRooted.congr ends rfl rfl
  | error _ => exact Session.IsRooted.congr ends rfl rfl

theorem beginLine_rooted (line : String) : KeepsRoot (beginLine line) := by
  have counted : ∀ session, rooted.between session →
      rooted.between { session with commandCount := 0 } := fun _ holds => holds.congr rfl rfl
  refine (Agree.modify counted).bind fun _ => ?_
  split
  · exact record_agree steady_rooted _ _ _
  · exact Agree.pure _

theorem endAtLimit_rooted {work : Engine Outcome} (keeps : KeepsRoot work) :
    KeepsRoot (endAtLimit work) := by
  refine Agree.tryCatch keeps ?_
  intro abort session ends
  cases abort with
  | limit message => exact Session.IsRooted.congr ends rfl rfl
  | nestingSpent => exact ends
  | fault fault => exact ends

theorem execute_rooted (runs : RunnerKeepsRoot runner) (line : String) :
    KeepsRoot (execute runner line) := by
  refine Agree.get.bind fun session => ?_
  split
  · exact (beginLine_rooted line).bind fun _ => endAtLimit_rooted (runLine_rooted runs line)
  · exact runLine_rooted runs line

/-- Nothing but a change of directory that strays can spoil the directories. -/
theorem dispatch_rooted (runs : RunnerKeepsRoot runner) {session : Session} {name : String}
    {arguments : List String} (holds : session.IsRooted)
    (straight : name = "cd" → ¬ Builtin.Strays session arguments) (stdin : String) :
    rooted.OfEnd ((dispatch setup runner name arguments stdin).run session) := by
  have called : rooted.OfEnd ((callByName setup runner name arguments stdin).run session) := by
    unfold callByName
    rw [run_bind, run_get]
    dsimp only
    split
    · rename_i builtin _ _ known
      apply builtin_rooted holds
      rintro rfl
      exact straight (Builtin.eq_of_ofName?_cd known)
    · exact (callFunction_rooted runs _ _ _ _).ofEnd holds
    · exact KeepsRoot.ofEnd (perform_agree steady_rooted (execute_rooted runs) _) holds
    · exact holds
  unfold dispatch
  split
  · exact holds
  · rw [run_tryCatch]
    rcases ran : (callByName setup runner name arguments stdin).run session with
      ⟨abort | outcome, after⟩
    · rw [ran] at called
      cases abort with
      | limit message => exact called
      | nestingSpent => exact called
      | fault fault => exact Session.IsRooted.congr called rfl rfl
    · rw [ran] at called
      exact called

end

/-! ## Runs -/

/-- Calls by name, without the changes of directory that stray. -/
def straight (calls : Dispatcher) : Dispatcher :=
  fun name arguments stdin => do
    if name = "cd" ∧ Builtin.Strays (← get) arguments then return .success
    else calls name arguments stdin

/-- The interpreter in which a change of directory that strays is skipped. -/
def runStraight (setup : Setup) : Nat → Runner
  | 0 => fun _ _ _ => throw .nestingSpent
  | room + 1 =>
      runText setup ⟨runStraight setup room, straight (dispatch setup (runStraight setup room))⟩

section

variable {setup : Setup}

theorem countRun_rooted : KeepsRoot (countRun setup) := by
  have counted : ∀ session, rooted.between session →
      rooted.between { session with commandCount := session.commandCount + 1 } :=
    fun _ holds => holds.congr rfl rfl
  refine (Agree.modify counted).bind fun _ => Agree.get.bind fun session => ?_
  split
  · exact Agree.throw fun _ holds => holds
  · exact Agree.pure _

theorem straight_rooted {runner : Runner} (runs : RunnerKeepsRoot runner) (name : String)
    (arguments : List String) (stdin : String) :
    KeepsRoot (straight (dispatch setup runner) name arguments stdin) := by
  refine Agree.get_bind fun session holds => ?_
  split
  · exact ⟨rfl, holds⟩
  · rename_i sound
    refine ⟨rfl, dispatch_rooted runs holds ?_ stdin⟩
    exact fun asked strays => sound ⟨asked, strays⟩

/-- Without strays the directories stay normalised whatever runs. -/
theorem runStraight_rooted (room : Nat) : RunnerKeepsRoot (runStraight setup room) := by
  induction room with
  | zero => exact fun text stdin lead => Agree.throw fun _ holds => holds
  | succ room inductionHypothesis =>
      have calls : CallsAgree rooted
          ⟨runStraight setup room, straight (dispatch setup (runStraight setup room))⟩
          ⟨runStraight setup room, straight (dispatch setup (runStraight setup room))⟩ :=
        ⟨inductionHypothesis, straight_rooted inductionHypothesis⟩
      intro text stdin lead
      exact countRun_rooted.bind fun _ => runRead_agree steady_rooted calls text stdin lead

theorem history_rooted {run : Runner} (runs : RunnerKeepsRoot run) (lines : List String)
    {session : Session} (holds : session.IsRooted) :
    ∀ step ∈ history run session lines, step.2.IsRooted := by
  induction lines generalizing session with
  | nil => exact List.forall_mem_nil _
  | cons line rest inductionHypothesis =>
      have after : ((execute run line).run session).2.IsRooted :=
        (execute_rooted runs line).isRooted holds
      rw [history_cons, List.forall_mem_cons]
      exact ⟨after, inductionHypothesis after⟩

end

end Interpreter

/-! ## New shells -/

namespace Shell

open VirtualShell.Fallible

theorem isRooted_register (command : Command) {shell : Shell} (rooted : shell.session.IsRooted) :
    ((register command).run shell).2.session.IsRooted := by
  unfold register
  simp only [run_bind, run_get, run_set]
  split
  · rw [run_onStorage]
    exact rooted.congr rfl rfl
  · exact rooted

theorem isRooted_of_ofOptions {options : Options} {shell : Shell}
    (made : ofOptions options = .ok shell) : shell.session.IsRooted := by
  apply ofOptions_induct made
  · exact fun _ _ _ normalised => ⟨normalised, normalised⟩
  · exact fun command _ _ rooted => isRooted_register command rooted

end Shell

deriving instance DecidableEq for Storage

deriving instance DecidableEq for Session

instance decidableEqResult : DecidableEq (Except Abort Outcome)
  | .ok first, .ok second => decidable_of_iff (first = second) ⟨congrArg Except.ok, Except.ok.inj⟩
  | .error first, .error second =>
      decidable_of_iff (first = second) ⟨congrArg Except.error, Except.error.inj⟩
  | .ok _, .error _ => isFalse nofun
  | .error _, .ok _ => isFalse nofun

namespace Interpreter

/-- Both directories are absolute and normalised in a new shell. They are after each line that
the host asks it for, however the line ends, as long as it makes no difference to skip the
changes of directory that stray, so there are none. -/
theorem isRooted_of_history (options : Options) (shell : Shell) (room : Nat)
    (lines : List String) (made : Shell.ofOptions options = .ok shell)
    (sound : history (runStraight shell.setup room) shell.session lines =
      history (run shell.setup room) shell.session lines) :
    shell.session.IsRooted ∧
      ∀ step ∈ history (run shell.setup room) shell.session lines, step.2.IsRooted := by
  have start := Shell.isRooted_of_ofOptions made
  refine ⟨start, ?_⟩
  rw [← sound]
  exact history_rooted (runStraight_rooted room) lines start

/-- Lines that give the home directory as a relative path and as an absolute one, and go there. -/
def homecomings : List String := ["HOME=.", "cd; cd -; HOME=/", "cd '~'"]

theorem isRooted_of_homecomings :
    Shell.ofOptions bareOptions = .ok bareShell ∧
      history (runStraight bareShell.setup 6) bareShell.session homecomings =
        history (run bareShell.setup 6) bareShell.session homecomings ∧
      bareShell.session.IsRooted ∧
      ∀ step ∈ history (run bareShell.setup 6) bareShell.session homecomings,
        step.2.IsRooted := by
  have made : Shell.ofOptions bareOptions = .ok bareShell := rfl
  have sound : history (runStraight bareShell.setup 6) bareShell.session homecomings =
      history (run bareShell.setup 6) bareShell.session homecomings := by decide +kernel
  exact ⟨made, sound, isRooted_of_history bareOptions bareShell 6 _ made sound⟩

/-- A home directory that is written as a relative path becomes the working directory as it is
written, when a tilde asks for it. -/
theorem exists_stray :
    ∃ shell, Shell.ofOptions (Options.standard 0) = .ok shell ∧
      (shell.execute "HOME=tmp; cd '~'").2.session.cwd = "tmp" ∧
      ¬ (shell.execute "HOME=tmp; cd '~'").2.session.IsRooted := by
  obtain ⟨shell, made, moved⟩ : ∃ shell, Shell.ofOptions (Options.standard 0) = .ok shell ∧
      decide ((shell.execute "HOME=tmp; cd '~'").2.session.cwd = "tmp") = true :=
    exists_shell (by decide +kernel)
  have moved := of_decide_eq_true moved
  refine ⟨shell, made, moved, fun rooted => ?_⟩
  have normalised := rooted.cwd
  rw [moved] at normalised
  exact absurd normalised (by decide)

end Interpreter

end VirtualShell
