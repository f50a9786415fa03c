import VirtualShell.Proofs.Fallible
import VirtualShell.Proofs.Interpreter.Agreement
import VirtualShell.Proofs.Interpreter.Reach

/-!
Contract: what the observed interpreter may do, and that room beyond the limit changes nothing.

Owns:
- `underway`, how far a run may have taken a session, and how it may end: with a fault of an
  expansion between two calls, or at the limit on the number of runs;
- `Storage.leaves_perform`, that no operation changes the access rule of the storage, and
  `Process.Keeps`, `Command.Keeps` and `Setup.Keeps`, that a command keeps it of some kind, the
  only way in which a command can add to that;
- `runObserved_keep`: runs with enough room keep to this, and do the same whatever their room.

The number of runs so far is what decreases: a run may start another one only after it has been
counted, so where the room exceeds the runs that are left, it is never used up.
-/

namespace VirtualShell

theorem Storage.leaves_perform {α : Type} (operation : FileOperation) (path : String)
    (action : Files.Action α) :
    Fallible.Leaves Storage.refused (perform operation path action) := by
  intro storage
  unfold perform
  rw [Fallible.run_bind, Fallible.run_get]
  dsimp only
  split
  · rfl
  · rcases action.run storage.files with ⟨failure | value, files⟩
    · rfl
    · rfl

/-- The process leaves the storage with an access rule of some kind whenever it stops, if it
gets one of this kind back. -/
def Process.Keeps (permits : List FileOperation → Prop) : Process → Prop
  | .finished world _ => permits world.storage.refused
  | .running world _ resume => permits world.storage.refused ∧
      ∀ (after : World) (outcome : Outcome), permits after.storage.refused →
        (resume after outcome).Keeps permits

/-- The command keeps a kind of access rule. -/
def Command.Keeps (permits : List FileOperation → Prop) (command : Command) : Prop :=
  ∀ context arguments world, permits world.storage.refused →
    (command.start context arguments world).Keeps permits

/-- All commands keep a kind of access rule. -/
def Setup.Keeps (permits : List FileOperation → Prop) (setup : Setup) : Prop :=
  ∀ name command, setup.commands.get? name = some command → command.Keeps permits

theorem Process.keeps_of_forall {permits : List FileOperation → Prop}
    (all : ∀ refused, permits refused) (process : Process) : process.Keeps permits := by
  induction process with
  | finished world result => exact all _
  | running world line resume inductionHypothesis =>
      exact ⟨all _, fun after outcome _ => inductionHypothesis after outcome⟩

theorem Setup.keeps_of_forall {permits : List FileOperation → Prop}
    (all : ∀ refused, permits refused) (setup : Setup) : setup.Keeps permits :=
  fun _ _ _ _ _ _ _ => Process.keeps_of_forall all _

namespace Interpreter

open VirtualShell.Engine VirtualShell.Fallible

/-! ## The condition -/

/-- What the expansion of words between two calls can fail with. -/
inductive Escapes (permits : List FileOperation → Prop) : Fault → Prop where
  | line {list : String} {error : SyntaxError} :
      IsLoopList list → Token.scan list = .error error → Escapes permits (.line error)
  | expression {pattern : String} {defect : Regex.Defect} :
      Glob.compile pattern = .error defect → defect ≠ .malformed →
      Escapes permits (.expression defect)
  | paths {refused : List FileOperation} {error : FileError} :
      permits refused → .allPaths ∈ refused → Escapes permits (.file error)

/-- How far a run that started in a session may have taken it, with no more runs than allowed;
a limit may have cut it short one run later. Work that is cut short never lacks room. -/
def underway (limits : Limits) (permits : List FileOperation → Prop) (faults : Fault → Prop)
    (start : Session) : Condition where
  between session := permits session.storage.refused ∧ Reached start session ∧
    session.commandCount ≤ max limits.commandCount start.commandCount
  afterwards abort session := permits session.storage.refused ∧ Reached start session ∧
    match abort with
    | .fault fault =>
        faults fault ∧ session.commandCount ≤ max limits.commandCount start.commandCount
    | .limit message =>
        message = limits.commandCountMessage ∧ limits.commandCount < session.commandCount ∧
          session.commandCount ≤ max limits.commandCount start.commandCount + 1
    | .nestingSpent => False

/-- A line or a call is under way, the storage has an access rule of some kind, and the journal
forgets nothing. -/
structure IsReady (permits : List FileOperation → Prop) (session : Session) : Prop where
  active : ¬(session.nesting = 0 ∧ session.callDepth = 0)
  permitted : permits session.storage.refused
  unbounded : session.journal.capacity = none

/-- From every session in which at least `floor` runs have been counted, two pieces of work do
the same and go no further than a run may. -/
def Keeps {α : Type} (limits : Limits) (permits : List FileOperation → Prop)
    (faults : Fault → Prop) (floor : Nat) (left right : Engine α) : Prop :=
  ∀ session, IsReady permits session → floor ≤ session.commandCount →
    left.run session = right.run session ∧
      (underway limits permits faults session).OfEnd (left.run session)

section

variable {limits : Limits} {permits : List FileOperation → Prop} {faults : Fault → Prop}
  {start session : Session} {floor : Nat} {α : Type}

theorem underway_refl (ready : IsReady permits start) :
    (underway limits permits faults start).between start :=
  ⟨ready.permitted, .refl ready.unbounded, Nat.le_max_right _ _⟩

/-- Nothing is counted where nothing is run. -/
theorem underway_of_reached {after : Session}
    (holds : (underway limits permits faults start).between session)
    (permitted : permits after.storage.refused) (reached : Reached session after)
    (count : after.commandCount = session.commandCount) :
    (underway limits permits faults start).between after :=
  ⟨permitted, holds.2.1.trans reached, count ▸ holds.2.2⟩

theorem underway_trans (holds : (underway limits permits faults start).between session)
    {result : Except Abort α × Session}
    (ends : (underway limits permits faults session).OfEnd result) :
    (underway limits permits faults start).OfEnd result := by
  obtain ⟨result, after⟩ := result
  obtain ⟨-, reached, count⟩ := holds
  have least := reached.commandCount_le
  -- The bound of the later run is one of the earlier run as well, since that kept to its own.
  match result with
  | .ok _ =>
      obtain ⟨permitted, further, counted⟩ := ends
      exact ⟨permitted, reached.trans further, by omega⟩
  | .error (.fault fault) =>
      obtain ⟨permitted, further, escapes, counted⟩ := ends
      exact ⟨permitted, reached.trans further, escapes, by omega⟩
  | .error (.limit message) =>
      obtain ⟨permitted, further, message, beyond, counted⟩ := ends
      exact ⟨permitted, reached.trans further, message, beyond, by omega⟩
  | .error .nestingSpent => exact ends.2.2.elim

theorem reached_of_underway {result : Except Abort α} {after : Session}
    (ends : (underway limits permits faults start).OfEnd (result, after)) :
    Reached start after ∧ result ≠ .error .nestingSpent := by
  match result with
  | .error .nestingSpent => exact ends.2.2.elim
  | .ok _ | .error (.limit _) | .error (.fault _) => exact ⟨ends.2.1, nofun⟩

theorem underway_mono {more : Fault → Prop} (weaker : ∀ fault, faults fault → more fault)
    {result : Except Abort α × Session}
    (ends : (underway limits permits faults start).OfEnd result) :
    (underway limits permits more start).OfEnd result := by
  obtain ⟨result, after⟩ := result
  match result with
  | .ok _ => exact ends
  | .error (.fault fault) => exact ⟨ends.1, ends.2.1, weaker fault ends.2.2.1, ends.2.2.2⟩
  | .error (.limit message) => exact ends
  | .error .nestingSpent => exact ends

theorem IsReady.of_between (ready : IsReady permits start)
    (holds : (underway limits permits faults start).between session) : IsReady permits session := by
  refine ⟨?_, holds.1, holds.2.1.unbounded⟩
  rw [holds.2.1.nesting, holds.2.1.callDepth]
  exact ready.active

/-- What holds from every session holds from every session that a run has reached. -/
theorem Keeps.agree {left right : Engine α} (keeps : Keeps limits permits faults floor left right)
    (ready : IsReady permits start) (least : floor ≤ start.commandCount) :
    Agree (underway limits permits faults start) left right := by
  intro session holds
  have reached := holds.2.1.commandCount_le
  obtain ⟨same, ends⟩ := keeps session (ready.of_between holds) (by omega)
  exact ⟨same, underway_trans holds ends⟩

theorem Keeps.of_agree {left right : Engine α}
    (agree : ∀ start, IsReady permits start → floor ≤ start.commandCount →
      Agree (underway limits permits faults start) left right) :
    Keeps limits permits faults floor left right :=
  fun session ready least => agree session ready least session (underway_refl ready)

theorem Keeps.mono {left right : Engine α} {more : Fault → Prop}
    (keeps : Keeps limits permits faults floor left right)
    (weaker : ∀ fault, faults fault → more fault) :
    Keeps limits permits more floor left right := by
  intro session ready least
  obtain ⟨same, ends⟩ := keeps session ready least
  exact ⟨same, underway_mono weaker ends⟩

/-! ## Steps -/

theorem keeps_modify {change : Session → Session}
    (permitted : ∀ session, permits session.storage.refused →
      permits (change session).storage.refused)
    (reached : ∀ session, session.journal.capacity = none → Reached session (change session))
    (count : ∀ session, (change session).commandCount = session.commandCount) :
    Keeps limits permits faults floor (modify change) (modify change) := by
  intro session ready least
  refine ⟨rfl, underway_of_reached (underway_refl ready) ?_ ?_ (count session)⟩
  · exact permitted session ready.permitted
  · exact reached session ready.unbounded

theorem keeps_perform (operation : FileOperation) (path : String) (action : Files.Action α) :
    Keeps limits permits faults floor (attempt (Storage.perform operation path action))
      (attempt (Storage.perform operation path action)) := by
  intro session ready least
  refine ⟨rfl, underway_of_reached (underway_refl ready) ?_
    (.of_same ready.unbounded rfl rfl rfl rfl rfl) rfl⟩
  show permits ((Storage.perform operation path action).run session.storage).2.refused
  rw [Storage.leaves_perform]
  exact ready.permitted

theorem keeps_record {source : String} (reporter : IsReporter source) (level : Level)
    (message : String) :
    Keeps limits permits faults floor (Engine.record level message source)
      (Engine.record level message source) := by
  refine keeps_modify (fun _ permitted => permitted) ?_ fun _ => rfl
  exact fun session unbounded => .of_record unbounded reporter

theorem escapes_of_expand {storage : Storage} (permitted : permits storage.refused)
    {cwd pattern : String} {fault : Fault}
    (failed : Glob.expand storage cwd pattern = .error fault) : Escapes permits fault := by
  unfold Glob.expand at failed
  split at failed
  · cases failed
  · rcases compiled : Glob.compile (Path.resolve cwd pattern) with defect | expression
    · rw [compiled] at failed
      cases defect with
      | malformed => cases failed
      | _ =>
          cases failed
          exact .expression compiled nofun
    · rw [compiled] at failed
      dsimp only at failed
      split at failed
      · rename_i error listed
        cases failed
        unfold Storage.allPaths at listed
        split at listed
        · rename_i refuses
          exact .paths permitted (List.contains_iff_mem.1 refuses)
        · cases listed
      · cases failed

theorem escapes_of_expandArgument {around : Surroundings}
    (permitted : permits around.storage.refused) {word : Word} {fault : Fault}
    (failed : expandArgument around word = .error fault) : Escapes permits fault := by
  unfold expandArgument at failed
  dsimp only at failed
  split at failed
  · cases failed
  · exact escapes_of_expand permitted failed

theorem escapes_of_expandListItem {around : Surroundings}
    (permitted : permits around.storage.refused) {word : Word} {fault : Fault}
    (failed : expandListItem around word = .error fault) : Escapes permits fault := by
  unfold expandListItem at failed
  dsimp only at failed
  split at failed
  · cases failed
  · obtain ⟨field, -, failed⟩ := exists_of_mapM_error (error_of_map failed)
    exact escapes_of_expand permitted failed

theorem keeps_ofFaulty {result : Except Fault α}
    (escapes : ∀ fault, result = .error fault → faults fault) :
    Keeps limits permits faults floor (ofFaulty result) (ofFaulty result) := by
  intro session ready least
  have holds : (underway limits permits faults session).between session := underway_refl ready
  cases result with
  | ok value => exact ⟨rfl, holds⟩
  | error fault => exact ⟨rfl, holds.1, holds.2.1, escapes fault rfl, holds.2.2⟩

theorem keeps_loopItems {list : String} (stored : IsLoopList list) :
    Keeps limits permits (Escapes permits) floor (loopItems list) (loopItems list) := by
  intro session ready least
  unfold loopItems
  rw [run_bind, run_get]
  dsimp only
  rcases scanned : Token.scan list with error | tokens
  · have line : Escapes permits (.line error) := .line stored scanned
    exact ⟨rfl, ready.permitted, .refl ready.unbounded, line, Nat.le_max_right _ _⟩
  · refine keeps_ofFaulty ?_ session ready least
    intro fault failed
    obtain ⟨word, -, failed⟩ := exists_of_mapM_error (error_of_map failed)
    exact escapes_of_expandListItem ready.permitted failed

theorem Step.keeps {work : Engine α} (step : Step work) :
    Keeps limits permits (Escapes permits) floor work work := by
  cases step with
  | read | write | append => exact keeps_perform _ _ _
  | expandArguments words =>
      intro session ready least
      unfold Interpreter.expandArguments
      rw [run_bind, run_get]
      refine keeps_ofFaulty ?_ session ready least
      intro fault failed
      obtain ⟨word, -, failed⟩ := exists_of_mapM_error (error_of_map failed)
      exact escapes_of_expandArgument ready.permitted failed
  | loopItems stored => exact keeps_loopItems stored
  | assign | define | setLastExitCode =>
      refine keeps_modify (fun _ permitted => permitted) ?_ fun _ => rfl
      exact fun _ unbounded => .of_same unbounded rfl rfl rfl rfl rfl
  | record report => exact keeps_record report.reporter _ _

/-! ## Builtins and functions -/

theorem keeps_runCd (arguments : List String) :
    Keeps limits permits (fun _ => True) floor (Builtin.runCd arguments)
      (Builtin.runCd arguments) := by
  apply Keeps.of_agree
  intro start ready least
  refine Agree.get.bind fun session => ?_
  refine ((keeps_perform _ _ _).agree ready least).bind fun result => ?_
  split
  · exact Agree.pure _
  · exact Agree.throw fun _ holds => ⟨holds.1, holds.2.1, trivial, holds.2.2⟩
  · split
    · exact Agree.pure _
    · refine (Agree.modify fun session holds => ?_).bind fun _ => Agree.pure _
      exact underway_of_reached holds holds.1
        (.of_same holds.2.1.unbounded rfl rfl rfl rfl rfl) rfl

theorem keeps_runExport (arguments : List String) :
    Keeps limits permits (fun _ => True) floor (Builtin.runExport arguments)
      (Builtin.runExport arguments) := by
  apply Keeps.of_agree
  intro start ready least
  refine Agree.get_bind fun session holds => ?_
  dsimp only
  split
  · exact ⟨rfl, holds⟩
  · exact ⟨rfl, underway_of_reached holds holds.1
      (.of_same holds.2.1.unbounded rfl rfl rfl rfl rfl) rfl⟩

/-- Only variables and functions are unset. -/
theorem exists_unsetAll (deletes : Bool) (session : Session) (names : List String) :
    ∃ environment functions, Builtin.unsetAll deletes session names =
      { session with environment := environment, functions := functions } := by
  fun_induction Builtin.unsetAll deletes session names with
  | case1 => exact ⟨_, _, rfl⟩
  | case2 _ _ _ inductionHypothesis => exact inductionHypothesis
  | case3 _ _ _ inductionHypothesis => exact inductionHypothesis
  | case4 deletes session name rest _ _ inductionHypothesis =>
      obtain ⟨environment, functions, unset⟩ := inductionHypothesis
      refine ⟨environment, functions, unset.trans ?_⟩
      split <;> rfl

theorem keeps_builtin {builtin : Builtin} (other : builtin ≠ .local) (arguments : List String) :
    Keeps limits permits (fun _ => True) floor (builtin.run arguments) (builtin.run arguments) := by
  cases builtin with
  | cd => exact keeps_runCd arguments
  | «export» => exact keeps_runExport arguments
  | unset =>
      intro session ready least
      obtain ⟨environment, functions, unset⟩ := exists_unsetAll false session arguments
      have reached : Reached session (Builtin.unsetAll false session arguments) := by
        rw [unset]
        exact .of_same ready.unbounded rfl rfl rfl rfl rfl
      have holds : (underway limits permits (fun _ => True) session).between
          (Builtin.unsetAll false session arguments) := by
        refine underway_of_reached (underway_refl ready) ?_ reached ?_
        · rw [unset]
          exact ready.permitted
        · rw [unset]
      exact ⟨rfl, holds⟩
  | exit => exact fun session ready _ => ⟨rfl, underway_refl ready⟩
  | «local» => exact absurd rfl other

/-- Outside of functions, `local` does nothing. -/
theorem keeps_runLocal_outside (arguments : List String) (ready : IsReady permits session)
    (outside : ¬session.inFunction) :
    (underway limits permits faults session).OfEnd ((Builtin.runLocal arguments).run session) := by
  unfold Builtin.runLocal
  rw [run_bind, run_get]
  dsimp only
  rw [if_pos (by simpa using outside)]
  exact underway_refl ready

/-- Inside of a function, `local` declares what is noted. -/
theorem keeps_runLocal_inside (arguments : List String) (ready : IsReady permits session)
    (inside : session.inFunction) :
    (underway limits permits faults session).OfEnd
      ((Builtin.runLocal arguments).run (session.withJournal (session.journal.noting
        (declarations session.scopes.length session.environment arguments)))) := by
  have noted := Journal.notes_noting ready.unbounded
    (declarations session.scopes.length session.environment arguments)
  unfold Builtin.runLocal
  rw [run_bind, run_get]
  dsimp only
  rw [if_neg (by simpa [Session.withJournal, Session.inFunction] using inside)]
  rcases scopes : session.scopes with _ | ⟨frame, outer⟩
  · simp [Session.inFunction, scopes] at inside
  · rw [scopes] at noted
    have noting : (session.withJournal (session.journal.noting
        (declarations (outer.length + 1) session.environment arguments))).scopes = frame :: outer :=
      scopes
    obtain ⟨inner, environment, declared, remembers⟩ := localAll_of_frame noting arguments
    rw [run_bind, run_set]
    dsimp only
    rw [List.length_cons, declared]
    refine ⟨ready.permitted, ⟨rfl, rfl, Journal.capacity_noting ready.unbounded _, _, noted, ?_,
      ?_, ?_⟩, Nat.le_max_right _ _⟩
    · rw [List.length_cons, count_declarations]
      rfl
    · intro frames name few
      rw [scopes] at few
      exact firstDeclared_declarations (Nat.ne_of_gt few) name _ _
    · rw [scopes]
      exact ⟨inner, rfl, remembers⟩

/-- From every session in which at least `floor` runs have been counted, two ways of running a
text do the same and go no further than a run may. -/
def RunnersKeep (limits : Limits) (permits : List FileOperation → Prop) (floor : Nat)
    (left right : Runner) : Prop :=
  ∀ text stdin lead,
    Keeps limits permits (Escapes permits) floor (left text stdin lead) (right text stdin lead)

end

section

variable {setup : Setup} {permits : List FileOperation → Prop} {floor : Nat} {left right : Runner}
  {session : Session}

/-- What a call may have done when its body has ended is what its caller may have done when the
call is left. -/
theorem underway_leaveFunction {session after : Session} {arguments : List String}
    {result : Except Abort Outcome}
    (ends : (underway setup.limits permits (Escapes permits)
      (session.enterFunction arguments)).OfEnd (result, after)) :
    (underway setup.limits permits (Escapes permits) session).OfEnd
      (result, leaving session arguments result after) := by
  have left (reached : Reached (session.enterFunction arguments) after) :=
    reached.exists_leaveFunction (Session.hiddenValues session.environment arguments.length)
  match result with
  | .error .nestingSpent => exact ends.2.2.elim
  | .ok _ | .error (.limit _) | .error (.fault _) =>
      obtain ⟨environment, same⟩ := left ends.2.1
      unfold leaving
      dsimp only
      rw [same]
      exact ⟨ends.1, ends.2.1.of_enterFunction environment, ends.2.2⟩

/-- A function may be called in any session in which nothing keeps its body from being ready. -/
theorem callFunction_underway (runs : RunnersKeep setup.limits permits floor left right)
    (name body : String) (arguments : List String) (stdin : String)
    (permitted : permits session.storage.refused) (unbounded : session.journal.capacity = none)
    (least : floor ≤ session.commandCount) :
    (callFunction setup left name body arguments stdin).run session =
        (callFunction setup right name body arguments stdin).run session ∧
      (underway setup.limits permits (Escapes permits) session).OfEnd
        ((callFunction setup left name body arguments stdin).run session) := by
  rw [run_callFunction, run_callFunction]
  split
  · have guard : IsReporter "guard" := .inr (.inl rfl)
    exact ⟨rfl, permitted, .of_record unbounded guard, Nat.le_max_right _ _⟩
  · have entered : IsReady permits (session.enterFunction arguments) :=
      ⟨fun idle => Nat.succ_ne_zero _ idle.2, permitted, unbounded⟩
    obtain ⟨same, ends⟩ := runs body stdin .initial _ entered least
    rw [← same]
    exact ⟨rfl, underway_leaveFunction ends⟩

theorem keeps_callFunction (runs : RunnersKeep setup.limits permits floor left right)
    (name body : String) (arguments : List String) (stdin : String) :
    Keeps setup.limits permits (Escapes permits) floor
      (callFunction setup left name body arguments stdin)
      (callFunction setup right name body arguments stdin) :=
  fun _ ready least =>
    callFunction_underway runs name body arguments stdin ready.permitted ready.unbounded least

/-- A line under way is under way no more when it has ended. -/
theorem underway_runLine {after : Session} {result : Except Abort Outcome}
    (ends : (underway setup.limits permits (Escapes permits)
      { session with nesting := session.nesting + 1 }).OfEnd (result, after)) :
    (underway setup.limits permits (Escapes permits) session).OfEnd
      (result, { after with nesting := after.nesting - 1 }) := by
  have ended (reached : Reached { session with nesting := session.nesting + 1 } after) :
      Reached session { after with nesting := after.nesting - 1 } :=
    ⟨by simp [reached.nesting], reached.callDepth, reached.unbounded, reached.noted⟩
  match result with
  | .error .nestingSpent => exact ends.2.2.elim
  | .ok _ | .error (.limit _) | .error (.fault _) =>
      exact ⟨ends.1, ended ends.2.1, ends.2.2⟩

/-- A line may be asked for in any session in which nothing keeps it from being ready. -/
theorem runLine_underway (runs : RunnersKeep setup.limits permits floor left right) (line : String)
    (permitted : permits session.storage.refused) (unbounded : session.journal.capacity = none)
    (least : floor ≤ session.commandCount) :
    (runLine left line).run session = (runLine right line).run session ∧
      (underway setup.limits permits (Escapes permits) session).OfEnd
        ((runLine left line).run session) := by
  have started : IsReady permits { session with nesting := session.nesting + 1 } :=
    ⟨fun idle => Nat.succ_ne_zero _ idle.1, permitted, unbounded⟩
  obtain ⟨same, ends⟩ := runs line "" .initial _ started least
  unfold runLine
  rw [run_bind, run_bind, run_modify]
  dsimp only
  rw [run_onExit, run_onExit, ← same]
  exact ⟨rfl, underway_runLine ends⟩

/-- A line that a command asks for. -/
theorem keeps_execute (runs : RunnersKeep setup.limits permits floor left right) (line : String) :
    Keeps setup.limits permits (Escapes permits) floor (execute left line)
      (execute right line) := by
  intro session ready least
  have inner : ¬(session.nesting == 0 && session.callDepth == 0) = true := by
    simpa using ready.active
  unfold execute
  rw [run_bind, run_bind, run_get]
  dsimp only
  rw [if_neg inner, if_neg inner]
  exact runLine_underway runs line ready.permitted ready.unbounded least

theorem keeps_perform_process {leftLine rightLine : String → Engine Outcome}
    (lines : ∀ line, Keeps setup.limits permits (fun _ => True) floor (leftLine line)
      (rightLine line)) {process : Process} (kept : process.Keeps permits) :
    Keeps setup.limits permits (fun _ => True) floor (perform leftLine process)
      (perform rightLine process) := by
  apply Keeps.of_agree
  intro start ready least
  have changed {world : World} (permitted : permits world.storage.refused) :
      Agree (underway setup.limits permits (fun _ => True) start)
        (modify fun session => { session with
          environment := world.environment, storage := world.storage })
        (modify fun session => { session with
          environment := world.environment, storage := world.storage }) := by
    apply Agree.modify
    intro session holds
    exact underway_of_reached holds permitted
      (.of_same holds.2.1.unbounded rfl rfl rfl rfl rfl) rfl
  induction process with
  | finished world result =>
      refine (changed kept).bind fun _ => ?_
      exact (keeps_ofFaulty fun _ _ => trivial).agree ready least
  | running world line resume inductionHypothesis =>
      refine (changed kept.1).bind fun _ => ?_
      refine ((lines line).agree ready least).bind fun outcome => ?_
      refine Agree.get_bind fun session holds => ?_
      exact inductionHypothesis _ _ (kept.2 _ outcome holds.1) session holds

/-- A call by name of anything but `local`. -/
theorem keeps_callByName (runs : RunnersKeep setup.limits permits floor left right)
    (commands : setup.Keeps permits) {name : String} (other : Builtin.ofName? name ≠ some .local)
    (arguments : List String) (stdin : String) :
    Keeps setup.limits permits (fun _ => True) floor (callByName setup left name arguments stdin)
      (callByName setup right name arguments stdin) := by
  have all : ∀ fault, Escapes permits fault → True := fun _ _ => trivial
  intro session ready least
  unfold callByName
  rw [run_bind, run_bind, run_get]
  dsimp only
  split
  · rename_i builtin _ _ _ _
    refine keeps_builtin ?_ arguments session ready least
    rintro rfl
    contradiction
  · exact (keeps_callFunction runs _ _ _ _).mono all session ready least
  · rename_i command _ _ found
    have lines (line : String) := (keeps_execute runs line).mono all
    refine keeps_perform_process lines ?_ session ready least
    exact commands _ command found _ _ _ ready.permitted
  · exact ⟨rfl, underway_refl ready⟩

theorem run_callByName_local {name : String} (declares : Builtin.ofName? name = some .local)
    (run : Runner) (arguments : List String) (stdin : String) (session : Session) :
    (callByName setup run name arguments stdin).run session =
      (Builtin.runLocal arguments).run session := by
  unfold callByName
  rw [run_bind, run_get]
  dsimp only
  rw [declares]
  rfl

/-- At the boundary of a call, no fault goes any further. -/
theorem tryCatch_underway {start session : Session} {work others : Engine Outcome} (name : String)
    (same : work.run session = others.run session)
    (ends : (underway setup.limits permits (fun _ => True) start).OfEnd (work.run session)) :
    (tryCatch work (atBoundary setup name)).run session =
        (tryCatch others (atBoundary setup name)).run session ∧
      (underway setup.limits permits (Escapes permits) start).OfEnd
        ((tryCatch work (atBoundary setup name)).run session) := by
  rw [run_tryCatch, run_tryCatch, ← same]
  refine ⟨rfl, ?_⟩
  rcases ran : work.run session with ⟨abort | outcome, after⟩
  · rw [ran] at ends
    cases abort with
    | limit message => exact ends
    | nestingSpent => exact ends.2.2.elim
    | fault fault =>
        obtain ⟨permitted, reached, -, count⟩ := ends
        have boundary : IsReporter "dispatch" := .inr (.inr rfl)
        refine ⟨permitted, reached.trans ?_, count⟩
        exact .of_record reached.unbounded boundary
  · rw [ran] at ends
    exact ends

/-- A call by name, with a note of what it declares. -/
theorem keeps_observed (runs : RunnersKeep setup.limits permits floor left right)
    (commands : setup.Keeps permits) (name : String) (arguments : List String) (stdin : String) :
    Keeps setup.limits permits (Escapes permits) floor
      (observed (dispatch setup left) name arguments stdin)
      (observed (dispatch setup right) name arguments stdin) := by
  intro session ready least
  unfold observed observe
  rw [run_bind, run_bind, run_modify]
  dsimp only
  -- Only a declaration is noted; every other call starts from the session as it is.
  by_cases declares : Builtin.ofName? name = some .local ∧ session.inFunction
  · have named : ¬(name.isEmpty && arguments.isEmpty) = true := by
      rintro empty
      rw [Bool.and_eq_true] at empty
      rw [String.isEmpty_iff.1 empty.1] at declares
      exact absurd declares.1 (by decide)
    rw [declaredBy, if_pos declares]
    unfold dispatch
    rw [if_neg named, if_neg named]
    apply tryCatch_underway
    · rw [run_callByName_local declares.1, run_callByName_local declares.1]
    · rw [run_callByName_local declares.1]
      exact keeps_runLocal_inside arguments ready declares.2
  · rw [declaredBy, if_neg declares]
    show (dispatch setup left name arguments stdin).run session = _ ∧ _
    unfold dispatch
    split
    · exact ⟨rfl, underway_refl ready⟩
    · by_cases isLocal : Builtin.ofName? name = some .local
      · apply tryCatch_underway
        · rw [run_callByName_local isLocal, run_callByName_local isLocal]
        · rw [run_callByName_local isLocal]
          exact keeps_runLocal_outside arguments ready fun inside => declares ⟨isLocal, inside⟩
      · obtain ⟨same, ends⟩ :=
          keeps_callByName runs commands isLocal arguments stdin session ready least
        exact tryCatch_underway name same ends

/-! ## Runs -/

/-- The session once one more run has been noted and counted. -/
def counted (session : Session) : Session :=
  { session.withJournal (session.journal.noting [.run]) with
    commandCount := session.commandCount + 1 }

theorem reached_counted (unbounded : session.journal.capacity = none) :
    Reached session (counted session) :=
  ⟨rfl, rfl, Journal.capacity_noting unbounded _, [.run], Journal.notes_noting unbounded _, rfl,
    fun _ _ _ => rfl, FramesReached.of_none fun _ => rfl⟩

theorem underway_discard {α : Type} {start session : Session} (result : Except Abort α)
    (name : String)
    (ends : (underway setup.limits permits (Escapes permits) start).OfEnd (result, session)) :
    (underway setup.limits permits (Escapes permits) start).OfEnd
      (result, session.discard name) := by
  have further (reached : Reached start session) : Reached start (session.discard name) :=
    reached.trans (.of_same reached.unbounded rfl rfl rfl rfl rfl)
  match result with
  | .error .nestingSpent => exact ends.2.2.elim
  | .ok _ | .error (.limit _) | .error (.fault _) =>
      exact ⟨ends.1, further ends.2.1, ends.2.2⟩

theorem run_runNoted (run : Runner) (text stdin : String) (lead : Lead) (session : Session) :
    (runNoted setup run text stdin lead).run session =
      if setup.limits.commandCount < (counted session).commandCount then
        (.error (.limit setup.limits.commandCountMessage), counted session)
      else (runRead setup ⟨run, observed (dispatch setup run)⟩ text stdin lead).run
        (counted session) := by
  unfold runNoted runText countRun observe
  simp only [run_bind, run_modify, run_get]
  by_cases beyond : setup.limits.commandCount < session.commandCount + 1
  · have late : setup.limits.commandCount < (counted session).commandCount := beyond
    simp only [if_pos late]
    exact if_pos beyond ▸ rfl
  · have early : ¬setup.limits.commandCount < (counted session).commandCount := beyond
    simp only [if_neg early]
    exact if_neg beyond ▸ rfl

/-- A run of a text starts others only if it has been counted without reaching the limit. -/
theorem runNoted_underway (commands : setup.Keeps permits) (ready : IsReady permits session)
    (runs : session.commandCount < setup.limits.commandCount →
      RunnersKeep setup.limits permits (session.commandCount + 1) left right)
    (text stdin : String) (lead : Lead) :
    (runNoted setup left text stdin lead).run session =
        (runNoted setup right text stdin lead).run session ∧
      (underway setup.limits permits (Escapes permits) session).OfEnd
        ((runNoted setup left text stdin lead).run session) := by
  have reached := reached_counted ready.unbounded
  have count : (counted session).commandCount = session.commandCount + 1 := rfl
  rw [run_runNoted, run_runNoted]
  split
  · rename_i beyond
    exact ⟨rfl, ready.permitted, reached, rfl, beyond, by omega⟩
  · rename_i within
    have next : IsReady permits (counted session) :=
      ⟨ready.active, ready.permitted, reached.unbounded⟩
    have kept := runs (by omega)
    have calls : CallsAgree (underway setup.limits permits (Escapes permits) (counted session))
        ⟨left, observed (dispatch setup left)⟩ ⟨right, observed (dispatch setup right)⟩ := by
      refine ⟨fun text stdin lead => ?_, fun name arguments stdin => ?_⟩
      · exact (kept text stdin lead).agree next (Nat.le_refl _)
      · exact (keeps_observed kept commands name arguments stdin).agree next (Nat.le_refl _)
    have alike : Alike setup setup ⟨left, observed (dispatch setup left)⟩
        ⟨right, observed (dispatch setup right)⟩ _ _ :=
      runRead_alike (Nat.le_refl _) text stdin lead
    obtain ⟨same, ends⟩ := alike.agree (fun step => step.keeps.agree next (Nat.zero_le _))
      (fun result session name => underway_discard result name) calls (counted session)
      (underway_refl next)
    have holds : (underway setup.limits permits (Escapes permits) session).between
        (counted session) := ⟨ready.permitted, reached, by omega⟩
    exact ⟨same, underway_trans holds ends⟩

/-- Runs with room for one more than the runs that are left keep to what a run may do, and
do the same with even more room. -/
theorem runObserved_keep (commands : setup.Keeps permits) {room other floor : Nat}
    (enough : 0 < room ∧ setup.limits.commandCount < room + floor)
    (plenty : 0 < other ∧ setup.limits.commandCount < other + floor) :
    RunnersKeep setup.limits permits floor (runObserved setup room) (runObserved setup other) := by
  -- What a run takes from the room it adds to the runs that have been counted.
  induction room generalizing other floor with
  | zero => omega
  | succ room inductionHypothesis =>
      cases other with
      | zero => omega
      | succ other =>
          intro text stdin lead session ready least
          apply runNoted_underway commands ready
          intro runsLeft
          apply inductionHypothesis
          · omega
          · omega

end

end Interpreter

end VirtualShell
