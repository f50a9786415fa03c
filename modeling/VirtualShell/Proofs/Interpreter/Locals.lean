import VirtualShell.Proofs.Interpreter.Escape
import VirtualShell.Proofs.Session

/-!
Contract: what becomes of the local variables of a call.

Owns:
- `HasRoomToCall`, that no run lacks room while a function is called;
- `get?_leaveFunction_of_declared`, that leaving a call puts back what its frame remembers;
- `callFunction_restores_locals`: after a call, each variable that was declared local in it is
  what it was before its first declaration there.

An observed run tells which declarations there were. They come with the number of frames at the
time, and this number tells one call under way from another.
-/

namespace VirtualShell.Interpreter

open VirtualShell.Engine VirtualShell.Fallible

/-- No run lacks room while a function is called: nothing depends on what stands in for such a
run. -/
def HasRoomToCall (setup : Setup) (room : Nat) (name body : String) (arguments : List String)
    (stdin : String) (session : Session) : Prop :=
  ∀ spent, (callFunction setup (runAbove setup spent room) name body arguments stdin).run session =
    (callFunction setup (run setup room) name body arguments stdin).run session

section

variable {setup : Setup} {session after : Session} {arguments : List String}

/-- While a line is under way, no run lacks room where more runs can nest than it may make. -/
theorem hasRoomToCall_of_commandCount_lt {room depth nesting : Nat}
    (enough : setup.limits.commandCount < room) (allowed : depth ≤ setup.limits.callDepth)
    (active : 0 < nesting)
    (frames : session.HasFrames (· ≤ setup.limits.commandCount) depth nesting)
    (name body : String) (arguments : List String) (stdin : String) :
    HasRoomToCall setup room name body arguments stdin session := by
  intro spent
  rw [run_eq_runAbove]
  have counted : session.HasFrames
      (fun count => count ≤ setup.limits.commandCount ∧ setup.limits.commandCount < room + count)
      depth nesting :=
    ⟨frames.callDepth, frames.scopes, frames.nesting, frames.count, by omega⟩
  exact (callFunction_framed (runAbove_agree spent _ room) active name body arguments stdin session
    ⟨allowed, counted⟩).1

/-- Leaving a call puts back the values that its frame remembers, which are those before the
first declarations in it. -/
theorem get?_leaveFunction_of_declared (quiet : session.journal.notes = [])
    (reached : Reached (session.enterFunction arguments) after) {variableName : String}
    (valid : isName variableName = true) {value : Option String}
    (declared : firstDeclared (session.scopes.length + 1) variableName after.journal.notes =
      some value) :
    (after.leaveFunction session.callDepth session.scopes.length
      (Session.hiddenValues session.environment arguments.length)).environment.get? variableName =
        value := by
  obtain ⟨notes, noted, -, -, frame, scopes, remembers⟩ := reached.noted
  have same : after.journal.notes = notes := by
    rw [noted]
    exact congrArg (· ++ notes) quiet
  have remembered : frame.get? variableName = some value := by
    rw [remembers, ← same, declared]
    rfl
  have closed : Session.popScopesTo session.scopes.length
      { after with callDepth := session.callDepth } = _ := popScopesTo_of_frame scopes
  rw [Session.get?_leaveFunction_of_not_parameter (Session.isParameter_of_isName valid), closed]
  have entry : (variableName, value) ∈ frame.entries := Table.mem_entries_iff.2 remembered
  apply Session.get?_restoreAll_of_forall
  · exact List.mem_map.2 ⟨_, entry, rfl⟩
  · -- A frame has one entry for each name.
    rintro ⟨other, saved⟩ member rfl
    have found := Table.mem_entries_iff.1 member
    rw [remembered] at found
    exact (Option.some.inj found).symm

theorem get?_callFunction_of_declared {permits : List FileOperation → Prop}
    {left right : Runner} (runs : RunnersKeep setup.limits permits 0 left right)
    (permitted : permits session.storage.refused) (unbounded : session.journal.capacity = none)
    (quiet : session.journal.notes = []) {name body stdin : String} {result : Except Abort Outcome}
    (ran : (callFunction setup left name body arguments stdin).run session = (result, after))
    {variableName : String} (valid : isName variableName = true) {value : Option String}
    (declared : firstDeclared (session.scopes.length + 1) variableName after.journal.notes =
      some value) :
    after.environment.get? variableName = value := by
  rw [run_callFunction] at ran
  split at ran
  · -- Nothing is declared by a call that is too deep.
    cases ran
    have guard : IsReporter "guard" := .inr (.inl rfl)
    rw [Journal.notes_record unbounded, quiet, note?_of_reporter guard] at declared
    cases declared
  · have entered : IsReady permits (session.enterFunction arguments) :=
      ⟨fun idle => Nat.succ_ne_zero _ idle.2, permitted, unbounded⟩
    obtain ⟨-, ends⟩ := runs body stdin .initial _ entered (Nat.zero_le _)
    rcases inner : (left body stdin .initial).run (session.enterFunction arguments) with
      ⟨ended, last⟩
    rw [inner] at ends ran
    obtain ⟨reached, roomy⟩ := reached_of_underway ends
    dsimp only at ran
    rw [leaving_of_ne roomy] at ran
    obtain ⟨environment, same⟩ := reached.exists_leaveFunction
      (Session.hiddenValues session.environment arguments.length)
    cases ran
    apply get?_leaveFunction_of_declared quiet reached valid
    rw [same] at declared
    exact declared

end

/-- Let a function be called in any session, without any run that lacks room. Observing the call
changes nothing about it, and tells which variables were declared local while its own frame was
the innermost one. After the call, however it ends, each of them has the value that it had right
before the first of these declarations, or is unset if it was unset then. -/
theorem callFunction_restores_locals (setup : Setup) (room : Nat) (name body : String)
    (arguments : List String) (stdin : String) (session : Session)
    (roomy : HasRoomToCall setup room name body arguments stdin session) :
    ∃ result after,
      (∀ enough, setup.limits.commandCount < enough →
        (callFunction setup (runObserved setup enough) name body arguments stdin).run
          (session.withJournal (.empty none)) = (result, after)) ∧
      (callFunction setup (run setup room) name body arguments stdin).run session =
        (result, after.withJournal (after.journal.events.foldl Journal.record session.journal)) ∧
      ∀ variableName value, isName variableName = true →
        firstDeclared (session.scopes.length + 1) variableName after.journal.notes = some value →
          after.environment.get? variableName = value := by
  -- Commands may do what they like with the storage.
  have commands : setup.Keeps fun _ => True := setup.keeps_of_forall fun _ => trivial
  have runs (enough : Nat) (more : setup.limits.commandCount < enough) :
      RunnersKeep setup.limits (fun _ => True) 0 (runObserved setup enough)
        (runObserved setup (setup.limits.commandCount + 1 + room)) := by
    apply runObserved_keep commands
    · omega
    · omega
  let start := session.withJournal (.empty none)
  have unbounded : start.journal.capacity = none := rfl
  rcases ran : (callFunction setup (runObserved setup (setup.limits.commandCount + 1 + room))
    name body arguments stdin).run start with ⟨result, after⟩
  refine ⟨result, after, fun enough more => ?_, ?_, fun variableName value valid declared => ?_⟩
  · rw [← ran]
    exact (callFunction_underway (runs enough more) name body arguments stdin trivial unbounded
      (Nat.zero_le _)).1
  · -- No run lacks room, so there might as well be room for every run that is allowed.
    rw [← roomy (run setup (setup.limits.commandCount + 1)), runAbove_run, run_of_noted
      (callFunction_follows (carries_noted setup) (runObserved_follows _) name body arguments
        stdin), ran]
  · exact get?_callFunction_of_declared (runs _ (by omega)) trivial unbounded rfl ran valid declared

/-- Declares a variable again and again, until the budget is spent. -/
def homeless : String := "local HOME=x; while cd /; do local HOME=y; done"

theorem callFunction_restores_locals_homeless :
    HasRoomToCall ⟨⟨100, 5, 5⟩, .empty⟩ 6 "f" homeless [] ""
        { bareShell.session with nesting := 1 } ∧
      ∃ result after,
        (callFunction ⟨⟨100, 5, 5⟩, .empty⟩ (runObserved ⟨⟨100, 5, 5⟩, .empty⟩ 6) "f" homeless []
            "").run (Session.withJournal { bareShell.session with nesting := 1 } (.empty none)) =
          (result, after) ∧
        (callFunction ⟨⟨100, 5, 5⟩, .empty⟩ (run ⟨⟨100, 5, 5⟩, .empty⟩ 6) "f" homeless [] "").run
            { bareShell.session with nesting := 1 } =
          (result, after.withJournal
            (after.journal.events.foldl Journal.record bareShell.session.journal)) ∧
        isName "HOME" = true ∧
        firstDeclared 1 "HOME" after.journal.notes = some (some "/") ∧
        after.environment.get? "HOME" = some "/" := by
  have frames : Session.HasFrames (· ≤ 5) 0 1 { bareShell.session with nesting := 1 } :=
    ⟨rfl, rfl, rfl, Nat.zero_le _⟩
  have room : HasRoomToCall ⟨⟨100, 5, 5⟩, .empty⟩ 6 "f" homeless [] ""
      { bareShell.session with nesting := 1 } :=
    hasRoomToCall_of_commandCount_lt (by decide) (Nat.zero_le _) (by decide) frames _ _ _ _
  obtain ⟨result, after, observed, plain, restores⟩ :=
    callFunction_restores_locals _ _ _ _ _ _ _ room
  have ended := observed 6 (by decide)
  have declared : firstDeclared 1 "HOME" ((callFunction ⟨⟨100, 5, 5⟩, .empty⟩
      (runObserved ⟨⟨100, 5, 5⟩, .empty⟩ 6) "f" homeless [] "").run
        (Session.withJournal
          { bareShell.session with nesting := 1 } (.empty none))).2.journal.notes =
          some (some "/") := by
    decide +kernel
  rw [ended] at declared
  have valid : isName "HOME" = true := by decide +kernel
  exact ⟨room, result, after, ended, plain, valid, declared, restores "HOME" _ valid declared⟩

end VirtualShell.Interpreter
