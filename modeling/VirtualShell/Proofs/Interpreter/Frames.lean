import VirtualShell.Proofs.Interpreter.Agreement

/-!
Contract: what a call by name does to the calls, local frames and lines under way.

Owns:
- `Session.HasFrames`, that so many calls are active, each with its frame, and so many
  lines; what entering and leaving a function and closing frames does to them.
- `Interpreter.framed`, this as a condition on work, and that builtins, functions and
  commands keep it.

A run that there is no room for leaves the frame of its call behind. The condition has a
parameter that rules such runs out; without it, nothing is known of a session once a
limit has cut the work short.
-/

namespace VirtualShell

/-- `depth` calls are active, each with its frame, and `nesting` lines; the number of runs
so far is as `counts` says. -/
structure Session.HasFrames (counts : Nat → Prop) (depth nesting : Nat) (session : Session) :
    Prop where
  callDepth : session.callDepth = depth
  scopes : session.scopes.length = depth
  nesting : session.nesting = nesting
  count : counts session.commandCount

/-! ## Frames -/

namespace Session

variable {counts : Nat → Prop} {depth nesting : Nat} {session : Session}

/-- Only the calls, the frames, the lines and the number of runs matter. -/
theorem HasFrames.congr (frames : session.HasFrames counts depth nesting) {other : Session}
    (callDepth : other.callDepth = session.callDepth)
    (scopes : other.scopes.length = session.scopes.length)
    (lines : other.nesting = session.nesting)
    (count : other.commandCount = session.commandCount) :
    other.HasFrames counts depth nesting :=
  ⟨callDepth.trans frames.callDepth, scopes.trans frames.scopes, lines.trans frames.nesting,
    count.symm ▸ frames.count⟩

theorem popScope_keeps (session : Session) :
    session.popScope.callDepth = session.callDepth ∧
      session.popScope.scopes.length = session.scopes.length - 1 ∧
      session.popScope.nesting = session.nesting ∧
      session.popScope.commandCount = session.commandCount := by
  unfold popScope
  split <;> rename_i scopes
  · simp [scopes]
  · simp [scopes]

/-- Closing the frames above `count` leaves `count` of them. -/
theorem popScopesTo_keeps {count : Nat} (atLeast : count ≤ session.scopes.length) :
    (popScopesTo count session).callDepth = session.callDepth ∧
      (popScopesTo count session).scopes.length = count ∧
      (popScopesTo count session).nesting = session.nesting ∧
      (popScopesTo count session).commandCount = session.commandCount := by
  fun_induction popScopesTo count session with
  | case1 session few => exact ⟨rfl, Nat.le_antisymm few atLeast, rfl, rfl⟩
  | case2 session many inductionHypothesis =>
      obtain ⟨callDepth, scopes, lines, runs⟩ := popScope_keeps session
      have keeps := inductionHypothesis (by omega)
      rwa [callDepth, lines, runs] at keeps

theorem hasFrames_enterFunction (frames : session.HasFrames counts depth nesting)
    (arguments : List String) :
    (session.enterFunction arguments).HasFrames counts (depth + 1) nesting :=
  ⟨congrArg (· + 1) frames.callDepth, congrArg (· + 1) frames.scopes, frames.nesting,
    frames.count⟩

theorem hasFrames_leaveFunction (frames : session.HasFrames counts (depth + 1) nesting)
    (hidden : List (String × Option String)) :
    (session.leaveFunction depth depth hidden).HasFrames counts depth nesting := by
  have atLeast : depth ≤ { session with callDepth := depth : Session }.scopes.length := by
    simp [frames.scopes]
  obtain ⟨callDepth, scopes, lines, runs⟩ := popScopesTo_keeps atLeast
  exact ⟨callDepth, scopes, lines.trans frames.nesting, runs.symm ▸ frames.count⟩

theorem hasFrames_recordLocal (frames : session.HasFrames counts depth nesting) (name : String) :
    (session.recordLocal name).HasFrames counts depth nesting := by
  unfold recordLocal
  split
  · exact frames
  · rename_i frame outer scopes
    split
    · exact frames
    · exact frames.congr rfl (by simp [scopes]) rfl rfl

end Session

namespace Builtin

variable {counts : Nat → Prop} {depth nesting : Nat} {session : Session}

theorem hasFrames_unsetAll (frames : session.HasFrames counts depth nesting) (functions : Bool)
    (names : List String) :
    (unsetAll functions session names).HasFrames counts depth nesting := by
  fun_induction unsetAll functions session names with
  | case1 => exact frames
  | case2 functions session rest inductionHypothesis => exact inductionHypothesis frames
  | case3 functions session rest inductionHypothesis => exact inductionHypothesis frames
  | case4 functions session name rest _ _ inductionHypothesis =>
      apply inductionHypothesis
      split <;> exact frames.congr rfl rfl rfl rfl

theorem hasFrames_localAll (frames : session.HasFrames counts depth nesting)
    (arguments : List String) :
    (localAll session arguments).1.HasFrames counts depth nesting := by
  induction arguments generalizing session with
  | nil => exact frames
  | cons argument rest inductionHypothesis =>
      unfold localAll
      dsimp only
      split
      · exact inductionHypothesis frames
      · have recorded := Session.hasFrames_recordLocal frames (cutAtEquals argument).1
        exact inductionHypothesis (recorded.congr rfl rfl rfl rfl)

end Builtin

/-! ## The condition -/

namespace Interpreter

open VirtualShell.Engine VirtualShell.Fallible

/-- `depth` calls are active, no more than allowed, and `nesting` lines, and the number of
runs so far is as `counts` says. A fault leaves this as it was; a limit leaves the calls
and lines as they were if runs never lack room, which `roomy` says. -/
def framed (limits : Limits) (roomy : Prop) (counts : Nat → Prop) (depth nesting : Nat) :
    Condition where
  between session := depth ≤ limits.callDepth ∧ session.HasFrames counts depth nesting
  afterwards abort session :=
    match abort with
    | .fault _ => depth ≤ limits.callDepth ∧ session.HasFrames counts depth nesting
    | .limit _ => roomy → session.HasFrames (fun _ => True) depth nesting
    | .nestingSpent => ¬roomy

section

variable {setup : Setup} {limits : Limits} {roomy : Prop} {counts : Nat → Prop}
  {depth nesting : Nat} {left right : Runner}

theorem steady_framed : Steady (framed limits roomy counts depth nesting) where
  storage _ _ holds := ⟨holds.1, holds.2.congr rfl rfl rfl rfl⟩
  environment _ _ holds := ⟨holds.1, holds.2.congr rfl rfl rfl rfl⟩
  functions _ _ holds := ⟨holds.1, holds.2.congr rfl rfl rfl rfl⟩
  lastExitCode _ _ holds := ⟨holds.1, holds.2.congr rfl rfl rfl rfl⟩
  journal _ _ holds := ⟨holds.1, holds.2.congr rfl rfl rfl rfl⟩
  fault _ _ holds := holds
  discarded abort session name holds := by
    cases abort with
    | fault fault => exact ⟨holds.1, holds.2.congr rfl rfl rfl rfl⟩
    | limit message => exact fun room => (holds room).congr rfl rfl rfl rfl
    | nestingSpent => exact holds

/-! ## Builtins -/

theorem runCd_framed (arguments : List String) :
    Agree (framed limits roomy counts depth nesting) (Builtin.runCd arguments)
      (Builtin.runCd arguments) := by
  refine Agree.get.bind fun session => ?_
  refine (Agree.attempt steady_framed.storage).bind fun result => ?_
  split
  · exact Agree.pure _
  · exact Agree.throw fun _ holds => holds
  · split
    · exact Agree.pure _
    · refine (Agree.modify ?_).bind fun _ => Agree.pure _
      intro session holds
      exact ⟨holds.1, holds.2.congr rfl rfl rfl rfl⟩

theorem runExport_framed (arguments : List String) :
    Agree (framed limits roomy counts depth nesting) (Builtin.runExport arguments)
      (Builtin.runExport arguments) := by
  refine Agree.get_bind fun session holds => ?_
  dsimp only
  split
  · exact ⟨rfl, holds⟩
  · exact ⟨rfl, holds.1, holds.2.congr rfl rfl rfl rfl⟩

theorem runLocal_framed (arguments : List String) :
    Agree (framed limits roomy counts depth nesting) (Builtin.runLocal arguments)
      (Builtin.runLocal arguments) := by
  refine Agree.get_bind fun session holds => ?_
  dsimp only
  split
  · exact ⟨rfl, holds⟩
  · exact ⟨rfl, holds.1, Builtin.hasFrames_localAll holds.2 arguments⟩

theorem builtin_framed (builtin : Builtin) (arguments : List String) :
    Agree (framed limits roomy counts depth nesting) (builtin.run arguments)
      (builtin.run arguments) := by
  cases builtin with
  | cd => exact runCd_framed arguments
  | «export» => exact runExport_framed arguments
  | unset =>
      refine (Agree.modify ?_).bind fun _ => Agree.pure _
      intro session holds
      exact ⟨holds.1, Builtin.hasFrames_unsetAll holds.2 false arguments⟩
  | exit => exact Agree.pure _
  | «local» => exact runLocal_framed arguments

/-! ## Functions and commands -/

/-- Two ways of running a text agree as long as at least one line is under way, whatever
else is. -/
def RunnersAgree (limits : Limits) (roomy : Prop) (counts : Nat → Prop) (left right : Runner) :
    Prop :=
  ∀ depth nesting text stdin lead, 0 < nesting →
    Agree (framed limits roomy counts depth nesting) (left text stdin lead)
      (right text stdin lead)

/-- A call leaves the calls and frames of its caller. -/
theorem callFunction_framed (runs : RunnersAgree setup.limits roomy counts left right)
    (active : 0 < nesting) (name body : String) (arguments : List String) (stdin : String) :
    Agree (framed setup.limits roomy counts depth nesting)
      (callFunction setup left name body arguments stdin)
      (callFunction setup right name body arguments stdin) := by
  refine Agree.get_bind fun session holds => ?_
  dsimp only
  split
  · exact (record_agree steady_framed _ _ _).bind (fun _ => Agree.pure _) session holds
  · rename_i shallow
    have frames := holds.2
    have allowed : depth + 1 ≤ setup.limits.callDepth := by
      rw [frames.callDepth] at shallow
      omega
    rw [run_bind, run_bind, run_set]
    refine Agree.onExit (runs (depth + 1) nesting body stdin .initial active) ?_
      ⟨allowed, Session.hasFrames_enterFunction frames arguments⟩
    intro result after ends
    -- The depth and the number of frames that are put back are those of the caller.
    rw [frames.callDepth, frames.scopes]
    match result with
    | .ok _ => exact ⟨holds.1, Session.hasFrames_leaveFunction ends.2 _⟩
    | .error (.fault _) => exact ⟨holds.1, Session.hasFrames_leaveFunction ends.2 _⟩
    | .error (.limit _) => exact fun room => Session.hasFrames_leaveFunction (ends room) _
    | .error .nestingSpent => exact ends

/-- A line under way is under way no more when it has ended. -/
theorem runLine_framed (runs : RunnersAgree limits roomy counts left right) (line : String) :
    Agree (framed limits roomy counts depth nesting) (runLine left line)
      (runLine right line) := by
  intro session holds
  have started : (framed limits roomy counts depth (nesting + 1)).between
      { session with nesting := session.nesting + 1 } :=
    ⟨holds.1, holds.2.callDepth, holds.2.scopes, congrArg (· + 1) holds.2.nesting, holds.2.count⟩
  unfold runLine
  rw [run_bind, run_bind, run_modify]
  refine Agree.onExit (runs depth (nesting + 1) line "" .initial (Nat.succ_pos _)) ?_ started
  have ended {counts : Nat → Prop} {session : Session}
      (inner : session.HasFrames counts depth (nesting + 1)) :
      Session.HasFrames counts depth nesting { session with nesting := session.nesting - 1 } :=
    ⟨inner.callDepth, inner.scopes, by simp [inner.nesting], inner.count⟩
  intro result session ends
  match result with
  | .ok _ => exact ⟨ends.1, ended ends.2⟩
  | .error (.fault _) => exact ⟨ends.1, ended ends.2⟩
  | .error (.limit _) => exact fun room => ended (ends room)
  | .error .nestingSpent => exact ends

/-- A line that a command asks for. -/
theorem execute_framed (runs : RunnersAgree limits roomy counts left right) (active : 0 < nesting)
    (line : String) :
    Agree (framed limits roomy counts depth nesting) (execute left line)
      (execute right line) := by
  refine Agree.get_bind fun session holds => ?_
  have inner : (session.nesting == 0 && session.callDepth == 0) = false := by
    rw [holds.2.nesting]
    simp [Nat.ne_of_gt active]
  rw [inner]
  exact runLine_framed runs line session holds

theorem callByName_framed (runs : RunnersAgree setup.limits roomy counts left right)
    (active : 0 < nesting) (name : String) (arguments : List String) (stdin : String) :
    Agree (framed setup.limits roomy counts depth nesting)
      (callByName setup left name arguments stdin)
      (callByName setup right name arguments stdin) := by
  refine Agree.get.bind fun session => ?_
  split
  · exact builtin_framed _ _
  · exact callFunction_framed runs active _ _ _ _
  · exact perform_agree steady_framed (execute_framed runs active) _
  · exact Agree.pure _

/-- What a call by name does to the frames is undone when it ends. -/
theorem dispatch_framed (runs : RunnersAgree setup.limits roomy counts left right)
    (active : 0 < nesting) (name : String) (arguments : List String) (stdin : String) :
    Agree (framed setup.limits roomy counts depth nesting)
      (dispatch setup left name arguments stdin)
      (dispatch setup right name arguments stdin) := by
  unfold dispatch
  split
  · exact Agree.pure _
  · refine Agree.tryCatch (callByName_framed runs active _ _ _) ?_
    intro abort session ends
    cases abort with
    | limit message => exact ends
    | nestingSpent => exact fun room => absurd room ends
    | fault fault =>
        exact ((record_agree steady_framed _ _ _).bind (fun _ => Agree.pure _) session ends).2

/-! ## Texts -/

theorem framed_mono {earlier : Nat → Prop} (weaker : ∀ count, counts count → earlier count)
    {result : Except Abort Outcome × Session}
    (ends : (framed limits roomy counts depth nesting).OfEnd result) :
    (framed limits roomy earlier depth nesting).OfEnd result := by
  obtain ⟨result, session⟩ := result
  have weaken (frames : session.HasFrames counts depth nesting) :
      session.HasFrames earlier depth nesting :=
    ⟨frames.callDepth, frames.scopes, frames.nesting, weaker _ frames.count⟩
  match result with
  | .ok _ => exact ⟨ends.1, weaken ends.2⟩
  | .error (.fault _) => exact ⟨ends.1, weaken ends.2⟩
  | .error (.limit _) => exact ends
  | .error .nestingSpent => exact ends

/-- Counting a run may change what is known of the number of runs. -/
theorem runText_framed {earlier : Nat → Prop} {calls others : Calls}
    (counted : ∀ count, earlier count → count + 1 ≤ setup.limits.commandCount → counts (count + 1))
    (uncounted : ∀ count, counts count → earlier count)
    (agree : CallsAgree (framed setup.limits roomy counts depth nesting) calls others)
    (text stdin : String) (lead : Lead) :
    Agree (framed setup.limits roomy earlier depth nesting) (runText setup calls text stdin lead)
      (runText setup others text stdin lead) := by
  intro session holds
  have frames := holds.2
  unfold runText countRun
  simp only [run_bind, run_modify, run_get]
  by_cases beyond : setup.limits.commandCount < session.commandCount + 1
  · simp only [if_pos beyond, run_throw]
    exact ⟨trivial, fun _ => ⟨frames.callDepth, frames.scopes, frames.nesting, trivial⟩⟩
  · simp only [if_neg beyond, run_pure]
    have count := counted _ frames.count (Nat.not_lt.1 beyond)
    obtain ⟨same, ends⟩ := runRead_agree steady_framed agree text stdin lead
      { session with commandCount := session.commandCount + 1 }
      ⟨holds.1, frames.callDepth, frames.scopes, frames.nesting, count⟩
    exact ⟨same, framed_mono uncounted ends⟩

end

end Interpreter

end VirtualShell
