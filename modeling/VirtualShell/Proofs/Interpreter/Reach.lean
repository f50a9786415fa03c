import VirtualShell.Proofs.Interpreter.Observation

/-!
Contract: how far work can take a session.

Owns:
- `firstDeclared`, the value that a variable had before its first declaration among some notes;
- `Reached`, what lies between a session and a later one: nothing below the innermost local
  frame has changed, and this frame has got what was declared meanwhile;
- `localAll_of_frame`, what a declaration does to the frames, and `Reached.of_enterFunction`,
  that a call puts them back.

`Reached` only compares two sessions and is closed under going on, so what is known of the parts
of a run adds up to what is known of the whole.
-/

namespace VirtualShell.Interpreter

open VirtualShell.Engine VirtualShell.Fallible

/-- The value that a variable had before it was first declared among so many frames. -/
def firstDeclared (frames : Nat) (name : String) (notes : List Note) : Option (Option String) :=
  notes.findSome? fun note =>
    match note with
    | .run => none
    | .declaration count other value => if count = frames ∧ other = name then some value else none

theorem firstDeclared_append (frames : Nat) (name : String) (earlier later : List Note) :
    firstDeclared frames name (earlier ++ later) =
      (firstDeclared frames name earlier).or (firstDeclared frames name later) :=
  List.findSome?_append

/-- The innermost frame remembers what was declared among so many frames, unless it had done so
before; the others are as they were. -/
def FramesReached (notes : List Note) : List ScopeFrame → List ScopeFrame → Prop
  | [], after => after = []
  | frame :: outer, after => ∃ inner, after = inner :: outer ∧
      ∀ name, inner.get? name = (frame.get? name).or (firstDeclared (outer.length + 1) name notes)

theorem FramesReached.refl (scopes : List ScopeFrame) : FramesReached [] scopes scopes := by
  cases scopes with
  | nil => rfl
  | cons frame outer => exact ⟨frame, rfl, fun name => (Option.or_none).symm⟩

theorem FramesReached.trans {earlier later : List Note} {before middle after : List ScopeFrame}
    (first : FramesReached earlier before middle) (second : FramesReached later middle after) :
    FramesReached (earlier ++ later) before after := by
  cases before with
  | nil =>
      cases first
      exact second
  | cons frame outer =>
      obtain ⟨between, rfl, remembers⟩ := first
      obtain ⟨inner, rfl, goesOn⟩ := second
      refine ⟨inner, rfl, fun name => ?_⟩
      rw [goesOn, remembers, firstDeclared_append, Option.or_assoc]

theorem FramesReached.length_eq {notes : List Note} {before after : List ScopeFrame}
    (reached : FramesReached notes before after) : after.length = before.length := by
  cases before with
  | nil => exact congrArg List.length reached
  | cons frame outer =>
      obtain ⟨inner, rfl, -⟩ := reached
      rfl

/-- What lies between a session and a later one whose journal forgets nothing: the same calls
and lines are under way, every run that was counted has been noted, and what was declared went
into the innermost frame, or into one that is gone. -/
structure Reached (start session : Session) : Prop where
  nesting : session.nesting = start.nesting
  callDepth : session.callDepth = start.callDepth
  unbounded : session.journal.capacity = none
  noted : ∃ notes, session.journal.notes = start.journal.notes ++ notes ∧
    session.commandCount = start.commandCount + notes.count .run ∧
    (∀ frames name, frames < start.scopes.length → firstDeclared frames name notes = none) ∧
    FramesReached notes start.scopes session.scopes

namespace Reached

variable {start middle session after : Session}

/-- Nothing else is looked at. -/
theorem of_same (unbounded : after.journal.capacity = none)
    (nesting : after.nesting = session.nesting) (callDepth : after.callDepth = session.callDepth)
    (count : after.commandCount = session.commandCount) (scopes : after.scopes = session.scopes)
    (notes : after.journal.notes = session.journal.notes) : Reached session after := by
  refine ⟨nesting, callDepth, unbounded, [], ?_, count, fun _ _ _ => rfl, ?_⟩
  · rw [notes, List.append_nil]
  · rw [scopes]
    exact FramesReached.refl _

theorem refl (unbounded : session.journal.capacity = none) : Reached session session :=
  of_same unbounded rfl rfl rfl rfl rfl

/-- What the shell reports is no note. -/
theorem of_record (unbounded : session.journal.capacity = none) {entry : Entry}
    (reporter : IsReporter entry.source) :
    Reached session { session with journal := session.journal.record entry } := by
  refine of_same unbounded rfl rfl rfl rfl ?_
  rw [Journal.notes_record unbounded, note?_of_reporter reporter]
  exact List.append_nil _

theorem length_scopes (reached : Reached start session) :
    session.scopes.length = start.scopes.length := by
  obtain ⟨notes, -, -, -, scopes⟩ := reached.noted
  exact scopes.length_eq

theorem commandCount_le (reached : Reached start session) :
    start.commandCount ≤ session.commandCount := by
  obtain ⟨notes, -, count, -, -⟩ := reached.noted
  omega

theorem trans (first : Reached start middle) (second : Reached middle session) :
    Reached start session := by
  refine ⟨second.nesting.trans first.nesting, second.callDepth.trans first.callDepth,
    second.unbounded, ?_⟩
  have length := first.length_scopes
  obtain ⟨earlier, first, counted, below, scopes⟩ := first.noted
  obtain ⟨later, second, goesOn, belowToo, reached⟩ := second.noted
  refine ⟨earlier ++ later, ?_, ?_, ?_, scopes.trans reached⟩
  · rw [second, first, List.append_assoc]
  · rw [goesOn, counted, List.count_append, Nat.add_assoc]
  · intro frames name few
    rw [firstDeclared_append, below frames name few, belowToo frames name (by omega)]
    rfl

end Reached

/-! ## Declarations -/

theorem firstDeclared_cons (frames count : Nat) (name other : String) (value : Option String)
    (notes : List Note) :
    firstDeclared frames name (.declaration count other value :: notes) =
      if count = frames ∧ other = name then some value else firstDeclared frames name notes := by
  by_cases same : count = frames ∧ other = name
  · simp [firstDeclared, same]
  · simp [firstDeclared, same]

/-- Declarations among so many frames do not concern others. -/
theorem firstDeclared_declarations {frames count : Nat} (other : count ≠ frames) (name : String)
    (environment : Environment) (arguments : List String) :
    firstDeclared frames name (declarations count environment arguments) = none := by
  induction arguments generalizing environment with
  | nil => rfl
  | cons argument rest inductionHypothesis =>
      unfold declarations
      dsimp only
      split
      · rw [firstDeclared_cons, if_neg fun same => other same.1]
        exact inductionHypothesis _
      · exact inductionHypothesis _

theorem count_declarations (frames : Nat) (environment : Environment) (arguments : List String) :
    (declarations frames environment arguments).count .run = 0 := by
  induction arguments generalizing environment with
  | nil => rfl
  | cons argument rest inductionHypothesis =>
      unfold declarations
      dsimp only
      split
      · rw [List.count_cons, inductionHypothesis]
        rfl
      · exact inductionHypothesis _

/-- A frame remembers the first value of a name only. -/
theorem recordLocal_of_frame {session : Session} {frame : ScopeFrame} {outer : List ScopeFrame}
    (scopes : session.scopes = frame :: outer) (declared : String) :
    ∃ inner : ScopeFrame,
      session.recordLocal declared = { session with scopes := inner :: outer } ∧
      ∀ name, inner.get? name =
        (frame.get? name).or
          (if declared = name then some (session.environment.get? declared) else none) := by
  unfold Session.recordLocal
  rw [scopes]
  dsimp only
  by_cases known : frame.contains declared
  · rw [if_pos known]
    refine ⟨frame, by rw [← scopes], fun name => ?_⟩
    split
    · rename_i same
      obtain ⟨value, found⟩ := Option.isSome_iff_exists.1 known
      rw [← same, found]
      rfl
    · exact (Option.or_none).symm
  · rw [if_neg known]
    refine ⟨_, rfl, fun name => ?_⟩
    rw [Table.get?_insert]
    split
    · rename_i same
      rw [← same, Option.not_isSome_iff_eq_none.1 known]
      rfl
    · exact (Option.or_none).symm

/-- What `local` declares goes into the innermost frame, with the value that each name had
before. -/
theorem localAll_of_frame {session : Session} {frame : ScopeFrame} {outer : List ScopeFrame}
    (scopes : session.scopes = frame :: outer) (arguments : List String) :
    ∃ (inner : ScopeFrame) (environment : Environment),
      (Builtin.localAll session arguments).1 =
        { session with scopes := inner :: outer, environment := environment } ∧
      ∀ name, inner.get? name = (frame.get? name).or
        (firstDeclared (outer.length + 1) name
          (declarations (outer.length + 1) session.environment arguments)) := by
  induction arguments generalizing session frame with
  | nil =>
      refine ⟨frame, session.environment, ?_, fun name => (Option.or_none).symm⟩
      rw [← scopes]
      rfl
  | cons argument rest inductionHypothesis =>
      unfold Builtin.localAll declarations
      dsimp only
      by_cases valid : isName (cutAtEquals argument).1
      · rw [if_neg (by simp [valid]), if_pos valid]
        obtain ⟨between, recorded, remembers⟩ :=
          recordLocal_of_frame scopes (cutAtEquals argument).1
        rw [recorded]
        obtain ⟨inner, environment, declared, goesOn⟩ := @inductionHypothesis
          { session with
            scopes := between :: outer
            environment := Builtin.declare session.environment (cutAtEquals argument).1
              (cutAtEquals argument).2 } between rfl
        refine ⟨inner, environment, declared, fun name => ?_⟩
        -- The other arguments find the frame with this one in it, and each has its say in turn.
        rw [goesOn, remembers, firstDeclared_cons, Option.or_assoc]
        by_cases same : (cutAtEquals argument).1 = name
        · simp [same]
        · simp [same]
      · rw [if_pos (by simp [valid]), if_neg valid]
        exact inductionHypothesis scopes

/-! ## Calls of functions -/

theorem FramesReached.of_none {notes : List Note} {scopes : List ScopeFrame}
    (none : ∀ name, firstDeclared scopes.length name notes = none) :
    FramesReached notes scopes scopes := by
  cases scopes with
  | nil => rfl
  | cons frame outer =>
      refine ⟨frame, rfl, fun name => ?_⟩
      rw [show firstDeclared (outer.length + 1) name notes = _ from none name, Option.or_none]

theorem popScopesTo_of_frame {session : Session} {frame : ScopeFrame} {outer : List ScopeFrame}
    (scopes : session.scopes = frame :: outer) :
    Session.popScopesTo outer.length session =
      { session with
        scopes := outer
        environment := Session.restoreAll session.environment frame.entries } := by
  have popped : session.popScope = { session with
      scopes := outer
      environment := Session.restoreAll session.environment frame.entries } := by
    unfold Session.popScope
    rw [scopes]
  rw [Session.popScopesTo, if_neg (by simp [scopes]), popped, Session.popScopesTo,
    if_pos (Nat.le_refl _)]

/-- A call that has only reached what its body may reach closes its own frame. -/
theorem Reached.exists_leaveFunction {session after : Session} {arguments : List String}
    (reached : Reached (session.enterFunction arguments) after)
    (hidden : List (String × Option String)) :
    ∃ environment, after.leaveFunction session.callDepth session.scopes.length hidden =
      { after with
        callDepth := session.callDepth
        scopes := session.scopes
        environment := environment } := by
  obtain ⟨notes, -, -, -, inner, scopes, -⟩ := reached.noted
  have closed : Session.popScopesTo session.scopes.length
      { after with callDepth := session.callDepth } = _ := popScopesTo_of_frame scopes
  unfold Session.leaveFunction
  rw [closed]
  exact ⟨_, rfl⟩

/-- A call that has only reached what its body may reach leaves its caller where it was. -/
theorem Reached.of_enterFunction {session after : Session} {arguments : List String}
    (reached : Reached (session.enterFunction arguments) after) (environment : Environment) :
    Reached session
      { after with
        callDepth := session.callDepth
        scopes := session.scopes
        environment := environment } := by
  obtain ⟨notes, same, count, below, -⟩ := reached.noted
  refine ⟨reached.nesting, rfl, reached.unbounded, notes, same, count, ?_, ?_⟩
  · intro frames name few
    exact below frames name (Nat.lt_succ_of_lt few)
  · exact FramesReached.of_none fun name => below _ name (Nat.lt_succ_self _)

end VirtualShell.Interpreter
