import VirtualShell.Proofs.Interpreter.Traversal

/-!
Contract: running a statement does nothing to the session but what its parts do.

Owns:
- `Interpreter.Steady`, the steps of running a statement that a condition has to allow:
  they change the storage, the variables, the functions, the journal and the last exit
  code, and nothing else.
- `Interpreter.runRead_agree`: if two pairs of calls agree under a steady condition, so
  do the runs of a text in terms of them.

Work that agrees follows itself with the same journal, so all of this is a case of
`Interpreter.runRead_follows`.
-/

namespace VirtualShell.Interpreter

open VirtualShell.Engine

/-- The steps of running a statement, as far as they touch the session, keep a condition. -/
structure Steady (condition : Condition) : Prop where
  storage : ∀ session storage,
    condition.between session → condition.between { session with storage := storage }
  environment : ∀ session environment,
    condition.between session → condition.between { session with environment := environment }
  functions : ∀ session functions,
    condition.between session → condition.between { session with functions := functions }
  lastExitCode : ∀ session code,
    condition.between session → condition.between { session with lastExitCode := code }
  journal : ∀ session journal,
    condition.between session → condition.between { session with journal := journal }
  fault : ∀ fault session,
    condition.between session → condition.afterwards (.fault fault) session
  discarded : ∀ abort session name,
    condition.afterwards abort session → condition.afterwards abort (session.discard name)

/-- Two pairs of calls agree whatever they are asked to run. -/
structure CallsAgree (condition : Condition) (left right : Calls) : Prop where
  run : ∀ text stdin lead, Agree condition (left.run text stdin lead) (right.run text stdin lead)
  dispatch : ∀ name arguments stdin,
    Agree condition (left.dispatch name arguments stdin) (right.dispatch name arguments stdin)

section

variable {setup : Setup} {condition : Condition} {left right : Calls}

theorem Steady.stable (steady : Steady condition) : Stable (.diagonal condition) where
  storage _ _ _ holds := ⟨holds.1, steady.storage _ _ holds.2⟩
  environment _ _ _ holds := ⟨holds.1, steady.environment _ _ holds.2⟩
  functions _ _ _ holds := ⟨holds.1, steady.functions _ _ holds.2⟩
  lastExitCode _ _ _ holds := ⟨holds.1, steady.lastExitCode _ _ holds.2⟩
  record _ entry _ _ holds :=
    ⟨congrArg (Journal.record · entry) holds.1, steady.journal _ _ holds.2⟩
  fault _ _ _ holds := ⟨holds.1, steady.fault _ _ holds.2⟩
  discarded _ _ _ _ holds := ⟨holds.1, steady.discarded _ _ _ holds.2⟩
  spoiled _ _ spoiled := spoiled

/-- With the same limits on both sides, a loop ends where the other one does. -/
theorem Steady.loops (steady : Steady condition) (setup : Setup) :
    LoopsFollow (.diagonal condition) setup setup where
  passes := Nat.le_refl _
  breach name before right same := by
    rw [same rfl]
    exact (record_follows steady.stable (.inr (.inl rfl)) _ _).bind fun _ => Follows.pure _

theorem CallsAgree.follow (calls : CallsAgree condition left right) :
    CallsFollow (.diagonal condition) left right where
  run text stdin lead := agree_iff_follows.1 (calls.run text stdin lead)
  dispatch name arguments stdin := agree_iff_follows.1 (calls.dispatch name arguments stdin)

theorem record_agree (steady : Steady condition) (level : Level) (message source : String) :
    Agree condition (Engine.record level message source) (Engine.record level message source) :=
  Agree.modify fun session => steady.journal session _

/-- If two pairs of calls agree under a steady condition, so do the runs of a text in
terms of them. -/
theorem runRead_agree (steady : Steady condition) (calls : CallsAgree condition left right)
    (text stdin : String) (lead : Lead) :
    Agree condition (runRead setup left text stdin lead)
      (runRead setup right text stdin lead) :=
  agree_iff_follows.2
    (runRead_follows steady.stable calls.follow (steady.loops setup) text stdin lead)

/-- What is built alike from steps that agree with themselves and from calls that agree with
each other agrees too. -/
theorem Alike.agree
    (steps : ∀ {α : Type} {work : Engine α}, Step work → Agree condition work work)
    (discards : ∀ {α : Type} (result : Except Abort α) session name,
      condition.OfEnd (result, session) → condition.OfEnd (result, session.discard name))
    (calls : CallsAgree condition left right) {α : Type} {first second : Engine α}
    (alike : Alike setup setup left right first second) : Agree condition first second := by
  apply agree_iff_follows.2
  refine alike.follows (fun step => agree_iff_follows.1 (steps step)) ?_ ⟨Nat.le_refl _, ?_⟩
    calls.follow
  · intro α result session name journal holds
    cases result with
    | ok value => exact ⟨holds.1, discards (.ok value) session name holds.2⟩
    | error abort => exact ⟨holds.1, discards (.error abort : Except Abort α) session name holds.2⟩
  · intro name before right same
    have recorded : Step (recordBreach (setup.limits.loopMessage name)) :=
      .record (.breach setup.limits name)
    rw [same rfl]
    exact (agree_iff_follows.1 (steps recorded)).bind fun _ => Follows.pure _

/-- If two ways of running a line agree under a steady condition, so does the work of a
process that asks for lines in either way. -/
theorem perform_agree (steady : Steady condition) {leftLine rightLine : String → Engine Outcome}
    (lines : ∀ line, Agree condition (leftLine line) (rightLine line)) (process : Process) :
    Agree condition (perform leftLine process) (perform rightLine process) :=
  agree_iff_follows.2
    (perform_follows steady.stable (fun line => agree_iff_follows.1 (lines line)) process)

end

end VirtualShell.Interpreter
