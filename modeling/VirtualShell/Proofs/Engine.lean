import VirtualShell.Proofs.Fallible
import VirtualShell.Session

/-!
Contract: what work on a session does when it is run, and when two pieces of work do
the same.

Owns:
- what an exit and an operation on the storage do to a session.
- `Engine.Condition`, what holds of a session between two steps of some work and what
  holds of it once the work has been cut short.
- `Engine.Agree`, that two pieces of work do the same from every session that satisfies
  a condition, and keep the condition; one rule for each way of building work.

Work that agrees with itself keeps the condition. Two pieces of work are compared from
the same session, so what they read from it is the same on both sides.
-/

namespace VirtualShell.Engine

open VirtualShell.Fallible

/-! ## Equations -/

theorem run_onExit {α : Type} (work : Engine α) (exit : Except Abort α → Session → Session)
    (session : Session) :
    (work.onExit exit).run session =
      ((work.run session).1, exit (work.run session).1 (work.run session).2) :=
  rfl

theorem run_attempt {α : Type} (action : Storage.Action α) (session : Session) :
    (attempt action).run session =
      (.ok (action.run session.storage).1,
        { session with storage := (action.run session.storage).2 }) :=
  rfl

/-! ## Agreement -/

/-- What holds of a session between two steps of some work, and what holds of it once
the work has been cut short. -/
structure Condition where
  between : Session → Prop
  afterwards : Abort → Session → Prop

/-- What a condition says about the end of some work. -/
def Condition.OfEnd {α : Type} (condition : Condition) : Except Abort α × Session → Prop
  | (.ok _, session) => condition.between session
  | (.error abort, session) => condition.afterwards abort session

/-- Two pieces of work do the same from every session that satisfies a condition, and
keep the condition. -/
def Agree {α : Type} (condition : Condition) (left right : Engine α) : Prop :=
  ∀ session, condition.between session →
    left.run session = right.run session ∧ condition.OfEnd (left.run session)

namespace Agree

variable {α β : Type} {condition : Condition}

theorem pure (value : α) : Agree condition (pure value) (pure value) := by
  intro session holds
  exact ⟨rfl, holds⟩

theorem get : Agree condition get get := by
  intro session holds
  exact ⟨rfl, holds⟩

theorem throw {abort : Abort}
    (holds : ∀ session, condition.between session → condition.afterwards abort session) :
    Agree condition (throw abort : Engine α) (throw abort) := by
  intro session between
  exact ⟨rfl, holds session between⟩

theorem modify {change : Session → Session}
    (keeps : ∀ session, condition.between session → condition.between (change session)) :
    Agree condition (modify change) (modify change) := by
  intro session holds
  exact ⟨rfl, keeps session holds⟩

theorem attempt {action : Storage.Action α}
    (keeps : ∀ session storage,
      condition.between session → condition.between { session with storage := storage }) :
    Agree condition (attempt action) (attempt action) := by
  intro session holds
  exact ⟨rfl, keeps session _ holds⟩

theorem bind {left right : Engine α} {nextLeft nextRight : α → Engine β}
    (first : Agree condition left right)
    (next : ∀ value, Agree condition (nextLeft value) (nextRight value)) :
    Agree condition (left >>= nextLeft) (right >>= nextRight) := by
  intro session holds
  obtain ⟨same, ends⟩ := first session holds
  rw [run_bind, run_bind, ← same]
  rcases work : left.run session with ⟨abort | value, after⟩
  · rw [work] at ends
    exact ⟨rfl, ends⟩
  · rw [work] at ends
    exact next value after ends

/-- What is read from the session is the session itself. -/
theorem get_bind {nextLeft nextRight : Session → Engine β}
    (next : ∀ session, condition.between session →
      (nextLeft session).run session = (nextRight session).run session ∧
        condition.OfEnd ((nextLeft session).run session)) :
    Agree condition (MonadState.get >>= nextLeft) (MonadState.get >>= nextRight) :=
  next

/-- An exit may turn a condition into another one. -/
theorem onExit {inner : Condition} {left right : Engine α}
    {exit : Except Abort α → Session → Session}
    (work : Agree inner left right)
    (exits : ∀ result session, inner.OfEnd (result, session) →
      condition.OfEnd (result, exit result session))
    {session : Session}
    (holds : inner.between session) :
    (left.onExit exit).run session = (right.onExit exit).run session ∧
      condition.OfEnd ((left.onExit exit).run session) := by
  obtain ⟨same, ends⟩ := work session holds
  rw [run_onExit, run_onExit, ← same]
  exact ⟨rfl, exits _ _ ends⟩

theorem tryCatch {left right : Engine α} {handler : Abort → Engine α}
    (work : Agree condition left right)
    (handles : ∀ abort session, condition.afterwards abort session →
      condition.OfEnd ((handler abort).run session)) :
    Agree condition (tryCatch left handler) (tryCatch right handler) := by
  intro session holds
  obtain ⟨same, ends⟩ := work session holds
  rw [run_tryCatch, run_tryCatch, ← same]
  rcases ran : left.run session with ⟨abort | value, after⟩
  · rw [ran] at ends
    exact ⟨rfl, handles abort after ends⟩
  · rw [ran] at ends
    exact ⟨rfl, ends⟩

end Agree

end VirtualShell.Engine
