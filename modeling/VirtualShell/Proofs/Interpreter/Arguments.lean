import VirtualShell.Proofs.Interpreter.Balance
import VirtualShell.Proofs.Interpreter.Carrying
import VirtualShell.Proofs.Session

/-!
Contract: whose the parameters of a call are.

Owns:
- `callFunction_owns_parameters`: the body of a function starts with the arguments of its call as
  parameters and with no others, and when the call ends they are the caller's again.

What the body does in between does not matter, so the interpreter that runs it is any one at all.
-/

namespace VirtualShell.Interpreter

open VirtualShell.Engine VirtualShell.Fallible

/-- When a call is left, each parameter is what it was before the call. -/
theorem get?_leaving_of_parameter {result : Except Abort Outcome}
    (roomy : result ≠ .error .nestingSpent) {parameter : String}
    (valid : Session.isParameter parameter = true) (session after : Session)
    (arguments : List String) :
    (leaving session arguments result after).environment.get? parameter =
      session.environment.get? parameter := by
  rw [leaving_of_ne roomy]
  exact Session.get?_leaveFunction_of_parameter valid _ _ _ _ _

/-- Let a function be called in any session. There is a session that holds the arguments of the
call, and whatever runs texts, it gets the body in this session, unless the call is too deep.
However the call ends, if not for lack of room, each parameter is what it was before. -/
theorem callFunction_owns_parameters (setup : Setup) (name body : String)
    (arguments : List String) (stdin : String) (session : Session) :
    ∃ entered : Session, Session.HoldsArguments entered.environment arguments ∧
      ∀ (run : Runner) (result : Except Abort Outcome) (after : Session),
        (callFunction setup run name body arguments stdin).run session = (result, after) →
          (session.callDepth < setup.limits.callDepth →
            ((run body stdin .initial).run entered).1 = result) ∧
          (result ≠ .error .nestingSpent → ∀ parameter, Session.isParameter parameter = true →
            after.environment.get? parameter = session.environment.get? parameter) := by
  refine ⟨session.enterFunction arguments, Session.holdsArguments_enterFunction _ _, ?_⟩
  intro run result after ran
  rw [run_callFunction] at ran
  split at ran
  · rename_i deep
    cases ran
    exact ⟨fun shallow => absurd deep (Nat.not_le_of_lt shallow), fun _ _ _ => rfl⟩
  · cases ran
    exact ⟨fun _ => rfl, fun roomy parameter valid => get?_leaving_of_parameter roomy valid _ _ _⟩

/-- A body that tampers with its parameters, and with one of its caller's, until the budget is
spent. -/
def meddling : String := "export 1=z; unset @ 2 3; 7=x; while cd /; do unset '#'; done"

theorem callFunction_owns_parameters_meddling :
    ∃ entered : Session, Session.HoldsArguments entered.environment ["a b", "c"] ∧
      ∃ after, (callFunction ⟨⟨100, 5, 5⟩, .empty⟩ (run ⟨⟨100, 5, 5⟩, .empty⟩ 9) "f" meddling
          ["a b", "c"] "").run (bareShell.session.assign "3" "old") =
            (.error (.limit (Limits.commandCountMessage ⟨100, 5, 5⟩)), after) ∧
        ((run ⟨⟨100, 5, 5⟩, .empty⟩ 9 meddling "" .initial).run entered).1 =
          .error (.limit (Limits.commandCountMessage ⟨100, 5, 5⟩)) ∧
        ∀ parameter, Session.isParameter parameter = true →
          after.environment.get? parameter =
            (bareShell.session.assign "3" "old").environment.get? parameter := by
  have ended : ((callFunction ⟨⟨100, 5, 5⟩, .empty⟩ (run ⟨⟨100, 5, 5⟩, .empty⟩ 9) "f" meddling
      ["a b", "c"] "").run (bareShell.session.assign "3" "old")).1 =
        .error (.limit (Limits.commandCountMessage ⟨100, 5, 5⟩)) :=
    eq_of_abort? (by decide +kernel)
  obtain ⟨entered, holds, each⟩ := callFunction_owns_parameters ⟨⟨100, 5, 5⟩, .empty⟩ "f" meddling
    ["a b", "c"] "" (bareShell.session.assign "3" "old")
  obtain ⟨starts, ends⟩ := each _ _ _ (Prod.ext ended rfl)
  exact ⟨entered, holds, _, Prod.ext ended rfl, starts (by decide), ends nofun⟩

end VirtualShell.Interpreter
