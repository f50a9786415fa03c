/-!
Contract: the caps that keep a script from running away.

Owns:
- `Limits`, the greatest number of nested function calls, of runs in one line given
  to the shell, and of passes of one loop; and the message for each.
- `Limits.ofOptions`, the limits that some options ask for; an absent option means
  the default, and a negative one is refused.
-/

namespace VirtualShell

/-- The three caps. -/
structure Limits where
  callDepth : Nat
  commandCount : Nat
  loopPasses : Nat
deriving DecidableEq, Repr

/-- The options that set a cap. -/
inductive LimitOption where
  | callDepth
  | commandCount
  | loopPasses
deriving DecidableEq, Repr

/-- The name of an option. -/
def LimitOption.name : LimitOption → String
  | .callDepth => "max_call_depth"
  | .commandCount => "max_command_count"
  | .loopPasses => "max_loop_iterations"

namespace Limits

/-- The caps that hold unless an option says otherwise. -/
def default : Limits := ⟨100, 10000, 10000⟩

/-- A cap given by an option. -/
def cap (option : LimitOption) (standard : Nat) : Option Int → Except LimitOption Nat
  | none => .ok standard
  | some value => if value < 0 then .error option else .ok value.toNat

/-- The limits that some options ask for, or the first option that is negative. -/
def ofOptions (callDepth commandCount loopPasses : Option Int) : Except LimitOption Limits := do
  let callDepth ← cap .callDepth default.callDepth callDepth
  let commandCount ← cap .commandCount default.commandCount commandCount
  let loopPasses ← cap .loopPasses default.loopPasses loopPasses
  return ⟨callDepth, commandCount, loopPasses⟩

/-- The wording for an option that is negative. -/
def negativeMessage (option : LimitOption) : String :=
  option.name ++ " must be non-negative"

/-- The message for a function that is nested too deeply. -/
def callDepthMessage (limits : Limits) (name : String) : String :=
  "bash: " ++ name ++ ": maximum recursion depth (" ++ toString limits.callDepth ++
    ") exceeded. Increase with max_call_depth option.\n"

/-- The message for too many runs in one line. -/
def commandCountMessage (limits : Limits) : String :=
  "bash: maximum command count (" ++ toString limits.commandCount ++
    ") exceeded (possible infinite loop). Increase with max_command_count option.\n"

/-- The message for a loop with too many passes. -/
def loopMessage (limits : Limits) (loop : String) : String :=
  "bash: " ++ loop ++ " loop: too many iterations (" ++ toString limits.loopPasses ++
    "). Increase with max_loop_iterations option.\n"

/-- Whether each of the first `count` passes of a loop is allowed. -/
def passes (limits : Limits) (count : Nat) : List Bool :=
  (List.range count).map fun pass => pass < limits.loopPasses

end Limits

end VirtualShell
