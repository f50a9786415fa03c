import VirtualShell.Command.Library
import VirtualShell.Proofs.Interpreter.Keeping

/-!
Contract: the commands of the library leave the access rule of the storage as it was.

Owns:
- what an operation on the storage leaves when a command carries it out;
- `Command.keeps_of_mem_library`: every command of the library keeps every kind of access rule.
-/

namespace VirtualShell.Command

open VirtualShell.Fallible

/-- The access rule of the storage of a world. -/
def accessOf (world : World) : List FileOperation :=
  world.storage.refused

section

variable {α : Type} {permits : List FileOperation → Prop}

theorem leaves_attempt {action : Storage.Action α} (leaves : Leaves Storage.refused action) :
    Leaves accessOf (attempt action) := by
  intro world
  exact leaves world.storage

theorem leaves_require {action : Storage.Action α} (leaves : Leaves Storage.refused action) :
    Leaves accessOf (require action) := by
  refine (leaves_attempt leaves).bind fun result => ?_
  cases result with
  | ok value => exact Leaves.pure value
  | error error => exact Leaves.throw _

theorem keeps_ofAction {name : String} {work : Context → List String → Action Outcome}
    (leaves : ∀ context arguments, Leaves accessOf (work context arguments)) :
    Keeps permits (ofAction name work) := by
  intro context arguments world permitted
  show permits (((work context arguments).run world).2.storage.refused)
  rw [show ((work context arguments).run world).2.storage.refused = world.storage.refused from
    leaves context arguments world]
  exact permitted

/-! ## Reading -/

theorem leaves_readSources (name : String) (context : Context) (operands : List String) :
    Leaves accessOf (readSources name context operands) := by
  unfold readSources
  split
  · exact Leaves.pure _
  · refine (Leaves.mapM (fun operand => ?_) operands).bind fun readings => Leaves.pure _
    split
    · exact Leaves.pure _
    · refine (leaves_attempt (Storage.leaves_perform _ _ _)).bind fun result => ?_
      split <;> exact Leaves.pure _

theorem keeps_cat : Keeps permits cat := by
  refine keeps_ofAction fun context arguments => ?_
  exact (leaves_readSources _ _ _).bind fun _ => Leaves.pure _

theorem keeps_linesCommand (name : String)
    (select : Nat → List (List Char) → List (List Char)) :
    Keeps permits (linesCommand name select) := by
  refine keeps_ofAction fun context arguments => ?_
  split
  · exact Leaves.pure _
  · exact (leaves_readSources _ _ _).bind fun _ => Leaves.pure _

theorem keeps_wc : Keeps permits wc := by
  refine keeps_ofAction fun context arguments => ?_
  exact (leaves_readSources _ _ _).bind fun _ => Leaves.pure _

theorem keeps_uniq : Keeps permits uniq := by
  refine keeps_ofAction fun context arguments => ?_
  exact (leaves_readSources _ _ _).bind fun _ => Leaves.pure _

theorem keeps_sort : Keeps permits sort := by
  refine keeps_ofAction fun context arguments => ?_
  refine (leaves_readSources _ _ _).bind fun sources => ?_
  dsimp only
  split
  · exact (Leaves.ofExcept _).bind fun _ => Leaves.pure _
  · exact (Leaves.pure _).bind fun _ => Leaves.pure _

theorem keeps_grep : Keeps permits grep := by
  refine keeps_ofAction fun context arguments => ?_
  dsimp only
  split
  · exact Leaves.pure _
  · split
    · exact Leaves.pure _
    · exact Leaves.throw _
    · refine (leaves_readSources _ _ _).bind fun sources => ?_
      split <;> exact Leaves.pure _

/-! ## Printing -/

theorem keeps_seq : Keeps permits seq := by
  refine keeps_ofAction fun context arguments => ?_
  split
  · exact Leaves.pure _
  · split
    · exact Leaves.pure _
    · split
      · split
        · exact Leaves.throw _
        · exact Leaves.pure _
      · split
        split
        · exact Leaves.pure _
        · exact Leaves.pure _

theorem keeps_tr : Keeps permits tr := by
  refine keeps_ofAction fun context arguments => ?_
  dsimp only
  split
  · exact Leaves.pure _
  · split
    · exact Leaves.pure _
    · split
      · exact Leaves.pure _
      · split <;> exact Leaves.pure _

theorem keeps_env : Keeps permits env :=
  keeps_ofAction fun _ _ => Leaves.get.bind fun _ => Leaves.pure _

theorem keeps_printenv : Keeps permits printenv := by
  refine keeps_ofAction fun context arguments => Leaves.get.bind fun world => ?_
  dsimp only
  split <;> exact Leaves.pure _

/-! ## Conditions -/

theorem leaves_testOperand (context : Context) (operator operand : String) :
    Leaves accessOf (Condition.testOperand context operator operand) := by
  unfold Condition.testOperand
  split
  · exact Leaves.pure _
  · split
    · exact Leaves.pure _
    · split
      · exact Leaves.pure _
      · refine (leaves_require (Storage.leaves_perform _ _ _)).bind fun present => ?_
        split
        · exact (leaves_require (Storage.leaves_perform _ _ _)).bind fun _ => Leaves.pure _
        · exact Leaves.pure _

theorem leaves_evaluate (context : Context) (words : List String) :
    Leaves accessOf (Condition.evaluate context words) := by
  induction words with
  | nil => exact Leaves.pure _
  | cons word rest inductionHypothesis =>
      unfold Condition.evaluate
      split
      · exact inductionHypothesis.bind fun _ => Leaves.pure _
      · split
        · exact Leaves.pure _
        · exact leaves_testOperand _ _ _
        · exact Leaves.pure _
        · exact Leaves.pure _

theorem leaves_outcome (context : Context) (words : List String) :
    Leaves accessOf (Condition.outcome context words) := by
  refine (leaves_evaluate context words).bind fun result => ?_
  split <;> exact Leaves.pure _

theorem keeps_bracket : Keeps permits Condition.bracket := by
  refine keeps_ofAction fun context arguments => ?_
  split
  · exact leaves_outcome _ _
  · exact Leaves.pure _

/-! ## Files -/

theorem keeps_ls : Keeps permits ls := by
  refine keeps_ofAction fun context arguments => ?_
  have leaves_longLine (name : String) (info : Files.Info) :
      Leaves accessOf (longLine name info) := by
    unfold longLine
    split
    · exact Leaves.throw _
    · exact Leaves.pure _
  have leaves_classify (long : Bool) (operand : String) :
      Leaves accessOf (classify context long operand) := by
    refine (leaves_attempt (Storage.leaves_perform _ _ _)).bind fun result => ?_
    split
    · exact Leaves.pure _
    · split
      · exact Leaves.pure _
      · cases long with
        | true => exact (leaves_longLine _ _).bind fun row => Leaves.pure _
        | false => exact (Leaves.pure _).bind fun row => Leaves.pure _
  have leaves_rows (path : String) (all long : Bool) :
      Leaves accessOf (directoryRows path all long) := by
    refine (leaves_require (Storage.leaves_perform _ _ _)).bind fun entries => ?_
    dsimp only
    split
    · refine Leaves.mapM (fun name => ?_) _
      exact (leaves_require (Storage.leaves_perform _ _ _)).bind fun _ => leaves_longLine _ _
    · exact Leaves.pure _
  refine (Leaves.mapM (leaves_classify _) _).bind fun listed => ?_
  refine (Leaves.mapM (fun operand => ?_) _).bind fun blocks => Leaves.pure _
  exact (leaves_rows _ _ _).bind fun rows => Leaves.pure _

theorem keeps_mkdir : Keeps permits mkdir := by
  refine keeps_ofAction fun context arguments => ?_
  dsimp only
  split
  · exact Leaves.pure _
  · refine (Leaves.mapM (fun operand => ?_) _).bind fun errors => Leaves.pure _
    refine (leaves_attempt (Storage.leaves_perform _ _ _)).bind fun result => ?_
    split <;> exact Leaves.pure _

theorem keeps_touch : Keeps permits touch := by
  refine keeps_ofAction fun context arguments => ?_
  split
  · exact Leaves.pure _
  · refine (Leaves.mapM (fun operand => ?_) _).bind fun errors => Leaves.pure _
    refine (leaves_attempt (Storage.leaves_perform _ _ _)).bind fun result => ?_
    split <;> exact Leaves.pure _

theorem leaves_removeOperand (context : Context) (recursive force : Bool) (operand : String) :
    Leaves accessOf (removeOperand context recursive force operand) := by
  refine (leaves_attempt (Storage.leaves_perform _ _ _)).bind fun result => ?_
  split
  · exact Leaves.pure _
  · exact Leaves.throw _
  · split
    · exact Leaves.pure _
    · refine (leaves_attempt (Storage.leaves_perform _ _ _)).bind fun result => ?_
      split <;> exact Leaves.pure _

theorem keeps_rm : Keeps permits rm := by
  refine keeps_ofAction fun context arguments => ?_
  dsimp only
  split
  · exact Leaves.pure _
  · exact (Leaves.mapM (leaves_removeOperand _ _ _) _).bind fun _ => Leaves.pure _

theorem leaves_destination (context : Context) (operand target : String) :
    Leaves Storage.refused (destination context operand target) := by
  refine (Storage.leaves_perform _ _ _).bind fun present => ?_
  split
  · refine (Storage.leaves_perform _ _ _).bind fun info => ?_
    split <;> exact Leaves.pure _
  · exact Leaves.pure _

theorem leaves_transferAll (context : Context) (transfer : Transfer) (operands : List String) :
    Leaves accessOf (transferAll context transfer operands) := by
  unfold transferAll
  split
  · split
    · exact Leaves.pure _
    · refine (Leaves.mapM (fun operand => ?_) _).bind fun errors => Leaves.pure _
      refine (leaves_attempt ?_).bind fun result => ?_
      · refine (leaves_destination _ _ _).bind fun path => ?_
        split <;> exact Storage.leaves_perform _ _ _
      · split <;> exact Leaves.pure _
  · exact Leaves.pure _

/-! ## Scripts -/

theorem keeps_source (name : String) : Keeps permits (source name) := by
  intro context arguments world permitted
  cases arguments with
  | nil => exact permitted
  | cons path others =>
      have left : Leaves accessOf (attempt (Storage.read (context.resolve path))) :=
        leaves_attempt (Storage.leaves_perform _ _ _)
      have kept : permits (accessOf
          ((attempt (Storage.read (context.resolve path))).run world).2) := by
        rw [left world]
        exact permitted
      unfold source
      dsimp only
      rcases ran : (attempt (Storage.read (context.resolve path))).run world with
        ⟨fault | ⟨error | script⟩, after⟩
      all_goals rw [ran] at kept
      · exact kept
      · exact kept
      · -- The script runs outside of the process, which gets a world back and hands it on.
        exact ⟨kept, fun _ _ permitted => permitted⟩

/-- No command of the library touches the access rule of the storage. -/
theorem keeps_of_mem_library {command : Command} (member : command ∈ library) :
    Keeps permits command := by
  have prints {name : String} {work : Context → List String → Outcome} :
      Keeps permits (ofAction name fun context arguments => pure (work context arguments)) :=
    keeps_ofAction fun context arguments => Leaves.pure _
  have transfers {name : String} {transfer : List String → Transfer}
      {operands : List String → List String} :
      Keeps permits (ofAction name fun context arguments =>
        transferAll context (transfer arguments) (operands arguments)) :=
    keeps_ofAction fun context arguments => leaves_transferAll _ _ _
  have all : ∀ command ∈ library, Keeps permits command := by
    unfold library
    simp only [List.forall_mem_cons]
    exact ⟨prints, keeps_cat, keeps_linesCommand _ _, keeps_linesCommand _ _, keeps_wc,
      keeps_grep, keeps_sort, keeps_uniq, keeps_tr, keeps_seq, keeps_ls, keeps_mkdir, keeps_touch,
      keeps_rm, transfers, transfers, prints, prints, prints, prints,
      keeps_ofAction leaves_outcome, keeps_bracket, keeps_env, keeps_printenv, keeps_source _,
      keeps_source _, List.forall_mem_nil _⟩
  exact all command member

end

end VirtualShell.Command
