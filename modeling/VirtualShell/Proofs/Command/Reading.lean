import VirtualShell.Proofs.Files.Refinement
import VirtualShell.Proofs.Redirect
import VirtualShell.Command.Operands

/-!
Contract: what a command reads, said by its operands and the files.

Owns:
- `inputs`, the inputs that operands name, and `complaints`, what is reported of the others;
- `run_readSources`: these are what reading yields, and it changes nothing.

An operand names a file by the path that it means in the working directory, or the standard input.
-/

namespace VirtualShell.Command

open VirtualShell.Fallible

/-- A world without variables and files. -/
def bareWorld : World :=
  ⟨.empty, .own (.empty 0)⟩

/-! ## Operations on the storage -/

theorem run_attempt {α : Type} (action : Storage.Action α) (world : World) :
    (attempt action).run world =
      (.ok (action.run world.storage).1,
        { world with storage := (action.run world.storage).2 }) :=
  rfl

/-- An operation that changes no file is carried out in the world as it is. -/
theorem run_attempt_perform {α : Type} {world : World} {operation : FileOperation}
    {action : Files.Action α} {result : Except FileError α}
    (allowed : operation ∉ world.storage.refused) (path : String)
    (ran : action.run world.storage.files = (result, world.storage.files)) :
    (attempt (Storage.perform operation path action)).run world = (.ok result, world) := by
  rw [run_attempt, Storage.run_perform allowed, ran]

/-- An operation that must end well, and does, is carried out in the world as it is. -/
theorem run_require_perform {α : Type} {world : World} {operation : FileOperation}
    {action : Files.Action α} {value : α} (allowed : operation ∉ world.storage.refused)
    (path : String) (ran : action.run world.storage.files = (.ok value, world.storage.files)) :
    (require (Storage.perform operation path action)).run world = (.ok value, world) := by
  unfold require
  rw [run_bind, run_attempt_perform allowed path ran]
  rfl

theorem allowed_of_granted {world : World} (granted : world.storage.refused = [])
    (operation : FileOperation) : operation ∉ world.storage.refused := by
  rw [granted]
  exact List.not_mem_nil

/-! ## Inputs -/

/-- What is found under an operand. -/
def entry? (context : Context) (files : Files) (operand : String) : Option Files.Entry :=
  files.view (Path.parts (context.resolve operand))

/-- The input that an operand names, if it can be read. -/
def input? (context : Context) (files : Files) (operand : String) : Option Source :=
  if operand = standardInput then some ⟨operand, context.stdin⟩
  else
    match entry? context files operand with
    | some (.file content) => some ⟨operand, content⟩
    | some .directory | none => none

/-- What a command reports of an operand, nothing if it can be read. -/
def complaint (name : String) (context : Context) (files : Files) (operand : String) : String :=
  if operand = standardInput then ""
  else
    match entry? context files operand with
    | some (.file _) => ""
    | some .directory => name ++ ": " ++ operand ++ ": Is a directory\n"
    | none => name ++ ": " ++ operand ++ ": No such file or directory\n"

/-- The inputs that operands name, the standard input without operands. -/
def inputs (context : Context) (files : Files) (operands : List String) : List Source :=
  if operands.isEmpty then [⟨standardInput, context.stdin⟩]
  else operands.filterMap (input? context files)

/-- What a command reports of its operands. -/
def complaints (name : String) (context : Context) (files : Files) (operands : List String) :
    String :=
  String.join (operands.map (complaint name context files))

/-- Reading yields the inputs and the reports, and changes nothing. -/
theorem run_readSources {world : World} (allowed : .read ∉ world.storage.refused) (name : String)
    (context : Context) (operands : List String) :
    (readSources name context operands).run world =
      (.ok (inputs context world.storage.files operands,
        complaints name context world.storage.files operands), world) := by
  unfold readSources inputs
  split
  · rename_i none
    rw [List.isEmpty_iff.1 none]
    rfl
  · rw [run_bind, run_mapM fun operand => (input? context world.storage.files operand,
      complaint name context world.storage.files operand)]
    · simp only [run_pure, List.filterMap_map, List.map_map, complaints]
      rfl
    · intro operand
      unfold input? complaint
      split
      · rfl
      · rw [run_bind, Storage.read,
          run_attempt_perform allowed (context.resolve operand) (Files.run_read _)]
        unfold entry?
        cases world.storage.files.view (Path.parts (context.resolve operand)) with
        | none => rfl
        | some entry => cases entry <;> rfl

end VirtualShell.Command
