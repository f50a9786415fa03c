import VirtualShell.Proofs.Files.Reachable

/-!
Contract: an operation on a file tree that fails has changed nothing.

Owns:
- `Operation.IsWhole`, the operations that do not go through the entries of a directory;
- `IsTree.eq_of_failed`: each of them that fails leaves a tree as it was;
- `find?_of_failed_of_reachable`: so does one that is tried on a tree that can be reached.

A recursive copy of a directory is left out. It lays one entry after the other over its target,
and the entries that it has copied before it fails stay there.
-/

namespace VirtualShell.Files

open VirtualShell.Fallible

variable {files after : Files} {error : FileError}

/-- The operation does not go through the entries of a directory, as the recursive copy of a
directory does. -/
def Operation.IsWhole (files : Files) : Operation → Prop
  | .copy source _ recursive =>
      recursive = true → files.view (Path.parts source) ≠ some .directory
  | .write .. | .append .. | .makeDirectory .. | .remove .. | .move .. => True

/-- A copy that fails before it has begun with the entries of a directory changes nothing. -/
theorem IsTree.eq_of_copyWith_failed (tree : files.IsTree)
    {copyEntry : String → String → Action Unit} {source target : String} {recursive : Bool}
    (whole : (Operation.copy source target recursive).IsWhole files)
    (failed : (copyWith copyEntry source target recursive).run files = (.error error, after)) :
    after = files := by
  have whole : recursive = true → files.view (Path.parts source) ≠ some .directory := whole
  unfold copyWith at failed
  simp only [run_bind, run_nodeAt] at failed
  rw [view_eq_map_find?] at whole
  cases found : files.find? (Path.parts source) with
  | none =>
      simp only [found, run_fail] at failed
      cases failed
      rfl
  | some node =>
      rw [found] at whole
      cases node with
      | file modified content =>
          simp only [found] at failed
          exact (atomic_write tree _ content false).unchanged failed
      | directory modified children =>
          have single : recursive = false := by
            cases recursive with
            | false => rfl
            | true => exact absurd rfl (whole rfl)
          simp only [found, single, Bool.not_false, if_true, run_fail] at failed
          cases failed
          rfl

/-- An operation that fails leaves a tree as it was. -/
theorem IsTree.eq_of_failed (tree : files.IsTree) {operation : Operation}
    (whole : operation.IsWhole files)
    (failed : operation.action.run files = (.error error, after)) : after = files := by
  cases operation with
  | write path content parents => exact (atomic_write tree path content parents).unchanged failed
  | append path content => exact (atomic_append tree path content).unchanged failed
  | makeDirectory path recursive =>
      exact (atomic_makeDirectory tree path recursive).unchanged failed
  | remove path recursive force =>
      exact (atomic_remove tree path recursive force).unchanged failed
  | move source target => exact (atomic_move tree source target).unchanged failed
  | copy source target recursive =>
      have failed : (copyWithin files.nodes.size source target recursive).run files =
        (.error error, after) := failed
      cases levels : files.nodes.size with
      | zero =>
          rw [levels] at failed
          exact tree.eq_of_copyWith_failed whole failed
      | succ depth =>
          rw [levels] at failed
          exact tree.eq_of_copyWith_failed whole failed

/-! ## The time of day -/

/-- The time of day is nowhere in the nodes. -/
theorem find?_setTime (files : Files) (now : Int) (parts : List String) :
    Files.find? { files with now := now } parts = files.find? parts := by
  unfold find?
  rw [numberAt?_setTime]

theorem Operation.IsWhole.setTime {operation : Operation} (whole : operation.IsWhole files)
    (now : Int) : operation.IsWhole { files with now := now } := by
  cases operation with
  | copy source target recursive =>
      intro recursion
      rw [view_eq_map_find?, find?_setTime, ← view_eq_map_find?]
      exact whole recursion
  | write | append | makeDirectory | remove | move => trivial

/-! ## Trees that can be reached -/

/-- An operation that fails on a tree that can be reached has changed nothing but the time of
day: at every path there is the same node as before, with its content, its children and the time
of its last change. -/
theorem find?_of_failed_of_reachable (reachable : files.Reachable) (now : Int)
    {operation : Operation} (whole : operation.IsWhole files)
    (failed : (operation.action.run { files with now := now }).1 = .error error) :
    files.after now operation = { files with now := now } ∧
      ∀ parts, (files.after now operation).find? parts = files.find? parts := by
  have ends : operation.action.run { files with now := now } =
      (.error error, files.after now operation) := Prod.ext failed rfl
  have same : files.after now operation = { files with now := now } :=
    (reachable.isTree.setTime now).eq_of_failed (whole.setTime now) ends
  exact ⟨same, fun parts => by rw [same, find?_setTime]⟩

theorem find?_of_failed_of_moved :
    ((Operation.write "/b/c/x/y/z" "2" true).action.run { movedFiles with now := 5 }).1 =
        .error ⟨.notDirectory, "/b/c/x/y"⟩ ∧
      movedFiles.after 5 (.write "/b/c/x/y/z" "2" true) = { movedFiles with now := 5 } ∧
      ∀ parts, (movedFiles.after 5 (.write "/b/c/x/y/z" "2" true)).find? parts =
        movedFiles.find? parts :=
  have failed : ((Operation.write "/b/c/x/y/z" "2" true).action.run
      { movedFiles with now := 5 }).1 = .error ⟨.notDirectory, "/b/c/x/y"⟩ := by decide +kernel
  ⟨failed, find?_of_failed_of_reachable
    (.tried (.tried (.tried (.tried (.empty 0) 1 _) 2 _) 3 _) 4 _) 5 trivial failed⟩

end VirtualShell.Files
