import VirtualShell.Proofs.Fallible
import VirtualShell.Proofs.Files.Tree

/-!
Contract: how an operation on a file tree ends.

Owns:
- `Succeeds` and `Atomic`: an operation ends well, or it has changed nothing;
- `IsTreeOf`, a tree that is a given map of paths;
- what looking for a node and for the directory that holds a path yields.
-/

namespace VirtualShell.Files

open VirtualShell.Fallible

variable {files : Files}

/-! ## How operations end -/

/-- The operation ends well, in a tree for which `success` holds. -/
def Succeeds (action : Action Unit) (files : Files) (success : Files → Prop) : Prop :=
  ∃ after, action.run files = (.ok (), after) ∧ success after

/-- The operation ends well, or it has changed nothing. -/
def Atomic (action : Action Unit) (files : Files) (success : Files → Prop) : Prop :=
  Succeeds action files success ∨ ∃ error, action.run files = (.error error, files)

theorem Succeeds.of_run {action : Action Unit} {success : Files → Prop} {after : Files}
    (ends : action.run files = (.ok (), after)) (holds : success after) :
    Succeeds action files success :=
  ⟨after, ends, holds⟩

theorem Succeeds.mono {action : Action Unit} {success weaker : Files → Prop}
    (done : Succeeds action files success) (weaken : ∀ after, success after → weaker after) :
    Succeeds action files weaker := by
  rcases done with ⟨after, ends, holds⟩
  exact ⟨after, ends, weaken after holds⟩

theorem Atomic.of_run {action : Action Unit} {success : Files → Prop} {after : Files}
    (ends : action.run files = (.ok (), after)) (holds : success after) :
    Atomic action files success :=
  .inl ⟨after, ends, holds⟩

theorem Atomic.of_error {action : Action Unit} {success : Files → Prop} {error : FileError}
    (ends : action.run files = (.error error, files)) : Atomic action files success :=
  .inr ⟨error, ends⟩

theorem Atomic.congr_run {left right : Action Unit} {success : Files → Prop}
    (same : left.run files = right.run files) (ends : Atomic right files success) :
    Atomic left files success := by
  unfold Atomic Succeeds
  rw [same]
  exact ends

theorem Atomic.mono {action : Action Unit} {success weaker : Files → Prop}
    (ends : Atomic action files success) (weaken : ∀ after, success after → weaker after) :
    Atomic action files weaker := by
  rcases ends with done | failed
  · exact .inl (done.mono weaken)
  · exact .inr failed

/-- What ends well after work that is atomic makes atomic work. -/
theorem Atomic.andThen {first next : Action Unit} {middle success : Files → Prop}
    (begins : Atomic first files middle)
    (rest : ∀ after, middle after → Succeeds next after success) :
    Atomic (first >>= fun _ => next) files success := by
  rcases begins with ⟨after, ends, holds⟩ | ⟨error, ends⟩
  · rcases rest after holds with ⟨last, done, final⟩
    exact .of_run (by rw [run_bind, ends]; exact done) final
  · exact .of_error (by rw [run_bind, ends])

theorem Atomic.success {action : Action Unit} {success : Files → Prop} {after : Files}
    (atomic : Atomic action files success) (done : action.run files = (.ok (), after)) :
    success after := by
  rcases atomic with ⟨other, ends, holds⟩ | ⟨error, ends⟩
  · rw [done] at ends
    cases ends
    exact holds
  · rw [done] at ends
    cases ends

theorem Atomic.unchanged {action : Action Unit} {success : Files → Prop} {after : Files}
    {error : FileError} (atomic : Atomic action files success)
    (failed : action.run files = (.error error, after)) : after = files := by
  rcases atomic with ⟨other, ends, holds⟩ | ⟨cause, ends⟩
  · rw [failed] at ends
    cases ends
  · rw [failed] at ends
    cases ends
    rfl

/-- A tree that is the given map of paths. -/
def IsTreeOf (map : PathMap) (files : Files) : Prop :=
  files.IsTree ∧ files.view = map

theorem Atomic.isTree {action : Action Unit} {map : PathMap} (tree : files.IsTree)
    (atomic : Atomic action files (IsTreeOf map)) : (action.run files).2.IsTree := by
  rcases atomic with ⟨after, ends, kept, _⟩ | ⟨error, ends⟩
  · rw [ends]
    exact kept
  · rw [ends]
    exact tree

/-! ## Looking for nodes -/

theorem parentParts_concat (parents : List String) (name : String) :
    Path.parentParts (parents ++ [name]) = parents :=
  List.dropLast_concat

theorem entryName_concat (parents : List String) (name : String) :
    entryName (parents ++ [name]) = name := by
  simp [entryName]

theorem run_fail {α : Type} (cause : FileCause) (path : String) :
    (fail cause path : Action α).run files = (.error ⟨cause, path⟩, files) :=
  rfl

theorem run_nodeAt (parts : List String) :
    (nodeAt parts).run files = (.ok (files.find? parts), files) :=
  rfl

theorem run_parentNumber {parents : List String} {parent : Nat} (name : String)
    (found : files.numberAt? parents = some parent)
    (directory : files.entryOf parent = some .directory) :
    (parentNumber (parents ++ [name])).run files = (.ok parent, files) := by
  rcases entryOf_eq_some_directory_iff.1 directory with ⟨modified, children, node⟩
  unfold parentNumber
  rw [parentParts_concat, run_bind, run_get]
  simp only [found, node]
  rfl

/-- The directory that holds a path, or nothing changed. -/
theorem parentNumber_cases (files : Files) (parts : List String) :
    (∃ parent, (parentNumber parts).run files = (.ok parent, files) ∧
      files.numberAt? (Path.parentParts parts) = some parent ∧
      files.entryOf parent = some .directory) ∨
    ∃ error, (parentNumber parts).run files = (.error error, files) := by
  unfold parentNumber
  simp only [run_bind, run_get]
  cases files.numberAt? (Path.parentParts parts) with
  | none => exact .inr ⟨_, run_fail ..⟩
  | some parent =>
      by_cases directory : files.entryOf parent = some .directory
      · simp only [if_pos (any_isDirectory_iff.2 directory)]
        exact .inl ⟨parent, rfl, rfl, directory⟩
      · simp only [if_neg (mt any_isDirectory_iff.1 directory)]
        exact .inr ⟨_, run_fail ..⟩

theorem exists_directory_of_view {parts : List String}
    (directory : files.view parts = some .directory) :
    ∃ number, files.numberAt? parts = some number ∧ files.entryOf number = some .directory :=
  Option.bind_eq_some_iff.1 directory

theorem IsTree.childOf_of_free {parents : List String} {parent : Nat} {name : String}
    (tree : files.IsTree) (found : files.numberAt? parents = some parent)
    (free : files.view (parents ++ [name]) = none) : files.childOf parent name = none := by
  rw [tree.view_eq_none_iff, numberAt?_concat, found] at free
  exact free

/-- The last component of a path to something else than the root. -/
theorem exists_concat_of_ne_nil {parts : List String} (below : parts ≠ [])
    (named : ∀ name ∈ parts, Path.IsName name) :
    ∃ parents name, parts = parents ++ [name] ∧ Path.IsName name := by
  rcases List.eq_nil_or_concat' parts with rfl | ⟨parents, name, rfl⟩
  · exact absurd rfl below
  · exact ⟨parents, name, rfl, named name (by simp)⟩

end VirtualShell.Files
