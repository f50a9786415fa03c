import VirtualShell.Proofs.Files.Atomic
import VirtualShell.Proofs.Files.Relinking
import VirtualShell.Proofs.Files.Writing

/-!
Contract: what removing and moving does.

Owns:
- `removeAt` and `relinkAt`, the changes that are made in the end, and `remove` and `move`:
  each ends in the tree of a map that its paths determine, or changes nothing.
-/

namespace VirtualShell.Files

open VirtualShell.Fallible

variable {files : Files}

/-! ## Removing -/

/-- Takes out the node at a path, and everything below it. -/
def removeAt (parts : List String) (number : Nat) : Action Unit := do
  let parent ← parentNumber parts
  modify fun files => (files.unlink parent (entryName parts)).forget number

theorem succeeds_removeAt (tree : files.IsTree) {parents : List String} {name : String}
    {number : Nat} (found : files.numberAt? (parents ++ [name]) = some number) :
    Succeeds (removeAt (parents ++ [name]) number) files
      (IsTreeOf (files.view.without (parents ++ [name]))) := by
  rcases numberAt?_concat_eq_some_iff.1 found with ⟨parent, reached, link⟩
  refine ⟨(files.unlink parent name).forget number, ?_, ?_, ?_⟩
  · unfold removeAt
    rw [run_bind, run_parentNumber name reached (entryOf_of_childOf link), entryName_concat]
    exact run_modify ..
  · exact tree.remove reached link
  · exact tree.view_remove reached link

theorem run_remove {path : String} (below : Path.parts path ≠ []) (recursive force : Bool) :
    (remove path recursive force).run files =
      match files.numberAt? (Path.parts path) with
      | none => if force then (.ok (), files) else (.error ⟨.notFound, path⟩, files)
      | some number =>
          if !(((files.nodes.get? number).map Node.children).getD .empty).isEmpty && !recursive
          then (.error ⟨.notEmpty, path⟩, files)
          else (removeAt (Path.parts path) number).run files := by
  unfold remove
  simp only [if_neg below, run_bind, run_get]
  cases files.numberAt? (Path.parts path) with
  | none => cases force <;> rfl
  | some number =>
      simp only [run_bind, run_get]
      split
      · rfl
      · rfl

theorem atomic_remove (tree : files.IsTree) (path : String) (recursive force : Bool) :
    Atomic (remove path recursive force) files
      (IsTreeOf (files.view.without (Path.parts path))) := by
  by_cases rooted : Path.parts path = []
  · refine .inr ⟨⟨.busy, path⟩, ?_⟩
    unfold remove
    simp only [rooted, if_true]
    rfl
  · have run : (remove path recursive force).run files = _ := run_remove rooted recursive force
    cases found : files.numberAt? (Path.parts path) with
    | none =>
        rw [found] at run
        rw [tree.without_of_absent (tree.view_eq_none_iff.2 found)]
        cases force with
        | true => exact .of_run run ⟨tree, rfl⟩
        | false => exact .of_error run
    | some number =>
        rw [found] at run
        simp only at run
        split at run
        · exact .of_error run
        · rcases exists_concat_of_ne_nil rooted fun _ => Path.isName_of_mem_parts with
            ⟨parents, name, same, -⟩
          rw [same] at found run ⊢
          exact .congr_run run (.inl (succeeds_removeAt tree found))

/-! ## Moving -/

/-- Links a node to another path. -/
def relinkAt (source target : List String) (targetParent number : Nat) : Action Unit := do
  let sourceParent ← parentNumber source
  modify fun files =>
    (files.unlink sourceParent (entryName source)).link targetParent (entryName target) number

theorem succeeds_relinkAt (tree : files.IsTree) {oldParents newParents : List String}
    {oldName newName : String} {number newParent : Nat}
    (found : files.numberAt? (oldParents ++ [oldName]) = some number)
    (newFound : files.numberAt? newParents = some newParent)
    (directory : files.entryOf newParent = some .directory)
    (free : files.view (newParents ++ [newName]) = none)
    (apart : ¬ oldParents ++ [oldName] <+: newParents ++ [newName])
    (named : Path.IsName newName) :
    Succeeds (relinkAt (oldParents ++ [oldName]) (newParents ++ [newName]) newParent number) files
      (IsTreeOf (files.view.moved (oldParents ++ [oldName]) (newParents ++ [newName]))) := by
  rcases numberAt?_concat_eq_some_iff.1 found with ⟨oldParent, reached, link⟩
  refine ⟨(files.unlink oldParent oldName).link newParent newName number, ?_, ?_, ?_⟩
  · unfold relinkAt
    rw [run_bind, run_parentNumber oldName reached (entryOf_of_childOf link), entryName_concat,
      entryName_concat]
    exact run_modify ..
  · exact tree.relink reached link newFound directory (tree.childOf_of_free newFound free) apart
      named
  · exact tree.view_relink reached link newFound directory apart

/-- Links a node to another path, over what is there if something is there. -/
def moveOnto (source target : List String) (targetParent number : Nat) :
    Option Nat → Action Unit
  | none => relinkAt source target targetParent number
  | some old =>
      modify (fun files => (files.unlink targetParent (entryName target)).forget old) >>=
        fun _ => relinkAt source target targetParent number

theorem run_move {source target : String} {number : Nat}
    (found : files.numberAt? (Path.parts source) = some number)
    (different : Path.parts source ≠ Path.parts target)
    (apart : ¬ Path.parts source <+: Path.parts target) :
    (move source target).run files =
      (parentNumber (Path.parts target) >>= fun targetParent =>
        if files.view (Path.parts target) = some .directory then fail .isDirectory target
        else if (files.numberAt? (Path.parts target)).isSome ∧
            files.entryOf number = some .directory then fail .notDirectory target
        else
          moveOnto (Path.parts source) (Path.parts target) targetParent number
            (files.numberAt? (Path.parts target))).run files := by
  have notBefore : ¬ (Path.parts source).isPrefixOf (Path.parts target) = true :=
    mt List.isPrefixOf_iff_prefix.1 apart
  have targetKind : ((files.numberAt? (Path.parts target)).bind files.nodes.get?).any
      Node.isDirectory = true ↔ files.view (Path.parts target) = some .directory := by
    unfold view
    cases files.numberAt? (Path.parts target) with
    | none => simp
    | some other => exact any_isDirectory_iff
  unfold move
  simp only [run_bind, run_get, found, if_neg different, if_neg notBefore]
  rcases (parentNumber (Path.parts target)).run files with ⟨_ | targetParent, after⟩
  · rfl
  · simp only [targetKind, Bool.and_eq_true, any_isDirectory_iff]
    split
    · rfl
    · split
      · rfl
      · cases files.numberAt? (Path.parts target) <;> rfl

/-- Moving a file over another one is taking the other out, and linking the file there. -/
theorem succeeds_moveOver (tree : files.IsTree) {oldParents newParents : List String}
    {oldName newName content : String} {number old newParent : Nat}
    (found : files.numberAt? (oldParents ++ [oldName]) = some number)
    (newFound : files.numberAt? newParents = some newParent)
    (directory : files.entryOf newParent = some .directory)
    (replaced : files.numberAt? (newParents ++ [newName]) = some old)
    (file : files.view (newParents ++ [newName]) = some (.file content))
    (apart : ¬ oldParents ++ [oldName] <+: newParents ++ [newName])
    (named : Path.IsName newName) :
    Succeeds (modify (fun files => (files.unlink newParent newName).forget old) >>= fun _ =>
        relinkAt (oldParents ++ [oldName]) (newParents ++ [newName]) newParent number) files
      (IsTreeOf (files.view.moved (oldParents ++ [oldName]) (newParents ++ [newName]))) := by
  have link : files.childOf newParent newName = some old := by
    rw [numberAt?_concat, newFound] at replaced
    exact replaced
  have places := tree.numberAt?_remove newFound link
  have outside : ¬ newParents ++ [newName] <+: oldParents ++ [oldName] := by
    intro before
    have different : newParents ++ [newName] ≠ oldParents ++ [oldName] := fun same =>
      apart (same ▸ List.prefix_refl _)
    have present : (files.view (oldParents ++ [oldName])).isSome :=
      tree.view_isSome_iff.2 (Option.isSome_of_eq_some found)
    rw [tree.view_of_prefix before different present] at file
    cases file
  have shorter : ¬ newParents ++ [newName] <+: newParents := fun before =>
    absurd before.length_le (by simp)
  have kept : ¬ files.IsBelow (newParents ++ [newName]) newParent :=
    mt (tree.isBelow_iff newFound).1 shorter
  have empty : ((files.unlink newParent newName).forget old).view (newParents ++ [newName]) =
      none := by
    rw [tree.view_remove newFound link]
    exact if_pos (List.prefix_refl _)
  have moved := succeeds_relinkAt (tree.remove newFound link)
    (by rw [places, if_neg outside, found]) (by rw [places, if_neg shorter, newFound])
    (by rw [tree.entryOf_remove_of_not_isBelow newFound link kept, directory]) empty apart named
  rw [tree.view_remove newFound link, PathMap.moved_without apart outside] at moved
  rcases moved with ⟨after, ends, holds⟩
  exact ⟨after, by rw [run_bind, run_modify]; exact ends, holds⟩

/-- A node can be moved to a path of its own in a directory, unless a directory is there. -/
theorem succeeds_moveOnto (tree : files.IsTree) {oldParents newParents : List String}
    {oldName newName : String} {number newParent : Nat}
    (found : files.numberAt? (oldParents ++ [oldName]) = some number)
    (newFound : files.numberAt? newParents = some newParent)
    (directory : files.entryOf newParent = some .directory)
    (vacant : files.view (newParents ++ [newName]) ≠ some .directory)
    (apart : ¬ oldParents ++ [oldName] <+: newParents ++ [newName])
    (named : Path.IsName newName) :
    Succeeds (moveOnto (oldParents ++ [oldName]) (newParents ++ [newName]) newParent number
        (files.numberAt? (newParents ++ [newName]))) files
      (IsTreeOf (files.view.moved (oldParents ++ [oldName]) (newParents ++ [newName]))) := by
  cases replaced : files.numberAt? (newParents ++ [newName]) with
  | none =>
      exact succeeds_relinkAt tree found newFound directory (tree.view_eq_none_iff.2 replaced) apart
        named
  | some old =>
      unfold moveOnto
      rw [entryName_concat]
      cases known : files.view (newParents ++ [newName]) with
      | none =>
          rw [tree.view_eq_none_iff, replaced] at known
          cases known
      | some entry =>
          cases entry with
          | directory => exact absurd known vacant
          | file content =>
              exact succeeds_moveOver tree found newFound directory replaced known apart named

theorem atomic_move (tree : files.IsTree) (source target : String) :
    Atomic (move source target) files (IsTreeOf
      (if Path.parts source = Path.parts target then files.view
      else files.view.moved (Path.parts source) (Path.parts target))) := by
  cases found : files.numberAt? (Path.parts source) with
  | none =>
      refine .inr ⟨⟨.notFound, source⟩, ?_⟩
      unfold move
      simp only [run_bind, run_get, found]
      rfl
  | some number =>
      by_cases same : Path.parts source = Path.parts target
      · refine .inl ⟨files, ?_, tree, (if_pos same).symm⟩
        unfold move
        simp only [run_bind, run_get, found, if_pos same]
        rfl
      · rw [if_neg same]
        by_cases within : Path.parts source <+: Path.parts target
        · refine .inr ⟨⟨.invalidArgument, target⟩, ?_⟩
          unfold move
          simp only [run_bind, run_get, found, if_neg same,
            if_pos (List.isPrefixOf_iff_prefix.2 within)]
          rfl
        · have run := run_move found same within
          rw [run_bind] at run
          rcases parentNumber_cases files (Path.parts target) with
            ⟨newParent, ends, newFound, directory⟩ | ⟨error, failed⟩
          · simp only [ends] at run
            by_cases occupied : files.view (Path.parts target) = some .directory
            · rw [if_pos occupied, run_fail] at run
              exact .of_error run
            · rw [if_neg occupied] at run
              split at run
              · rw [run_fail] at run
                exact .of_error run
              · have sourceBelow : Path.parts source ≠ [] := fun rooted =>
                  within (rooted ▸ List.nil_prefix)
                have targetBelow : Path.parts target ≠ [] := fun rooted =>
                  occupied (rooted ▸ tree.view_nil)
                rcases exists_concat_of_ne_nil sourceBelow fun _ => Path.isName_of_mem_parts with
                  ⟨oldParents, oldName, sourceParts, -⟩
                rcases exists_concat_of_ne_nil targetBelow fun _ => Path.isName_of_mem_parts with
                  ⟨newParents, newName, targetParts, named⟩
                rw [sourceParts] at found within run ⊢
                rw [targetParts] at within occupied newFound run ⊢
                rw [parentParts_concat] at newFound
                exact .congr_run run
                  (.inl (succeeds_moveOnto tree found newFound directory occupied within named))
          · rw [failed] at run
            exact .of_error run

end VirtualShell.Files
