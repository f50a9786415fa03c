import VirtualShell.Proofs.Files.Atomic
import VirtualShell.Proofs.Files.Changes

/-!
Contract: what making directories and writing files does.

Owns:
- `createAt`, the making of one node, and `makeDirectory`, `write` and `append`: each ends
  in the tree of a map that its path and content determine, or changes nothing.
-/

namespace VirtualShell.Files

open VirtualShell.Fallible

variable {files : Files}

/-! ## On the way to a path -/

theorem IsTree.present_of_prefix (tree : files.IsTree) {parts : List String}
    (present : (files.view parts).isSome) :
    ∀ other, other <+: parts → files.view other ≠ none := by
  intro other before absent
  by_cases same : other = parts
  · rw [← same, absent] at present
    cases present
  · rw [tree.view_of_prefix before same present] at absent
    cases absent

/-- Below a path where nothing is there is nothing. -/
theorem IsTree.without_of_absent (tree : files.IsTree) {parts : List String}
    (absent : files.view parts = none) : files.view.without parts = files.view := by
  funext other
  unfold PathMap.without
  split
  · rename_i below
    cases found : files.view other with
    | none => rfl
    | some entry =>
        exact absurd absent
          (tree.present_of_prefix (Option.isSome_of_eq_some found) parts below)
  · rfl

/-! ## Making nodes -/

/-- Makes a new node in the directory that holds a path. -/
def createAt (parts : List String) (node : Files → Node) : Action Unit := do
  let parent ← parentNumber parts
  modify fun files => files.create parent (entryName parts) (node files)

section CreateAt

variable {parents : List String} {name : String} {node : Files → Node}

theorem succeeds_createAt (tree : files.IsTree) (directory : files.view parents = some .directory)
    (free : files.view (parents ++ [name]) = none) (named : Path.IsName name)
    (leaf : (node files).children = .empty) :
    Succeeds (createAt (parents ++ [name]) node) files
      (IsTreeOf (files.view.put (parents ++ [name]) (node files).entry)) := by
  rcases exists_directory_of_view directory with ⟨parent, found, fit⟩
  have unlinked := tree.childOf_of_free found free
  refine ⟨files.create parent name (node files), ?_, ?_, ?_⟩
  · unfold createAt
    rw [run_bind, run_parentNumber name found fit, entryName_concat]
    exact run_modify ..
  · exact tree.create found fit leaf unlinked named
  · exact tree.view_create found fit leaf unlinked

theorem atomic_createAt (tree : files.IsTree) (free : files.view (parents ++ [name]) = none)
    (named : Path.IsName name) (leaf : (node files).children = .empty) :
    Atomic (createAt (parents ++ [name]) node) files
      (IsTreeOf (files.view.put (parents ++ [name]) (node files).entry)) := by
  rcases parentNumber_cases files (parents ++ [name]) with
    ⟨parent, -, found, directory⟩ | ⟨error, failed⟩
  · rw [parentParts_concat] at found
    have fit : files.view parents = some .directory :=
      Option.bind_eq_some_iff.2 ⟨parent, found, directory⟩
    exact .inl (succeeds_createAt tree fit free named leaf)
  · refine .inr ⟨error, ?_⟩
    unfold createAt
    rw [run_bind, failed]

end CreateAt

theorem createDirectory_eq_createAt (parts : List String) :
    createDirectory parts = createAt parts fun files => .directory files.now .empty :=
  rfl

theorem run_createDirectories (parents : List String) (name : String) :
    (createDirectories (parents ++ [name])).run files =
      if files.view parents = none then
        (createDirectories parents >>= fun _ => createDirectory (parents ++ [name])).run files
      else (createDirectory (parents ++ [name])).run files := by
  rw [createDirectories]
  simp only [List.concat_ne_nil, dite_false, parentParts_concat, run_bind, run_nodeAt]
  have missing : (files.find? parents).isNone = true ↔ files.view parents = none := by
    rw [view_eq_map_find?, Option.map_eq_none_iff, Option.isNone_iff_eq_none]
  by_cases absent : files.view parents = none
  · rw [if_pos absent, if_pos (missing.2 absent)]
    exact run_bind ..
  · rw [if_neg absent, if_neg (mt missing.1 absent)]

/-- Making a directory with those before it makes all that is missing, or nothing. -/
theorem atomic_createDirectories (tree : files.IsTree) {parts : List String}
    (free : files.view parts = none) (named : ∀ name ∈ parts, Path.IsName name) :
    Atomic (createDirectories parts) files (IsTreeOf (files.view.withDirectories parts)) := by
  induction parts using List.reverseRecOn with
  | nil =>
      rw [tree.view_nil] at free
      cases free
  | append_singleton parents name inductionHypothesis =>
      have last : Path.IsName name := named name (by simp)
      have run : (createDirectories (parents ++ [name])).run files = _ :=
        run_createDirectories parents name
      rw [← PathMap.withDirectories_concat free]
      by_cases absent : files.view parents = none
      · rw [if_pos absent] at run
        refine .congr_run run (.andThen (inductionHypothesis absent
          fun part member => named part (List.mem_append_left _ member)) ?_)
        intro after ⟨kept, map⟩
        have made : after.view parents = some .directory :=
          map ▸ PathMap.withDirectories_self absent
        have still : after.view (parents ++ [name]) = none := by
          rw [map]
          unfold PathMap.withDirectories
          rw [if_neg fun both => absurd both.1.length_le (by simp), free]
        rw [createDirectory_eq_createAt, ← map]
        exact succeeds_createAt kept made still last rfl
      · rw [if_neg absent] at run
        have present := tree.present_of_prefix (Option.isSome_iff_ne_none.2 absent)
        rw [PathMap.withDirectories_of_present present]
        exact .congr_run run (atomic_createAt tree free last rfl)

theorem run_makeDirectory (path : String) (recursive : Bool) :
    (makeDirectory path recursive).run files =
      match files.view (Path.parts path) with
      | none =>
          (if recursive then createDirectories (Path.parts path)
          else createDirectory (Path.parts path)).run files
      | some entry =>
          if entry = .directory ∧ recursive then (.ok (), files)
          else (.error ⟨.alreadyExists, path⟩, files) := by
  unfold makeDirectory
  rw [run_bind, run_nodeAt, view_eq_map_find?]
  cases files.find? (Path.parts path) with
  | none => rfl
  | some node => cases node <;> cases recursive <;> rfl

/-- Making a directory with those before it ends with a directory at the path. -/
theorem atomic_makeDirectories (tree : files.IsTree) (path : String) :
    Atomic (makeDirectory path true) files fun after =>
      IsTreeOf (files.view.withDirectories (Path.parts path)) after ∧
        after.view (Path.parts path) = some .directory := by
  have run : (makeDirectory path true).run files = _ := run_makeDirectory path true
  cases known : files.view (Path.parts path) with
  | none =>
      rw [known] at run
      have made := atomic_createDirectories tree known fun _ => Path.isName_of_mem_parts
      refine .congr_run run (made.mono ?_)
      intro after holds
      exact ⟨holds, holds.2 ▸ PathMap.withDirectories_self known⟩
  | some entry =>
      rw [known] at run
      cases entry with
      | file content => exact .of_error run
      | directory =>
          have present := tree.present_of_prefix (Option.isSome_of_eq_some known)
          refine .of_run run ⟨⟨tree, ?_⟩, known⟩
          rw [PathMap.withDirectories_of_present present]

theorem atomic_makeDirectory (tree : files.IsTree) (path : String) (recursive : Bool) :
    Atomic (makeDirectory path recursive) files (IsTreeOf
      (if recursive then files.view.withDirectories (Path.parts path)
      else files.view.put (Path.parts path) .directory)) := by
  cases recursive with
  | true => exact (atomic_makeDirectories tree path).mono fun _ holds => holds.1
  | false =>
      have run : (makeDirectory path false).run files = _ := run_makeDirectory path false
      cases known : files.view (Path.parts path) with
      | none =>
          rw [known] at run
          have below : Path.parts path ≠ [] := by
            intro rooted
            rw [rooted, tree.view_nil] at known
            cases known
          rcases exists_concat_of_ne_nil below fun _ => Path.isName_of_mem_parts with
            ⟨parents, name, same, named⟩
          rw [same] at known run ⊢
          exact .congr_run run (atomic_createAt tree known named rfl)
      | some entry =>
          rw [known] at run
          have refused : ¬ (entry = .directory ∧ false = true) := by simp
          simp only [if_neg refused] at run
          exact .of_error run

/-! ## Writing -/

theorem exists_file_of_view {parts : List String} {content : String}
    (file : files.view parts = some (.file content)) :
    ∃ number, files.numberAt? parts = some number ∧
      files.entryOf number = some (.file content) :=
  Option.bind_eq_some_iff.1 file

theorem run_write_of_file {path : String} {number : Nat} {old : String}
    (found : files.numberAt? (Path.parts path) = some number)
    (file : files.entryOf number = some (.file old)) (content : String) (parents : Bool) :
    (write path content parents).run files =
      (.ok (), files.setNode number (.file files.now content)) := by
  rcases entryOf_eq_some_file_iff.1 file with ⟨modified, node⟩
  unfold write
  simp only [run_bind, run_get, found, node]
  rfl

theorem run_write_of_directory {path : String}
    (directory : files.view (Path.parts path) = some .directory) (content : String)
    (parents : Bool) :
    (write path content parents).run files = (.error ⟨.isDirectory, path⟩, files) := by
  rcases exists_directory_of_view directory with ⟨number, found, fit⟩
  rcases entryOf_eq_some_directory_iff.1 fit with ⟨modified, children, node⟩
  unfold write
  simp only [run_bind, run_get, found, node]
  rfl

theorem run_write_of_absent {path : String} (absent : files.numberAt? (Path.parts path) = none)
    (content : String) (parents : Bool) :
    (write path content parents).run files =
      ((if parents then makeDirectory (Path.text (Path.parentParts (Path.parts path))) true
        else pure ()) >>= fun _ =>
        createAt (Path.parts path) fun files => .file files.now content).run files := by
  unfold write
  rw [run_bind, run_get]
  simp only [absent]
  cases parents <;> rfl

/-- Writing a file that is there replaces its content. -/
theorem IsTree.setFile_isTreeOf (tree : files.IsTree) {parts : List String} {number : Nat}
    {old : String} (found : files.numberAt? parts = some number)
    (file : files.entryOf number = some (.file old)) (modified : Int) (content : String) :
    IsTreeOf (files.view.put parts (.file content))
      (files.setNode number (.file modified content)) :=
  ⟨tree.setFile file modified content, tree.view_setFile found file modified content⟩

theorem atomic_write (tree : files.IsTree) (path content : String) (parents : Bool) :
    Atomic (write path content parents) files (IsTreeOf
      ((if parents then files.view.withDirectories (Path.parentParts (Path.parts path))
        else files.view).put (Path.parts path) (.file content))) := by
  cases known : files.view (Path.parts path) with
  | some entry =>
      cases entry with
      | directory => exact .of_error (run_write_of_directory known content parents)
      | file old =>
          have present := tree.present_of_prefix (Option.isSome_of_eq_some known)
          have ready : (if parents then
              files.view.withDirectories (Path.parentParts (Path.parts path)) else files.view) =
              files.view := by
            split
            · exact PathMap.withDirectories_of_present fun other before =>
                present other (before.trans (List.dropLast_prefix _))
            · rfl
          rcases exists_file_of_view known with ⟨number, found, file⟩
          rw [ready]
          exact .of_run (run_write_of_file found file content parents)
            (tree.setFile_isTreeOf found file files.now content)
  | none =>
      have run := run_write_of_absent (tree.view_eq_none_iff.1 known) content parents
      have below : Path.parts path ≠ [] := by
        intro rooted
        rw [rooted, tree.view_nil] at known
        cases known
      have named : ∀ name ∈ Path.parts path, Path.IsName name := fun _ => Path.isName_of_mem_parts
      rcases exists_concat_of_ne_nil below named with ⟨before, name, same, last⟩
      rw [same, parentParts_concat] at run
      rw [same] at known named
      rw [same, parentParts_concat]
      cases parents with
      | false => exact .congr_run run (atomic_createAt tree known last rfl)
      | true =>
          have read : Path.parts (Path.text before) = before :=
            Path.parts_text fun part member => named part (List.mem_append_left _ member)
          have made := atomic_makeDirectories tree (Path.text before)
          rw [read] at made
          refine .congr_run run (.andThen made ?_)
          intro after ⟨⟨kept, map⟩, directory⟩
          have still : after.view (before ++ [name]) = none := by
            rw [map]
            unfold PathMap.withDirectories
            rw [if_neg fun both => absurd both.1.length_le (by simp), known]
          simp only [if_true]
          rw [← map]
          exact succeeds_createAt kept directory still last rfl

theorem run_append_of_file {path : String} {number : Nat} {old : String}
    (found : files.numberAt? (Path.parts path) = some number)
    (file : files.entryOf number = some (.file old)) (content : String) :
    (append path content).run files =
      (.ok (), files.setNode number (.file files.now (old ++ content))) := by
  rcases entryOf_eq_some_file_iff.1 file with ⟨modified, node⟩
  unfold append
  simp only [run_bind, run_get, found, node]
  rfl

theorem run_append_of_directory {path : String}
    (directory : files.view (Path.parts path) = some .directory) (content : String) :
    (append path content).run files = (.error ⟨.isDirectory, path⟩, files) := by
  rcases exists_directory_of_view directory with ⟨number, found, fit⟩
  rcases entryOf_eq_some_directory_iff.1 fit with ⟨modified, children, node⟩
  unfold append
  simp only [run_bind, run_get, found, node]
  rfl

theorem run_append_of_absent {path : String} (absent : files.view (Path.parts path) = none)
    (tree : files.IsTree) (content : String) :
    (append path content).run files =
      (write (Path.text (Path.parts path)) content false).run files := by
  unfold append
  simp only [run_bind, run_get, tree.view_eq_none_iff.1 absent]

theorem atomic_append (tree : files.IsTree) (path content : String) :
    Atomic (append path content) files (IsTreeOf
      (files.view.put (Path.parts path)
        (.file (files.view.appended (Path.parts path) content)))) := by
  unfold PathMap.appended
  cases known : files.view (Path.parts path) with
  | some entry =>
      cases entry with
      | directory => exact .of_error (run_append_of_directory known content)
      | file old =>
          rcases exists_file_of_view known with ⟨number, found, file⟩
          exact .of_run (run_append_of_file found file content)
            (tree.setFile_isTreeOf found file files.now (old ++ content))
  | none =>
      have written := atomic_write tree (Path.text (Path.parts path)) content false
      rw [Path.parts_text fun _ => Path.isName_of_mem_parts] at written
      exact .congr_run (run_append_of_absent known tree content) written

end VirtualShell.Files
