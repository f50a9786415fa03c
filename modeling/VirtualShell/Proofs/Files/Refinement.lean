import VirtualShell.Proofs.Files.Reachable
import VirtualShell.Proofs.Text.Order

/-!
Contract: a file tree behaves as a plain map from paths to what is there.

Owns:
- what reading, asking and listing yield, from the map alone;
- `IsPathMap`, how each operation that ends well changes the map, and what is read from it;
- `isPathMap_of_reachable`: every tree that can be reached is such a map.
-/

namespace VirtualShell.Files

open VirtualShell.Fallible

variable {files : Files}

/-! ## Reading -/

theorem run_read (path : String) :
    (read path).run files =
      (match files.view (Path.parts path) with
        | none => .error ⟨.notFound, path⟩
        | some .directory => .error ⟨.isDirectory, path⟩
        | some (.file content) => .ok content, files) := by
  unfold read
  rw [run_bind, run_nodeAt, view_eq_map_find?]
  cases files.find? (Path.parts path) with
  | none => rfl
  | some node => cases node <;> rfl

theorem contains_eq (path : String) :
    files.contains path = (files.view (Path.parts path)).isSome := by
  unfold contains
  rw [view_eq_map_find?, Option.isSome_map]

/-- The permission bits of what is at a path. -/
def Entry.mode : Entry → Nat
  | .file _ => 0o644
  | .directory => 0o755

/-- The number of bytes of what is at a path. -/
def Entry.size : Entry → Nat
  | .file content => content.utf8ByteSize
  | .directory => 0

theorem run_info_of_absent {path : String} (absent : files.view (Path.parts path) = none) :
    (info path).run files = (.error ⟨.notFound, path⟩, files) := by
  unfold info
  rw [view_eq_map_find?, Option.map_eq_none_iff] at absent
  rw [run_bind, run_nodeAt, absent]
  rfl

theorem run_info_of_find? {path : String} {node : Node}
    (found : files.find? (Path.parts path) = some node) :
    (info path).run files = (.ok node.info, files) := by
  unfold info
  rw [run_bind, run_nodeAt, found]
  rfl

theorem run_info_of_present {path : String} {entry : Entry}
    (present : files.view (Path.parts path) = some entry) :
    ∃ modified, (info path).run files =
      (.ok ⟨decide (entry = .directory), entry.mode, entry.size, modified⟩, files) := by
  rw [view_eq_map_find?, Option.map_eq_some_iff] at present
  rcases present with ⟨node, found, rfl⟩
  refine ⟨node.modified, ?_⟩
  rw [run_info_of_find? found]
  cases node <;> rfl

theorem run_list_of_absent {path : String} (absent : files.view (Path.parts path) = none) :
    (list path).run files = (.error ⟨.notFound, path⟩, files) := by
  unfold list
  rw [view_eq_map_find?, Option.map_eq_none_iff] at absent
  rw [run_bind, run_nodeAt, absent]
  rfl

theorem run_list_of_file {path content : String}
    (file : files.view (Path.parts path) = some (.file content)) :
    (list path).run files = (.error ⟨.notDirectory, path⟩, files) := by
  unfold list
  rw [view_eq_map_find?, Option.map_eq_some_iff] at file
  rcases file with ⟨node, found, kind⟩
  rw [run_bind, run_nodeAt, found]
  cases node with
  | file => rfl
  | directory => cases kind

/-- The names in a directory are those under which there is something. -/
theorem IsTree.mem_children_iff (tree : files.IsTree) {parts : List String} {number : Nat}
    {modified : Int} {children : Table String Nat} (found : files.numberAt? parts = some number)
    (node : files.nodes.get? number = some (.directory modified children)) (name : String) :
    name ∈ children.keys ↔ files.view (parts ++ [name]) ≠ none := by
  rw [Ne, tree.view_eq_none_iff, numberAt?_concat, found, Option.bind_some,
    childOf_eq_of_get? node, Table.mem_keys_iff, Option.isSome_iff_ne_none]
  rfl

theorem IsTree.run_list_of_directory (tree : files.IsTree) {path : String}
    (directory : files.view (Path.parts path) = some .directory) :
    ∃ names, (list path).run files = (.ok names, files) ∧ names.Pairwise (· < ·) ∧
      ∀ name, name ∈ names ↔ files.view (Path.parts path ++ [name]) ≠ none := by
  rcases exists_directory_of_view directory with ⟨number, found, fit⟩
  rcases entryOf_eq_some_directory_iff.1 fit with ⟨modified, children, node⟩
  have here : files.find? (Path.parts path) = some (.directory modified children) := by
    unfold find?
    rw [found]
    exact node
  refine ⟨Text.sorted children.keys, ?_, Text.pairwise_lt_sorted children.distinct, ?_⟩
  · unfold list
    rw [run_bind, run_nodeAt, here]
    rfl
  · intro name
    rw [Text.mem_sorted]
    exact tree.mem_children_iff found node name

/-! ## The map -/

/-- The tree behaves as its map of paths: every operation that ends well changes the map as
said and nowhere else, and what is read and listed is what the map says. -/
structure IsPathMap (files : Files) : Prop where
  write : ∀ {path content after},
    (Files.write path content false).run files = (.ok (), after) →
      after.view = files.view.put (Path.parts path) (.file content)
  write_parents : ∀ {path content after},
    (Files.write path content true).run files = (.ok (), after) →
      after.view = (files.view.withDirectories (Path.parentParts (Path.parts path))).put
        (Path.parts path) (.file content)
  append : ∀ {path text after},
    (Files.append path text).run files = (.ok (), after) →
      after.view = files.view.put (Path.parts path)
        (.file (files.view.appended (Path.parts path) text))
  makeDirectory : ∀ {path after},
    (Files.makeDirectory path false).run files = (.ok (), after) →
      after.view = files.view.put (Path.parts path) .directory
  makeDirectory_recursive : ∀ {path after},
    (Files.makeDirectory path true).run files = (.ok (), after) →
      after.view = files.view.withDirectories (Path.parts path) ∧
        after.view (Path.parts path) = some .directory
  remove : ∀ {path recursive force after},
    (Files.remove path recursive force).run files = (.ok (), after) →
      after.view = files.view.without (Path.parts path)
  move_same : ∀ {source target after},
    (Files.move source target).run files = (.ok (), after) →
      Path.parts source = Path.parts target → after.view = files.view
  move : ∀ {source target after},
    (Files.move source target).run files = (.ok (), after) →
      Path.parts source ≠ Path.parts target →
        (∀ rest, after.view (Path.parts target ++ rest) = files.view (Path.parts source ++ rest)) ∧
        (∀ rest, after.view (Path.parts source ++ rest) = none) ∧
        ∀ other, ¬ Path.parts source <+: other → ¬ Path.parts target <+: other →
          after.view other = files.view other
  read : ∀ path, (Files.read path).run files =
    (match files.view (Path.parts path) with
      | none => .error ⟨.notFound, path⟩
      | some .directory => .error ⟨.isDirectory, path⟩
      | some (.file content) => .ok content, files)
  contains : ∀ path, files.contains path = (files.view (Path.parts path)).isSome
  info : ∀ path,
    match files.view (Path.parts path) with
    | none => (Files.info path).run files = (.error ⟨.notFound, path⟩, files)
    | some entry => ∃ modified, (Files.info path).run files =
        (.ok ⟨decide (entry = .directory), entry.mode, entry.size, modified⟩, files)
  list : ∀ path,
    match files.view (Path.parts path) with
    | none => (Files.list path).run files = (.error ⟨.notFound, path⟩, files)
    | some (.file _) => (Files.list path).run files = (.error ⟨.notDirectory, path⟩, files)
    | some .directory => ∃ names, (Files.list path).run files = (.ok names, files) ∧
        names.Pairwise (· < ·) ∧
          ∀ name, name ∈ names ↔ files.view (Path.parts path ++ [name]) ≠ none

/-- Only paths that are not below one another can be moved to each other. -/
theorem IsTree.apart_of_move (tree : files.IsTree) {source target : String} {after : Files}
    (done : (Files.move source target).run files = (.ok (), after))
    (different : Path.parts source ≠ Path.parts target) :
    ¬ Path.parts source <+: Path.parts target ∧ ¬ Path.parts target <+: Path.parts source := by
  cases found : files.numberAt? (Path.parts source) with
  | none =>
      unfold Files.move at done
      simp only [run_bind, run_get, found] at done
      cases done
  | some number =>
      by_cases within : Path.parts source <+: Path.parts target
      · unfold Files.move at done
        simp only [run_bind, run_get, found, if_neg different,
          if_pos (List.isPrefixOf_iff_prefix.2 within)] at done
        cases done
      · refine ⟨within, fun around => ?_⟩
        have occupied : files.view (Path.parts target) = some .directory :=
          tree.view_of_prefix around (Ne.symm different)
            (tree.view_isSome_iff.2 (Option.isSome_of_eq_some found))
        rw [run_move found different within, run_bind] at done
        rcases parentNumber_cases files (Path.parts target) with ⟨parent, ends, -⟩ | ⟨error, failed⟩
        · rw [ends] at done
          simp only [if_pos occupied, run_fail] at done
          cases done
        · rw [failed] at done
          cases done

theorem IsTree.isPathMap (tree : files.IsTree) : files.IsPathMap where
  write done := ((atomic_write tree _ _ false).success done).2
  write_parents done := ((atomic_write tree _ _ true).success done).2
  append done := ((atomic_append tree _ _).success done).2
  makeDirectory done := ((atomic_makeDirectory tree _ false).success done).2
  makeDirectory_recursive done :=
    have ends := (atomic_makeDirectories tree _).success done
    ⟨ends.1.2, ends.2⟩
  remove done := ((atomic_remove tree _ _ _).success done).2
  move_same done same := by
    have ends := ((atomic_move tree _ _).success done).2
    rwa [if_pos same] at ends
  move done different := by
    have ends := ((atomic_move tree _ _).success done).2
    have apart := tree.apart_of_move done different
    rw [if_neg different] at ends
    rw [ends]
    exact ⟨PathMap.moved_target, PathMap.moved_source apart.1 apart.2,
      fun _ => PathMap.moved_other⟩
  read := run_read
  contains := contains_eq
  info path := by
    cases known : files.view (Path.parts path) with
    | none => exact run_info_of_absent known
    | some entry => exact run_info_of_present known
  list path := by
    cases known : files.view (Path.parts path) with
    | none => exact run_list_of_absent known
    | some entry =>
        cases entry with
        | file content => exact run_list_of_file known
        | directory => exact tree.run_list_of_directory known

/-- Every tree that can be reached behaves as its map of paths. -/
theorem isPathMap_of_reachable (reachable : files.Reachable) : files.IsPathMap :=
  reachable.isTree.isPathMap

theorem isPathMap_of_moved :
    movedFiles.IsPathMap ∧
      ((Files.move "b/c" "/d/../e").run movedFiles).2.view ["e", "x"] = some (.file "1") :=
  ⟨isPathMap_of_reachable (.tried (.tried (.tried (.tried (.empty 0) 1 _) 2 _) 3 _) 4 _),
    by decide +kernel⟩

end VirtualShell.Files
