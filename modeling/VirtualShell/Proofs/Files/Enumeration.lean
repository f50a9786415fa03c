import VirtualShell.Proofs.Files.Paths
import VirtualShell.Proofs.Files.Refinement
import VirtualShell.Proofs.Path.Resolution

/-!
Contract: the list of all paths, looking up a path and listing a directory agree.

Owns:
- `IsEnumeration`, what a list of paths has to be to enumerate a tree;
- `isEnumeration_of_reachable`: the list of all paths of a tree that can be reached is such a list;
- `view_eq_of_snapshot_eq`: with the contents beside it, the list says all that is in the tree.

The list is made by going through the numbers of the nodes, a path is looked up one component
after the other. Both are compared with the tree as a map from paths to entries.
-/

namespace VirtualShell.Files

variable {files : Files}

/-- The paths are those at which there is something, each once and in order. With a path its
parent is among them, and below a directory they are its entries. -/
structure IsEnumeration (files : Files) (paths : List String) : Prop where
  increasing : paths.Pairwise (· < ·)
  complete : ∀ path, path ∈ paths ↔ Path.normalize path = path ∧ files.contains path = true
  parents : ∀ path ∈ paths, Path.parent path ∈ paths
  entries : ∀ directory ∈ paths, files.view (Path.parts directory) = some .directory →
    ∃ names, (Files.list directory).run files = (.ok names, files) ∧ names.Pairwise (· < ·) ∧
      ∀ name, name ∈ names ↔ Path.IsName name ∧ Path.child directory name ∈ paths

namespace IsTree

theorem mem_allPaths_iff_view (tree : files.IsTree) {path : String} :
    path ∈ files.allPaths ↔
      Path.normalize path = path ∧ (files.view (Path.parts path)).isSome := by
  rw [tree.mem_allPaths_iff, contains_eq]

theorem parent_mem_allPaths (tree : files.IsTree) {path : String}
    (member : path ∈ files.allPaths) : Path.parent path ∈ files.allPaths := by
  have present := (tree.mem_allPaths_iff_view.1 member).2
  rw [tree.view_isSome_iff] at present
  rw [tree.mem_allPaths_iff_view, tree.view_isSome_iff, Path.parts_parent]
  exact ⟨Path.normalize_parent path,
    isSome_numberAt?_of_prefix (List.dropLast_prefix _) present⟩

theorem child_mem_allPaths_iff (tree : files.IsTree) {directory name : String}
    (rooted : Path.normalize directory = directory) :
    Path.IsName name ∧ Path.child directory name ∈ files.allPaths ↔
      files.view (Path.parts directory ++ [name]) ≠ none := by
  rw [← Option.isSome_iff_ne_none]
  constructor
  · rintro ⟨valid, member⟩
    have present := (tree.mem_allPaths_iff_view.1 member).2
    rwa [Path.parts_child rooted valid] at present
  · intro present
    have valid : Path.IsName name :=
      tree.isName_of_numberAt? (tree.view_isSome_iff.1 present) name (by simp)
    refine ⟨valid, tree.mem_allPaths_iff_view.2 ⟨?_, ?_⟩⟩
    · rw [Path.child_eq_text rooted]
      exact Path.normalize_text (Path.isName_of_mem_concat valid)
    · rwa [Path.parts_child rooted valid]

theorem isEnumeration_allPaths (tree : files.IsTree) : files.IsEnumeration files.allPaths where
  increasing := tree.pairwise_lt_allPaths
  complete _ := tree.mem_allPaths_iff
  parents _ := tree.parent_mem_allPaths
  entries directory member isDirectory := by
    obtain ⟨names, listed, ordered, members⟩ := tree.run_list_of_directory isDirectory
    refine ⟨names, listed, ordered, fun name => ?_⟩
    rw [members, tree.child_mem_allPaths_iff (tree.mem_allPaths_iff.1 member).1]

end IsTree

/-- What a snapshot has beside a path: the content of a file, and nothing for a directory. -/
def Entry.content? : Entry → Option String
  | .file content => some content
  | .directory => none

theorem Entry.eq_of_content?_eq {first second : Entry}
    (same : first.content? = second.content?) : first = second := by
  cases first <;> cases second <;> cases same <;> rfl

theorem snapshot_eq (under : String) :
    files.snapshot under =
      (files.allPaths.filter fun path => path = under ||
        Text.startsWith path (if under = "/" then "/" else under ++ "/")).map fun path =>
          (path, (files.view (Path.parts path)).bind Entry.content?) := by
  refine List.map_congr_left fun path _ => ?_
  rw [view_eq_map_find?]
  rcases files.find? (Path.parts path) with _ | _ | _ <;> rfl

namespace IsTree

/-- A snapshot has what is at the paths of the tree, beginning with a given one. -/
theorem mem_snapshot_iff (tree : files.IsTree) {under path : String} {content : Option String} :
    (path, content) ∈ files.snapshot under ↔
      (path = under ∨ Text.startsWith path (if under = "/" then "/" else under ++ "/") = true) ∧
        Path.normalize path = path ∧
        ∃ entry, files.view (Path.parts path) = some entry ∧ entry.content? = content := by
  rw [snapshot_eq]
  simp only [List.mem_map, List.mem_filter, Prod.mk.injEq, decide_eq_true_eq, Bool.or_eq_true,
    tree.mem_allPaths_iff_view]
  constructor
  · rintro ⟨_, ⟨⟨rooted, present⟩, inside⟩, rfl, same⟩
    obtain ⟨entry, found⟩ := Option.isSome_iff_exists.1 present
    rw [found] at same
    exact ⟨inside, rooted, entry, found, same⟩
  · rintro ⟨inside, rooted, entry, found, same⟩
    refine ⟨path, ⟨⟨rooted, Option.isSome_iff_exists.2 ⟨entry, found⟩⟩, inside⟩, rfl, ?_⟩
    rw [found]
    exact same

/-- What is at a path can be read from a snapshot of the whole tree. -/
theorem view_eq_some_iff (tree : files.IsTree) {parts : List String} {entry : Entry} :
    files.view parts = some entry ↔ (∀ name ∈ parts, Path.IsName name) ∧
      (Path.text parts, entry.content?) ∈ files.snapshot "/" := by
  constructor
  · intro found
    have named := tree.isName_of_numberAt?
      (tree.view_isSome_iff.1 (Option.isSome_iff_exists.2 ⟨entry, found⟩))
    have rooted := Path.normalize_text named
    refine ⟨named, tree.mem_snapshot_iff.2
      ⟨.inr (Path.startsWith_of_rooted rooted), rooted, entry, ?_, rfl⟩⟩
    rw [Path.parts_text named]
    exact found
  · rintro ⟨named, member⟩
    obtain ⟨-, -, other, found, same⟩ := tree.mem_snapshot_iff.1 member
    rw [Path.parts_text named] at found
    rw [found, Entry.eq_of_content?_eq same]

end IsTree

/-- Trees with the same snapshot have the same at every path. -/
theorem view_eq_of_snapshot_eq {other : Files} (tree : files.IsTree) (otherTree : other.IsTree)
    (same : files.snapshot "/" = other.snapshot "/") : files.view = other.view := by
  funext parts
  refine Option.ext fun entry => ?_
  rw [tree.view_eq_some_iff, otherTree.view_eq_some_iff, same]

/-- The list of all paths of a tree that can be reached enumerates the tree. -/
theorem isEnumeration_of_reachable (reachable : files.Reachable) :
    files.IsEnumeration files.allPaths :=
  reachable.isTree.isEnumeration_allPaths

theorem allPaths_movedFiles : movedFiles.allPaths = ["/", "/b", "/b/c", "/b/c/x"] := by
  rw [allPaths, Text.sorted_eq_insertionSort]
  decide +kernel

theorem isEnumeration_of_moved :
    movedFiles.allPaths = ["/", "/b", "/b/c", "/b/c/x"] ∧
      movedFiles.IsEnumeration movedFiles.allPaths :=
  ⟨allPaths_movedFiles, isEnumeration_of_reachable
    (.tried (.tried (.tried (.tried (.empty 0) 1 _) 2 _) 3 _) 4 _)⟩

end VirtualShell.Files
