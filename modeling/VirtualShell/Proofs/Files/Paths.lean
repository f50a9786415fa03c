import VirtualShell.Proofs.Files.Tree
import VirtualShell.Proofs.Path.Relative

/-!
Contract: the list of all paths of a tree is the tree.

Owns:
- `namesBelow`, the components of what is below a node, and that the walks from the node are
  these, each once;
- `mem_allPaths_iff` and `pairwise_lt_allPaths`: the list of all paths holds the absolute
  normalised paths at which there is something, each once and in order.

Does not own: which trees can be reached (`VirtualShell.Proofs.Files.Reachable`).
-/

namespace VirtualShell.Files

variable {files : Files}

/-! ## Below a node -/

/-- The children of a node; none if there is no such node. -/
def childrenOf (files : Files) (number : Nat) : Table String Nat :=
  ((files.nodes.get? number).map Node.children).getD .empty

theorem get?_childrenOf (number : Nat) (name : String) :
    (files.childrenOf number).get? name = files.childOf number name := by
  unfold childrenOf childOf
  cases files.nodes.get? number <;> rfl

/-- The components of everything below a node, at most `depth` levels deep. -/
def namesBelow (files : Files) : Nat → Nat → List (List String)
  | 0, _ => []
  | depth + 1, number =>
      (files.childrenOf number).entries.flatMap fun (name, child) =>
        [name] :: (files.namesBelow depth child).map (name :: ·)

theorem pathsBelow_eq (depth : Nat) (path : String) (number : Nat) :
    files.pathsBelow depth path number =
      (files.namesBelow depth number).map fun names =>
        path ++ String.ofList (Path.below names) := by
  induction depth generalizing path number with
  | zero => rfl
  | succ depth inductionHypothesis =>
      have child (name : String) :
          path ++ "/" ++ name = path ++ String.ofList (Path.below [name]) := by
        rw [← String.toList_inj]
        simp [Path.below]
      have deeper (name : String) (names : List String) :
          path ++ "/" ++ name ++ String.ofList (Path.below names) =
            path ++ String.ofList (Path.below (name :: names)) := by
        rw [← String.toList_inj]
        simp [Path.below]
      unfold pathsBelow namesBelow
      rw [List.map_flatMap]
      apply List.flatMap_congr
      rintro ⟨name, number⟩ -
      show (path ++ "/" ++ name) :: files.pathsBelow depth (path ++ "/" ++ name) number = _
      rw [List.map_cons, List.map_map, inductionHypothesis, ← child]
      exact congrArg _ (List.map_congr_left fun names _ => deeper name names)

theorem mem_entries_childrenOf {number child : Nat} {name : String} :
    (name, child) ∈ (files.childrenOf number).entries ↔ files.childOf number name = some child := by
  rw [Table.mem_entries_iff, get?_childrenOf]

/-- What is below a node is what a walk from the node leads to. -/
theorem mem_namesBelow_iff {depth number : Nat} {names : List String} :
    names ∈ files.namesBelow depth number ↔
      names ≠ [] ∧ names.length ≤ depth ∧ (files.walk number names).isSome := by
  induction depth generalizing number names with
  | zero =>
      refine iff_of_false List.not_mem_nil ?_
      rintro ⟨present, short, -⟩
      exact present (List.length_eq_zero_iff.1 (Nat.le_zero.1 short))
  | succ depth inductionHypothesis =>
      unfold namesBelow
      simp only [List.mem_flatMap, List.mem_cons, List.mem_map]
      constructor
      · rintro ⟨⟨name, child⟩, entry, here | ⟨deeper, below, rfl⟩⟩
        · rw [here, walk_cons, mem_entries_childrenOf.1 entry]
          exact ⟨List.cons_ne_nil name [], by simp, rfl⟩
        · obtain ⟨-, short, leads⟩ := inductionHypothesis.1 below
          rw [walk_cons, mem_entries_childrenOf.1 entry]
          exact ⟨List.cons_ne_nil name deeper, Nat.succ_le_succ short, leads⟩
      · rintro ⟨present, short, leads⟩
        obtain ⟨name, deeper, rfl⟩ := List.exists_cons_of_ne_nil present
        rw [walk_cons] at leads
        obtain ⟨child, link⟩ := Option.isSome_iff_exists.1 (Option.isSome_of_isSome_bind leads)
        rw [link] at leads
        refine ⟨(name, child), mem_entries_childrenOf.2 link, ?_⟩
        by_cases last : deeper = []
        · exact .inl (by rw [last])
        · exact .inr ⟨deeper,
            inductionHypothesis.2 ⟨last, Nat.le_of_succ_le_succ short, leads⟩, rfl⟩

/-- Nothing is listed twice: children have different names, and what is deeper has more of them. -/
theorem nodup_namesBelow (depth number : Nat) : (files.namesBelow depth number).Nodup := by
  induction depth generalizing number with
  | zero => exact List.nodup_nil
  | succ depth inductionHypothesis =>
      unfold namesBelow
      rw [List.nodup_flatMap]
      constructor
      · rintro ⟨name, child⟩ -
        rw [List.nodup_cons]
        constructor
        · intro member
          obtain ⟨deeper, below, same⟩ := List.mem_map.1 member
          exact (mem_namesBelow_iff.1 below).1 (List.cons.inj same).2
        · exact (inductionHypothesis child).map fun _ _ same => (List.cons.inj same).2
      · refine (List.pairwise_map.1 (files.childrenOf number).distinct).imp ?_
        rintro ⟨left, leftChild⟩ ⟨right, rightChild⟩ different names leftMember rightMember
        have starts {name : String} {child : Nat}
            (member : names ∈ [name] :: (files.namesBelow depth child).map (name :: ·)) :
            names.head? = some name := by
          rcases List.mem_cons.1 member with rfl | later
          · rfl
          · obtain ⟨deeper, -, rfl⟩ := List.mem_map.1 later
            rfl
        exact different (Option.some.inj ((starts leftMember).symm.trans (starts rightMember)))

/-! ## All paths -/

namespace IsTree

theorem isName_of_numberAt? (tree : files.IsTree) {parts : List String}
    (present : (files.numberAt? parts).isSome) : ∀ name ∈ parts, Path.IsName name := by
  induction parts using List.reverseRecOn with
  | nil => exact nofun
  | append_singleton parents name inductionHypothesis =>
      obtain ⟨number, found⟩ := Option.isSome_iff_exists.1 present
      obtain ⟨parent, reached, link⟩ := numberAt?_concat_eq_some_iff.1 found
      intro other member
      rcases List.mem_append.1 member with before | last
      · exact inductionHypothesis (Option.isSome_of_eq_some reached) other before
      · rw [List.mem_singleton.1 last]
        exact tree.named link

/-- The components of all paths, the root included, are those that lead somewhere. -/
theorem mem_nil_namesBelow_iff (tree : files.IsTree) {names : List String} :
    names ∈ [] :: files.namesBelow files.nodes.size root ↔ (files.numberAt? names).isSome := by
  rw [List.mem_cons, mem_namesBelow_iff]
  constructor
  · rintro (rfl | ⟨-, -, leads⟩)
    · rfl
    · exact leads
  · intro leads
    by_cases rooted : names = []
    · exact .inl rooted
    · exact .inr ⟨rooted, Nat.le_of_lt (tree.length_lt_size leads), leads⟩

end IsTree

theorem allPaths_eq (files : Files) :
    files.allPaths =
      Text.sorted (([] :: files.namesBelow files.nodes.size root).map Path.text) := by
  have root : Path.text [] = "/" := by decide
  have below : (files.namesBelow files.nodes.size Files.root).map (fun names =>
      "" ++ String.ofList (Path.below names)) =
        (files.namesBelow files.nodes.size Files.root).map Path.text := by
    refine List.map_congr_left fun names member => ?_
    have present := (mem_namesBelow_iff.1 member).1
    rw [← String.toList_inj, Path.toList_text_of_ne_nil present]
    simp
  unfold allPaths
  rw [pathsBelow_eq, below, List.map_cons, root]

namespace IsTree

/-- The list of all paths holds the absolute normalised paths at which there is something. -/
theorem mem_allPaths_iff (tree : files.IsTree) {path : String} :
    path ∈ files.allPaths ↔ Path.normalize path = path ∧ files.contains path = true := by
  have known (parts : List String) :
      (files.find? parts).isSome ↔ (files.numberAt? parts).isSome := by
    rw [← tree.view_isSome_iff, view_eq_map_find?, Option.isSome_map]
  rw [allPaths_eq, Text.mem_sorted, List.mem_map]
  simp only [tree.mem_nil_namesBelow_iff, contains, known]
  constructor
  · rintro ⟨names, leads, rfl⟩
    have parts := Path.parts_text (tree.isName_of_numberAt? leads)
    rw [Path.normalize, parts]
    exact ⟨rfl, leads⟩
  · rintro ⟨rooted, leads⟩
    exact ⟨Path.parts path, leads, rooted⟩

/-- Each path is listed once, and the paths are in order. -/
theorem pairwise_lt_allPaths (tree : files.IsTree) : files.allPaths.Pairwise (· < ·) := by
  rw [allPaths_eq]
  refine Text.pairwise_lt_sorted (List.Nodup.map_on ?_ ?_)
  · intro left leftMember right rightMember same
    have leftNames := tree.isName_of_numberAt? (tree.mem_nil_namesBelow_iff.1 leftMember)
    have rightNames := tree.isName_of_numberAt? (tree.mem_nil_namesBelow_iff.1 rightMember)
    rw [← Path.parts_text leftNames, same, Path.parts_text rightNames]
  · rw [List.nodup_cons]
    exact ⟨fun member => (mem_namesBelow_iff.1 member).1 rfl, nodup_namesBelow _ _⟩

end IsTree

end VirtualShell.Files
