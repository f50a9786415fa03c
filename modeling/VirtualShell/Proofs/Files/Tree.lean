import Mathlib.Data.List.Induction
import Mathlib.Data.List.Nodup
import Mathlib.Data.List.Perm.Subperm
import VirtualShell.Files.Operations
import VirtualShell.Proofs.Files.PathMap
import VirtualShell.Proofs.Path
import VirtualShell.Proofs.Table

/-!
Contract: when a table of numbered nodes is a tree, and what can be read off a tree.

Owns:
- `Files.view`, the whole tree as a map from paths to entries;
- `Files.entryOf` and `Files.childOf`, what the table says about one number; walking from
  the root and the invariant are about these two only;
- `Files.IsTree`, the invariant: one path to each node, and a name on every step of it;
- `numberAt?_eq_of_step`, how a walk is recognised from its last step.

Does not own: the changes to a tree (`VirtualShell.Proofs.Files.Changes` and
`VirtualShell.Proofs.Files.Relinking`).
-/

namespace VirtualShell

/-- What a node is, without its time and its children. -/
def Node.entry : Node → Files.Entry
  | .file _ content => .file content
  | .directory _ _ => .directory

namespace Files

variable {files : Files}

/-- What has the number `number`. -/
def entryOf (files : Files) (number : Nat) : Option Entry :=
  (files.nodes.get? number).map Node.entry

/-- The number of the child that `number` has under `name`. -/
def childOf (files : Files) (number : Nat) (name : String) : Option Nat :=
  (files.nodes.get? number).bind fun node => node.children.get? name

/-- What is at each path. -/
def view (files : Files) : PathMap :=
  fun parts => (files.numberAt? parts).bind files.entryOf

theorem view_eq_map_find? (parts : List String) :
    files.view parts = (files.find? parts).map Node.entry := by
  unfold view find?
  rw [Option.map_bind]
  rfl

theorem entryOf_eq_some_directory_iff {number : Nat} :
    files.entryOf number = some .directory ↔
      ∃ modified children, files.nodes.get? number = some (.directory modified children) := by
  unfold entryOf
  rw [Option.map_eq_some_iff]
  constructor
  · rintro ⟨node, found, kind⟩
    cases node with
    | file => exact absurd kind (by simp [Node.entry])
    | directory modified children => exact ⟨modified, children, found⟩
  · rintro ⟨modified, children, found⟩
    exact ⟨_, found, rfl⟩

theorem entryOf_eq_some_file_iff {number : Nat} {content : String} :
    files.entryOf number = some (.file content) ↔
      ∃ modified, files.nodes.get? number = some (.file modified content) := by
  unfold entryOf
  rw [Option.map_eq_some_iff]
  constructor
  · rintro ⟨node, found, kind⟩
    cases node with
    | file modified other =>
        cases kind
        exact ⟨modified, found⟩
    | directory => exact absurd kind (by simp [Node.entry])
  · rintro ⟨modified, found⟩
    exact ⟨_, found, rfl⟩

theorem any_isDirectory_iff {number : Nat} :
    (files.nodes.get? number).any Node.isDirectory = true ↔
      files.entryOf number = some .directory := by
  unfold entryOf
  cases files.nodes.get? number with
  | none => simp
  | some node => cases node <;> simp [Node.isDirectory, Node.entry]

/-- Only a directory has children. -/
theorem entryOf_of_childOf {number child : Nat} {name : String}
    (link : files.childOf number name = some child) : files.entryOf number = some .directory := by
  rcases Option.bind_eq_some_iff.1 link with ⟨node, found, listed⟩
  cases node with
  | file => exact absurd listed (by simp [Node.children, Table.get?_empty])
  | directory modified children => exact entryOf_eq_some_directory_iff.2 ⟨modified, children, found⟩

/-! ## Walking -/

theorem walk_cons (number : Nat) (name : String) (parts : List String) :
    files.walk number (name :: parts) =
      (files.childOf number name).bind fun child => files.walk child parts := by
  have step : (files.nodes.get? number).bind (fun node => node.children.get? name) =
      files.childOf number name := rfl
  rw [walk, step]
  cases files.childOf number name <;> rfl

theorem walk_append (number : Nat) (left right : List String) :
    files.walk number (left ++ right) =
      (files.walk number left).bind fun reached => files.walk reached right := by
  induction left generalizing number with
  | nil => rfl
  | cons name left inductionHypothesis =>
      rw [List.cons_append, walk_cons, walk_cons, Option.bind_assoc]
      exact Option.bind_congr fun child _ => inductionHypothesis child

theorem walk_concat (number : Nat) (parts : List String) (name : String) :
    files.walk number (parts ++ [name]) =
      (files.walk number parts).bind fun reached => files.childOf reached name := by
  rw [walk_append]
  refine Option.bind_congr fun reached _ => ?_
  rw [walk_cons]
  exact Option.bind_fun_some _

theorem numberAt?_nil : files.numberAt? [] = some root :=
  rfl

theorem numberAt?_concat (parts : List String) (name : String) :
    files.numberAt? (parts ++ [name]) =
      (files.numberAt? parts).bind fun reached => files.childOf reached name :=
  walk_concat root parts name

theorem numberAt?_append (left right : List String) :
    files.numberAt? (left ++ right) =
      (files.numberAt? left).bind fun reached => files.walk reached right :=
  walk_append root left right

theorem numberAt?_concat_eq_some_iff {parts : List String} {name : String} {number : Nat} :
    files.numberAt? (parts ++ [name]) = some number ↔
      ∃ parent, files.numberAt? parts = some parent ∧ files.childOf parent name = some number := by
  rw [numberAt?_concat, Option.bind_eq_some_iff]

/-- Walking on is deciding it by the last step: what starts at the root and takes the same
last steps is the walk. -/
theorem numberAt?_eq_of_step (place : List String → Option Nat) (start : place [] = some root)
    (step : ∀ parts name, place (parts ++ [name]) =
      (place parts).bind fun reached => files.childOf reached name)
    (parts : List String) : files.numberAt? parts = place parts := by
  induction parts using List.reverseRecOn with
  | nil => rw [numberAt?_nil, start]
  | append_singleton parts name inductionHypothesis =>
      rw [numberAt?_concat, inductionHypothesis, step]

theorem isSome_numberAt?_of_prefix {left right : List String} (before : left <+: right)
    (present : (files.numberAt? right).isSome) : (files.numberAt? left).isSome := by
  rcases before with ⟨rest, rfl⟩
  rw [numberAt?_append] at present
  exact Option.isSome_of_isSome_bind present

/-! ## The invariant -/

/-- One path leads from the root to each node, along directories and valid names, and no
number is taken that is still to be given. -/
structure IsTree (files : Files) : Prop where
  root_directory : files.entryOf root = some .directory
  child_present : ∀ {number name child},
    files.childOf number name = some child → (files.entryOf child).isSome
  reached : ∀ {number},
    (files.entryOf number).isSome → ∃ parts, files.numberAt? parts = some number
  unique : ∀ {left right number},
    files.numberAt? left = some number → files.numberAt? right = some number → left = right
  named : ∀ {number name child}, files.childOf number name = some child → Path.IsName name
  fresh : ∀ {number}, (files.entryOf number).isSome → number < files.next

namespace IsTree

theorem entryOf_isSome (tree : files.IsTree) {parts : List String} {number : Nat}
    (found : files.numberAt? parts = some number) : (files.entryOf number).isSome := by
  rcases List.eq_nil_or_concat' parts with rfl | ⟨parents, name, rfl⟩
  · cases found
    rw [tree.root_directory]
    rfl
  · rcases numberAt?_concat_eq_some_iff.1 found with ⟨parent, _, link⟩
    exact tree.child_present link

theorem view_isSome_iff (tree : files.IsTree) {parts : List String} :
    (files.view parts).isSome ↔ (files.numberAt? parts).isSome := by
  unfold view
  cases found : files.numberAt? parts with
  | none => rfl
  | some number => simpa using tree.entryOf_isSome found

theorem view_eq_none_iff (tree : files.IsTree) {parts : List String} :
    files.view parts = none ↔ files.numberAt? parts = none := by
  rw [← Option.not_isSome_iff_eq_none, tree.view_isSome_iff, Option.not_isSome_iff_eq_none]

theorem view_nil (tree : files.IsTree) : files.view [] = some .directory :=
  tree.root_directory

/-- What is not the root has a directory before it. -/
theorem view_parent (tree : files.IsTree) {parts : List String} {name : String}
    (present : (files.view (parts ++ [name])).isSome) : files.view parts = some .directory := by
  rcases Option.isSome_iff_exists.1 (tree.view_isSome_iff.1 present) with ⟨number, found⟩
  rcases numberAt?_concat_eq_some_iff.1 found with ⟨parent, reached, link⟩
  unfold view
  rw [reached]
  exact entryOf_of_childOf link

theorem view_of_prefix (tree : files.IsTree) {left right : List String} (before : left <+: right)
    (shorter : left ≠ right) (present : (files.view right).isSome) :
    files.view left = some .directory := by
  rcases before with ⟨rest, rfl⟩
  cases rest with
  | nil => exact absurd (List.append_nil left).symm shorter
  | cons name rest =>
      have next : (files.view (left ++ [name])).isSome := by
        rw [tree.view_isSome_iff] at present ⊢
        exact isSome_numberAt?_of_prefix ⟨rest, by simp⟩ present
      exact tree.view_parent next

/-- No walk leads back to where it started. -/
theorem walk_acyclic (tree : files.IsTree) {number : Nat} (present : (files.entryOf number).isSome)
    {parts : List String} (round : files.walk number parts = some number) : parts = [] := by
  rcases tree.reached present with ⟨before, found⟩
  have again : files.numberAt? (before ++ parts) = some number := by
    rw [numberAt?_append, found]
    exact round
  exact List.append_right_eq_self.1 (tree.unique again found)

end IsTree

/-! ## How long a path can be -/

/-- The numbers that the beginnings of a path lead to. -/
def numbersAlong (files : Files) (parts : List String) : List (Option Nat) :=
  (List.range (parts.length + 1)).map fun count => files.numberAt? (parts.take count)

/-- Different beginnings of a path lead to different nodes. -/
theorem IsTree.nodup_numbersAlong (tree : files.IsTree) {parts : List String}
    (present : (files.numberAt? parts).isSome) : (files.numbersAlong parts).Nodup := by
  refine List.Nodup.map_on ?_ List.nodup_range
  intro left leftBound right rightBound same
  have reached := isSome_numberAt?_of_prefix (List.take_prefix left parts) present
  rcases Option.isSome_iff_exists.1 reached with ⟨number, found⟩
  have equal := congrArg List.length (tree.unique found (same ▸ found))
  rw [List.mem_range] at leftBound rightBound
  rw [List.length_take, List.length_take] at equal
  omega

/-- A path has fewer components than the tree has nodes. -/
theorem IsTree.length_lt_size (tree : files.IsTree) {parts : List String}
    (present : (files.numberAt? parts).isSome) : parts.length < files.nodes.size := by
  have included : files.numbersAlong parts ⊆ files.nodes.keys.map some := by
    intro place member
    rcases List.mem_map.1 member with ⟨count, _, rfl⟩
    have reached := isSome_numberAt?_of_prefix (List.take_prefix count parts) present
    rcases Option.isSome_iff_exists.1 reached with ⟨number, found⟩
    have known : (files.nodes.get? number).isSome := by
      simpa [entryOf] using tree.entryOf_isSome found
    rw [found]
    exact List.mem_map.2 ⟨number, Table.mem_keys_iff.2 known, rfl⟩
  have bound := ((tree.nodup_numbersAlong present).subperm included).length_le
  unfold numbersAlong Table.keys at bound
  simp only [List.length_map, List.length_range] at bound
  exact Nat.lt_of_succ_le bound

end Files

end VirtualShell
