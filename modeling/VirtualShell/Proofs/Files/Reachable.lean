import VirtualShell.Proofs.Files.Moving

/-!
Contract: whatever is done with a file tree, it stays a tree.

Owns:
- `Operation`, the operations that can change a tree, and `Reachable`, the trees that a
  seeded tree becomes when operations are tried on it, each at its time of day;
- `KeepsTree`, work that leaves a tree also when it fails, and that all operations are
  such work;
- `IsSound`, what the table of nodes looks like in a tree, and `isSound_of_reachable`.
-/

namespace VirtualShell.Files

open VirtualShell.Fallible

variable {files : Files}

/-- The operations that can change a tree. -/
inductive Operation where
  | write (path content : String) (parents : Bool)
  | append (path content : String)
  | makeDirectory (path : String) (recursive : Bool)
  | remove (path : String) (recursive force : Bool)
  | copy (source target : String) (recursive : Bool)
  | move (source target : String)
deriving DecidableEq, Repr

/-- What an operation does. -/
def Operation.action : Operation → Action Unit
  | .write path content parents => Files.write path content parents
  | .append path content => Files.append path content
  | .makeDirectory path recursive => Files.makeDirectory path recursive
  | .remove path recursive force => Files.remove path recursive force
  | .copy source target recursive => Files.copy source target recursive
  | .move source target => Files.move source target

/-- The tree after an operation has been tried at the time of day `now`; what it has changed
before it fails stays changed. -/
def after (files : Files) (now : Int) (operation : Operation) : Files :=
  (operation.action.run { files with now := now }).2

/-- The trees that a tree made of given files becomes when operations are tried on it. -/
inductive Reachable : Files → Prop where
  | seeded {now : Int} {entries : List (String × String)} {files : Files}
      (made : ofList now entries = .ok files) : Reachable files
  | tried {files : Files} (before : Reachable files) (now : Int) (operation : Operation) :
      Reachable (files.after now operation)

theorem Reachable.empty (now : Int) : Reachable (Files.empty now) :=
  .seeded (show ofList now [] = .ok (Files.empty now) from rfl)

/-! ## Work that keeps a tree -/

/-- Work that leaves a tree, also when it fails. -/
def KeepsTree {α : Type} (action : Action α) : Prop :=
  ∀ files : Files, files.IsTree → (action.run files).2.IsTree

namespace KeepsTree

variable {α β : Type}

theorem pure (value : α) : KeepsTree (pure value) :=
  fun _ tree => tree

theorem fail (cause : FileCause) (path : String) : KeepsTree (fail cause path : Action α) :=
  fun _ tree => tree

theorem get : KeepsTree MonadState.get :=
  fun _ tree => tree

theorem nodeAt (parts : List String) : KeepsTree (nodeAt parts) :=
  fun _ tree => tree

theorem bind {action : Action α} {next : α → Action β} (first : KeepsTree action)
    (rest : ∀ value, KeepsTree (next value)) : KeepsTree (action >>= next) := by
  intro files tree
  have kept := first files tree
  rw [run_bind]
  rcases ends : action.run files with ⟨_ | value, between⟩
  · rw [ends] at kept
    exact kept
  · rw [ends] at kept
    exact rest value between kept

theorem forM {step : α → Action Unit} (each : ∀ value, KeepsTree (step value)) (values : List α) :
    KeepsTree (values.forM step) := by
  induction values with
  | nil => exact pure ()
  | cons value values inductionHypothesis => exact bind (each value) fun _ => inductionHypothesis

theorem of_atomic {action : Action Unit} {map : Files → PathMap}
    (atomic : ∀ files : Files, files.IsTree → Atomic action files (IsTreeOf (map files))) :
    KeepsTree action :=
  fun files tree => (atomic files tree).isTree tree

theorem write (path content : String) (parents : Bool) : KeepsTree (write path content parents) :=
  of_atomic fun _ tree => atomic_write tree path content parents

theorem makeDirectory (path : String) (recursive : Bool) :
    KeepsTree (makeDirectory path recursive) :=
  of_atomic fun _ tree => atomic_makeDirectory tree path recursive

theorem copyWith {copyEntry : String → String → Action Unit}
    (entries : ∀ source target, KeepsTree (copyEntry source target)) (source target : String)
    (recursive : Bool) : KeepsTree (copyWith copyEntry source target recursive) := by
  unfold Files.copyWith
  refine bind (nodeAt _) fun node => ?_
  match node with
  | none => exact fail _ _
  | some (.file _ content) => exact write _ content false
  | some (.directory _ children) =>
      simp only
      split
      · exact fail _ _
      · split
        · exact fail _ _
        · exact bind (makeDirectory _ true) fun _ => forM (fun name => entries _ _) _

/-- A copy keeps a tree, wherever on its way it stops. -/
theorem copyWithin (depth : Nat) (source target : String) (recursive : Bool) :
    KeepsTree (copyWithin depth source target recursive) := by
  induction depth generalizing source target recursive with
  | zero => exact copyWith (fun _ _ => pure ()) source target recursive
  | succ depth inductionHypothesis =>
      exact copyWith (fun source target => inductionHypothesis source target true) source target
        recursive

/-- Every operation keeps a tree. -/
theorem action (operation : Operation) : KeepsTree operation.action := by
  cases operation with
  | write path content parents => exact write path content parents
  | append path content => exact of_atomic fun _ tree => atomic_append tree path content
  | makeDirectory path recursive => exact makeDirectory path recursive
  | remove path recursive force =>
      exact of_atomic fun _ tree => atomic_remove tree path recursive force
  | copy source target recursive =>
      exact bind get fun files => copyWithin files.nodes.size source target recursive
  | move source target => exact of_atomic fun _ tree => atomic_move tree source target

end KeepsTree

/-! ## Trees that can be reached -/

theorem entryOf_empty (now : Int) (number : Nat) :
    (empty now).entryOf number = if root = number then some .directory else none := by
  unfold entryOf empty
  rw [Table.get?_insert]
  split <;> rfl

theorem childOf_empty (now : Int) (number : Nat) (name : String) :
    (empty now).childOf number name = none := by
  unfold childOf empty
  rw [Table.get?_insert]
  split <;> rfl

theorem IsTree.empty (now : Int) : (empty now).IsTree := by
  have onlyRoot : ∀ {parts number}, (Files.empty now).numberAt? parts = some number →
      parts = [] := by
    intro parts number found
    rcases List.eq_nil_or_concat' parts with rfl | ⟨parents, name, rfl⟩
    · rfl
    · rcases numberAt?_concat_eq_some_iff.1 found with ⟨parent, _, link⟩
      rw [childOf_empty] at link
      cases link
  have known : ∀ {number}, ((Files.empty now).entryOf number).isSome → root = number := by
    intro number present
    rw [entryOf_empty] at present
    split at present
    · assumption
    · cases present
  constructor
  · rw [entryOf_empty, if_pos rfl]
  · intro number name child link
    rw [childOf_empty] at link
    cases link
  · intro number present
    exact ⟨[], by rw [numberAt?_nil, known present]⟩
  · intro left right number leftFound rightFound
    rw [onlyRoot leftFound, onlyRoot rightFound]
  · intro number name child link
    rw [childOf_empty] at link
    cases link
  · intro number present
    rw [← known present]
    exact Nat.zero_lt_one

theorem numberAt?_setTime (files : Files) (now : Int) (parts : List String) :
    Files.numberAt? { files with now := now } parts = files.numberAt? parts := by
  have places : ∀ parts,
      Files.numberAt? { files with now := now } parts = files.numberAt? parts := by
    apply numberAt?_eq_of_step files.numberAt? numberAt?_nil
    intro parents name
    exact numberAt?_concat parents name
  exact places parts

theorem IsTree.setTime (tree : files.IsTree) (now : Int) : { files with now := now }.IsTree := by
  constructor
  · exact tree.root_directory
  · exact tree.child_present
  · intro number present
    simp only [numberAt?_setTime]
    exact tree.reached present
  · intro left right number leftFound rightFound
    rw [numberAt?_setTime] at leftFound rightFound
    exact tree.unique leftFound rightFound
  · exact tree.named
  · exact tree.fresh

theorem isTree_of_ofList {now : Int} {entries : List (String × String)}
    (made : ofList now entries = .ok files) : files.IsTree := by
  have each (entry : String × String) : KeepsTree (write entry.1 entry.2 true) :=
    KeepsTree.write entry.1 entry.2 true
  have kept : KeepsTree (entries.forM fun entry => write entry.1 entry.2 true) :=
    KeepsTree.forM each entries
  have tree := kept (Files.empty now) (IsTree.empty now)
  unfold ofList at made
  simp only at made
  split at made
  · rename_i after ends
    cases made
    have ends : (entries.forM fun entry => write entry.1 entry.2 true : Action Unit).run
        (Files.empty now) = (.ok (), files) := ends
    rw [ends] at tree
    exact tree
  · cases made

/-- Whatever is done with a file tree, it stays a tree. -/
theorem Reachable.isTree (reachable : files.Reachable) : files.IsTree := by
  induction reachable with
  | seeded made => exact isTree_of_ofList made
  | tried before now operation inductionHypothesis =>
      exact KeepsTree.action operation _ (inductionHypothesis.setTime now)

/-! ## The table of a tree -/

/-- What the table of nodes looks like in a tree: the root is a directory, every child is in
the table, every other node is a child in one place and can be reached, nothing leads back to
where it starts, files have no children, and children have names. -/
structure IsSound (files : Files) : Prop where
  root_directory : ∃ modified children,
    files.nodes.get? root = some (.directory modified children)
  child_present : ∀ {number node name child},
    files.nodes.get? number = some node → node.children.get? name = some child →
      ∃ childNode, files.nodes.get? child = some childNode
  one_place : ∀ {number node}, files.nodes.get? number = some node → number ≠ root →
    ∃! place : Nat × String, files.childOf place.1 place.2 = some number
  reached : ∀ {number node}, files.nodes.get? number = some node →
    ∃ parts, files.walk root parts = some number
  root_unlinked : ∀ number name, files.childOf number name ≠ some root
  acyclic : ∀ {number node parts}, files.nodes.get? number = some node →
    files.walk number parts = some number → parts = []
  file_leaf : ∀ {number node}, files.nodes.get? number = some node →
    node.isDirectory = false → node.children = .empty
  named : ∀ {number node name child},
    files.nodes.get? number = some node → node.children.get? name = some child →
      name ≠ "" ∧ '/' ∉ name.toList ∧ name ≠ "." ∧ name ≠ ".."

theorem isSome_entryOf {number : Nat} {node : Node}
    (found : files.nodes.get? number = some node) : (files.entryOf number).isSome := by
  unfold entryOf
  rw [found]
  rfl

theorem childOf_eq_of_get? {number : Nat} {node : Node}
    (found : files.nodes.get? number = some node) (name : String) :
    files.childOf number name = node.children.get? name := by
  unfold childOf
  rw [found]
  rfl

theorem IsTree.root_unlinked (tree : files.IsTree) (number : Nat) (name : String) :
    files.childOf number name ≠ some root := by
  intro link
  have known : (files.entryOf number).isSome := Option.isSome_of_eq_some (entryOf_of_childOf link)
  rcases tree.reached known with ⟨parts, found⟩
  have again := numberAt?_concat_eq_some_iff.2 ⟨number, found, link⟩
  exact List.concat_ne_nil name parts (tree.unique again numberAt?_nil)

/-- Every node but the root is a child in exactly one place. -/
theorem IsTree.one_place (tree : files.IsTree) {number : Nat}
    (known : (files.entryOf number).isSome) (other : number ≠ root) :
    ∃! place : Nat × String, files.childOf place.1 place.2 = some number := by
  rcases tree.reached known with ⟨parts, found⟩
  rcases List.eq_nil_or_concat' parts with rfl | ⟨parents, name, rfl⟩
  · exact absurd (Option.some.inj found).symm other
  · rcases numberAt?_concat_eq_some_iff.1 found with ⟨parent, parentFound, link⟩
    refine ⟨(parent, name), link, ?_⟩
    rintro ⟨otherParent, otherName⟩ otherLink
    have otherKnown : (files.entryOf otherParent).isSome :=
      Option.isSome_of_eq_some (entryOf_of_childOf otherLink)
    rcases tree.reached otherKnown with ⟨otherParents, otherFound⟩
    have again := numberAt?_concat_eq_some_iff.2 ⟨otherParent, otherFound, otherLink⟩
    have same := (tree.concat_eq_concat_iff otherFound parentFound).1 (tree.unique again found)
    rw [same.1, same.2]

theorem IsTree.isSound (tree : files.IsTree) : files.IsSound where
  root_directory := entryOf_eq_some_directory_iff.1 tree.root_directory
  child_present found link := by
    rw [← childOf_eq_of_get? found] at link
    have known := tree.child_present link
    unfold entryOf at known
    rw [Option.isSome_map] at known
    exact Option.isSome_iff_exists.1 known
  one_place found other := tree.one_place (isSome_entryOf found) other
  reached found := tree.reached (isSome_entryOf found)
  root_unlinked := tree.root_unlinked
  acyclic found round := tree.walk_acyclic (isSome_entryOf found) round
  file_leaf {_ node} _ file := by
    cases node with
    | file => rfl
    | directory => cases file
  named found link := by
    rw [← childOf_eq_of_get? found] at link
    have name := tree.named link
    exact ⟨name.nonempty, name.noSlash, name.notHere, name.notUp⟩

/-- In every tree that can be reached the table of nodes is sound. -/
theorem isSound_of_reachable (reachable : files.Reachable) : files.IsSound :=
  reachable.isTree.isSound

/-- A tree in which a directory has been moved, and could then not be moved into itself. -/
def movedFiles : Files :=
  ((((empty 0).after 1 (.write "/a/x" "1" true)).after 2 (.makeDirectory "b" false)).after 3
    (.move "/a" "/b/c")).after 4 (.move "/b" "/b/c/d")

theorem isSound_of_moved :
    movedFiles.view ["b", "c", "x"] = some (.file "1") ∧ movedFiles.view ["a"] = none ∧
      movedFiles.IsSound :=
  ⟨by decide +kernel, by decide +kernel,
    isSound_of_reachable (.tried (.tried (.tried (.tried (.empty 0) 1 _) 2 _) 3 _) 4 _)⟩

end VirtualShell.Files
