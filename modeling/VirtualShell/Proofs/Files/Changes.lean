import VirtualShell.Proofs.Files.Tree

/-!
Contract: what changes of the table of nodes do to a tree, and two changes that add to it.

Owns:
- what each change of the table does to `entryOf` and `childOf`;
- new content of a file and a new node: the tree is kept, and where every path leads
  afterwards.

Does not own: taking nodes out and linking them elsewhere
(`VirtualShell.Proofs.Files.Relinking`), nor when an operation makes which change.
-/

namespace VirtualShell.Files

variable {files : Files}

/-! ## Changes of the table -/

theorem entryOf_setNode (number other : Nat) (node : Node) :
    (files.setNode number node).entryOf other =
      if number = other then some node.entry else files.entryOf other := by
  unfold entryOf setNode
  rw [Table.get?_insert]
  split <;> rfl

theorem childOf_setNode (number other : Nat) (node : Node) (name : String) :
    (files.setNode number node).childOf other name =
      if number = other then node.children.get? name else files.childOf other name := by
  unfold childOf setNode
  rw [Table.get?_insert]
  split <;> rfl

theorem changeChildren_of_directory {directory : Nat} {modified : Int}
    {children : Table String Nat}
    (found : files.nodes.get? directory = some (.directory modified children))
    (change : Table String Nat → Table String Nat) :
    files.changeChildren directory change =
      files.setNode directory (.directory files.now (change children)) := by
  unfold changeChildren
  rw [found]

theorem changeChildren_of_not_directory {directory : Nat}
    (unfit : files.entryOf directory ≠ some .directory)
    (change : Table String Nat → Table String Nat) :
    files.changeChildren directory change = files := by
  unfold changeChildren
  split
  · rename_i modified children found
    exact absurd (entryOf_eq_some_directory_iff.2 ⟨modified, children, found⟩) unfit
  · rfl

theorem entryOf_changeChildren (directory other : Nat)
    (change : Table String Nat → Table String Nat) :
    (files.changeChildren directory change).entryOf other = files.entryOf other := by
  by_cases fit : files.entryOf directory = some .directory
  · rcases entryOf_eq_some_directory_iff.1 fit with ⟨modified, children, found⟩
    rw [changeChildren_of_directory found, entryOf_setNode]
    split
    · rename_i same
      rw [← same, fit]
      rfl
    · rfl
  · rw [changeChildren_of_not_directory fit]

theorem next_changeChildren (directory : Nat) (change : Table String Nat → Table String Nat) :
    (files.changeChildren directory change).next = files.next := by
  unfold changeChildren
  split <;> rfl

theorem size_le_size_changeChildren (directory : Nat)
    (change : Table String Nat → Table String Nat) :
    files.nodes.size ≤ (files.changeChildren directory change).nodes.size := by
  unfold changeChildren
  split
  · exact Table.size_le_size_insert _ _ _
  · exact Nat.le_refl _

theorem childOf_link {directory : Nat} (fit : files.entryOf directory = some .directory)
    (name : String) (number other : Nat) (part : String) :
    (files.link directory name number).childOf other part =
      if directory = other ∧ name = part then some number else files.childOf other part := by
  rcases entryOf_eq_some_directory_iff.1 fit with ⟨modified, children, found⟩
  unfold link
  rw [changeChildren_of_directory found, childOf_setNode]
  by_cases same : directory = other
  · rw [if_pos same, ← same]
    unfold childOf
    rw [found]
    show (children.insert name number).get? part = _
    rw [Table.get?_insert]
    simp only [true_and]
    rfl
  · rw [if_neg same, if_neg fun both => same both.1]

theorem childOf_unlink (directory : Nat) (name : String) (other : Nat) (part : String) :
    (files.unlink directory name).childOf other part =
      if directory = other ∧ name = part then none else files.childOf other part := by
  unfold unlink
  by_cases fit : files.entryOf directory = some .directory
  · rcases entryOf_eq_some_directory_iff.1 fit with ⟨modified, children, found⟩
    rw [changeChildren_of_directory found, childOf_setNode]
    by_cases same : directory = other
    · rw [if_pos same, ← same]
      unfold childOf
      rw [found]
      show (children.erase name).get? part = _
      rw [Table.get?_erase]
      simp only [true_and]
      rfl
    · rw [if_neg same, if_neg fun both => same both.1]
  · rw [changeChildren_of_not_directory fit]
    split
    · rename_i both
      cases link : files.childOf other part with
      | none => rfl
      | some child => exact absurd (both.1 ▸ entryOf_of_childOf link) fit
    · rfl

/-- The numbers below a node are those that can be walked to from it. -/
theorem mem_numbersBelow {depth number other : Nat} :
    other ∈ files.numbersBelow depth number ↔
      ∃ parts, parts.length ≤ depth ∧ files.walk number parts = some other := by
  induction depth generalizing number with
  | zero =>
      simp only [numbersBelow, List.mem_singleton, Nat.le_zero, List.length_eq_zero_iff]
      constructor
      · rintro rfl
        exact ⟨[], rfl, rfl⟩
      · rintro ⟨parts, rfl, arrived⟩
        exact (Option.some.inj arrived).symm
  | succ depth inductionHypothesis =>
      have listed : ∀ child, child ∈ (((files.nodes.get? number).map Node.children).getD
          .empty).entries.map Prod.snd ↔ ∃ name, files.childOf number name = some child := by
        intro child
        rw [Table.mem_values_iff]
        unfold childOf
        cases files.nodes.get? number <;> rfl
      simp only [numbersBelow, List.mem_cons, List.mem_flatMap, listed, inductionHypothesis]
      constructor
      · rintro (rfl | ⟨child, ⟨name, link⟩, parts, bound, arrived⟩)
        · exact ⟨[], Nat.zero_le _, rfl⟩
        · refine ⟨name :: parts, Nat.succ_le_succ bound, ?_⟩
          rw [walk_cons, link]
          exact arrived
      · rintro ⟨parts, bound, arrived⟩
        cases parts with
        | nil => exact .inl (Option.some.inj arrived).symm
        | cons name parts =>
            rw [walk_cons, Option.bind_eq_some_iff] at arrived
            rcases arrived with ⟨child, link, onward⟩
            exact .inr ⟨child, ⟨name, link⟩, parts, Nat.le_of_succ_le_succ bound, onward⟩

theorem entryOf_forget (number other : Nat) :
    (files.forget number).entryOf other =
      if other ∈ files.numbersBelow files.nodes.size number then none else files.entryOf other := by
  unfold entryOf forget
  rw [Table.get?_eraseAll]
  split <;> rfl

theorem childOf_forget (number other : Nat) (name : String) :
    (files.forget number).childOf other name =
      if other ∈ files.numbersBelow files.nodes.size number then none
      else files.childOf other name := by
  unfold childOf forget
  rw [Table.get?_eraseAll]
  split <;> rfl

/-! ## New content of a file -/

theorem childOf_setNode_file {number : Nat} {old : String}
    (file : files.entryOf number = some (.file old)) (modified : Int) (content : String)
    (other : Nat) (name : String) :
    (files.setNode number (.file modified content)).childOf other name =
      files.childOf other name := by
  rw [childOf_setNode]
  split
  · rename_i same
    cases link : files.childOf other name with
    | none => rfl
    | some child =>
        rw [← same] at link
        rw [entryOf_of_childOf link] at file
        cases file
  · rfl

theorem numberAt?_setNode_file {number : Nat} {old : String}
    (file : files.entryOf number = some (.file old)) (modified : Int) (content : String)
    (parts : List String) :
    (files.setNode number (.file modified content)).numberAt? parts = files.numberAt? parts := by
  apply numberAt?_eq_of_step files.numberAt? numberAt?_nil
  intro parents name
  rw [numberAt?_concat]
  exact Option.bind_congr fun reached _ =>
    (childOf_setNode_file file modified content reached name).symm

theorem isSome_entryOf_setNode {number : Nat} (known : (files.entryOf number).isSome) (node : Node)
    (other : Nat) : ((files.setNode number node).entryOf other).isSome =
      (files.entryOf other).isSome := by
  rw [entryOf_setNode]
  split
  · rename_i same
    rw [← same, known]
    rfl
  · rfl

/-- New content of a file keeps a tree. -/
theorem IsTree.setFile (tree : files.IsTree) {number : Nat} {old : String}
    (file : files.entryOf number = some (.file old)) (modified : Int) (content : String) :
    (files.setNode number (.file modified content)).IsTree := by
  have known : (files.entryOf number).isSome := file ▸ rfl
  have links := childOf_setNode_file file modified content
  have places := numberAt?_setNode_file file modified content
  have present := isSome_entryOf_setNode known (.file modified content)
  constructor
  · rw [entryOf_setNode, if_neg, tree.root_directory]
    rintro rfl
    rw [tree.root_directory] at file
    cases file
  · intro other name child link
    rw [present]
    exact tree.child_present (links other name ▸ link)
  · intro other there
    simp only [places]
    exact tree.reached (present other ▸ there)
  · intro left right other leftFound rightFound
    rw [places] at leftFound rightFound
    exact tree.unique leftFound rightFound
  · intro other name child link
    exact tree.named (links other name ▸ link)
  · intro other there
    exact tree.fresh (present other ▸ there)

theorem IsTree.view_setFile (tree : files.IsTree) {parts : List String} {number : Nat}
    {old : String} (found : files.numberAt? parts = some number)
    (file : files.entryOf number = some (.file old)) (modified : Int) (content : String) :
    (files.setNode number (.file modified content)).view =
      files.view.put parts (.file content) := by
  funext other
  unfold view PathMap.put
  rw [numberAt?_setNode_file file]
  by_cases same : other = parts
  · rw [if_pos same, same, found]
    show (files.setNode number (.file modified content)).entryOf number = _
    rw [entryOf_setNode, if_pos rfl]
    rfl
  · rw [if_neg same]
    refine Option.bind_congr fun reached otherFound => ?_
    rw [entryOf_setNode, if_neg]
    rintro rfl
    exact same (tree.unique otherFound found)

/-! ## A new node -/

theorem IsTree.concat_eq_concat_iff (tree : files.IsTree) {left right : List String}
    {number parent : Nat} (leftFound : files.numberAt? left = some number)
    (rightFound : files.numberAt? right = some parent) {part name : String} :
    left ++ [part] = right ++ [name] ↔ parent = number ∧ name = part := by
  constructor
  · intro same
    rcases List.append_inj' same rfl with ⟨rfl, parts⟩
    rw [leftFound] at rightFound
    exact ⟨(Option.some.inj rightFound).symm, (List.cons.inj parts).1.symm⟩
  · rintro ⟨rfl, rfl⟩
    rw [tree.unique leftFound rightFound]

theorem IsTree.childOf_next (tree : files.IsTree) (name : String) :
    files.childOf files.next name = none := by
  cases link : files.childOf files.next name with
  | none => rfl
  | some child =>
      have known : (files.entryOf files.next).isSome := entryOf_of_childOf link ▸ rfl
      exact absurd (tree.fresh known) (Nat.lt_irrefl _)

section Create

variable {parents : List String} {parent : Nat} {name : String} {node : Node}

theorem entryOf_create (other : Nat) :
    (files.create parent name node).entryOf other =
      if files.next = other then some node.entry else files.entryOf other :=
  (entryOf_changeChildren parent other _).trans (entryOf_setNode files.next other node)

theorem IsTree.childOf_create (tree : files.IsTree)
    (directory : files.entryOf parent = some .directory) (leaf : node.children = .empty)
    (other : Nat) (part : String) :
    (files.create parent name node).childOf other part =
      if parent = other ∧ name = part then some files.next else files.childOf other part := by
  have older : files.next ≠ parent := by
    rintro rfl
    exact absurd (tree.fresh (directory ▸ rfl)) (Nat.lt_irrefl _)
  have fit : ({ files.setNode files.next node with next := files.next + 1 } : Files).entryOf
      parent = some .directory := by
    show (files.setNode files.next node).entryOf parent = _
    rw [entryOf_setNode, if_neg older, directory]
  have linked : (files.create parent name node).childOf other part =
      if parent = other ∧ name = part then some files.next
      else (files.setNode files.next node).childOf other part := childOf_link fit ..
  rw [linked, childOf_setNode]
  congr 1
  split
  · rename_i same
    rw [leaf, ← same, tree.childOf_next]
    rfl
  · rfl

theorem IsTree.numberAt?_create (tree : files.IsTree)
    (found : files.numberAt? parents = some parent)
    (directory : files.entryOf parent = some .directory) (leaf : node.children = .empty)
    (free : files.childOf parent name = none) (parts : List String) :
    (files.create parent name node).numberAt? parts =
      if parts = parents ++ [name] then some files.next else files.numberAt? parts := by
  have absent : files.numberAt? (parents ++ [name]) = none := by
    rw [numberAt?_concat, found]
    exact free
  refine numberAt?_eq_of_step (fun parts =>
    if parts = parents ++ [name] then some files.next else files.numberAt? parts) ?_ ?_ parts
  · exact if_neg (List.concat_ne_nil name parents).symm
  · intro before part
    by_cases atNew : before = parents ++ [name]
    · have longer : before ++ [part] ≠ parents ++ [name] := by simp [atNew]
      have unlinked : ¬ (parent = files.next ∧ name = part) := by
        rintro ⟨same, -⟩
        exact absurd (tree.fresh (same ▸ directory ▸ rfl)) (Nat.lt_irrefl _)
      rw [if_neg longer, if_pos atNew, numberAt?_concat, atNew, absent]
      show none = (files.create parent name node).childOf files.next part
      rw [tree.childOf_create directory leaf, if_neg unlinked, tree.childOf_next]
    · rw [if_neg atNew, numberAt?_concat]
      cases reached : files.numberAt? before with
      | none =>
          have elsewhere : before ++ [part] ≠ parents ++ [name] := by
            intro same
            rw [(List.append_inj' same rfl).1, found] at reached
            cases reached
          rw [if_neg elsewhere]
          rfl
      | some number =>
          show (if _ then _ else files.childOf number part) =
            (files.create parent name node).childOf number part
          rw [tree.childOf_create directory leaf]
          simp only [tree.concat_eq_concat_iff reached found]

/-- A new node under a free name keeps a tree. -/
theorem IsTree.create (tree : files.IsTree) (found : files.numberAt? parents = some parent)
    (directory : files.entryOf parent = some .directory) (leaf : node.children = .empty)
    (free : files.childOf parent name = none) (named : Path.IsName name) :
    (files.create parent name node).IsTree := by
  have links : ∀ other part, (files.create parent name node).childOf other part = _ :=
    tree.childOf_create directory leaf
  have places := tree.numberAt?_create found directory leaf free
  have older : ∀ {number}, (files.entryOf number).isSome → files.next ≠ number := fun known same =>
    Nat.lt_irrefl _ (same ▸ tree.fresh known)
  have placeIsNew : ∀ {parts}, files.numberAt? parts ≠ some files.next := fun placed =>
    older (tree.entryOf_isSome placed) rfl
  constructor
  · rw [entryOf_create, if_neg (older (tree.root_directory ▸ rfl)), tree.root_directory]
  · intro number part child link
    rw [entryOf_create]
    rw [links] at link
    split at link
    · cases link
      rw [if_pos rfl]
      rfl
    · rw [if_neg (older (tree.child_present link))]
      exact tree.child_present link
  · intro number known
    rw [entryOf_create] at known
    split at known
    · rename_i same
      exact ⟨parents ++ [name], by rw [places, if_pos rfl, same]⟩
    · rcases tree.reached known with ⟨parts, placed⟩
      refine ⟨parts, ?_⟩
      rw [places, if_neg, placed]
      rintro rfl
      rw [numberAt?_concat, found] at placed
      exact absurd (free.symm.trans placed) (by simp)
  · intro left right number leftFound rightFound
    rw [places] at leftFound rightFound
    split at leftFound <;> split at rightFound
    · rename_i leftNew rightNew
      rw [leftNew, rightNew]
    · cases leftFound
      exact absurd rightFound placeIsNew
    · cases rightFound
      exact absurd leftFound placeIsNew
    · exact tree.unique leftFound rightFound
  · intro number part child link
    rw [links] at link
    split at link
    · rename_i both
      exact both.2 ▸ named
    · exact tree.named link
  · intro number known
    have next : (files.create parent name node).next = files.next + 1 := next_changeChildren ..
    rw [next]
    rw [entryOf_create] at known
    split at known
    · rename_i same
      omega
    · exact Nat.lt_succ_of_lt (tree.fresh known)

theorem IsTree.view_create (tree : files.IsTree) (found : files.numberAt? parents = some parent)
    (directory : files.entryOf parent = some .directory) (leaf : node.children = .empty)
    (free : files.childOf parent name = none) :
    (files.create parent name node).view = files.view.put (parents ++ [name]) node.entry := by
  funext parts
  unfold view PathMap.put
  rw [tree.numberAt?_create found directory leaf free]
  split
  · show (files.create parent name node).entryOf files.next = _
    rw [entryOf_create, if_pos rfl]
  · refine Option.bind_congr fun number placed => ?_
    rw [entryOf_create, if_neg]
    rintro rfl
    exact absurd (tree.fresh (tree.entryOf_isSome placed)) (Nat.lt_irrefl _)

end Create

end VirtualShell.Files
