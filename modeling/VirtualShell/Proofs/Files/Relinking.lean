import VirtualShell.Proofs.Files.Changes

/-!
Contract: a node can be taken out of a tree with everything below it, or linked elsewhere.

Owns:
- `IsBelow`, what is at a path or below it;
- `IsTree.remove` and `IsTree.relink`: the tree is kept, and where every path leads
  afterwards.
-/

namespace VirtualShell.Files

variable {files : Files}

/-! ## A node taken out -/

/-- The node that a path leads to, or one below it. -/
def IsBelow (files : Files) (parts : List String) (number : Nat) : Prop :=
  ∃ rest, files.numberAt? (parts ++ rest) = some number

theorem IsTree.isBelow_iff (tree : files.IsTree) {parts target : List String} {number : Nat}
    (found : files.numberAt? parts = some number) :
    files.IsBelow target number ↔ target <+: parts := by
  constructor
  · rintro ⟨rest, below⟩
    exact ⟨rest, tree.unique below found⟩
  · rintro ⟨rest, rfl⟩
    exact ⟨rest, found⟩

section Remove

variable {parents : List String} {parent number : Nat} {name : String}

/-- The walk on from a node does not pass through the directory that holds it. -/
theorem IsTree.walk_unlink (tree : files.IsTree) (found : files.numberAt? parents = some parent)
    (link : files.childOf parent name = some number) (rest : List String) :
    (files.unlink parent name).walk number rest = files.walk number rest := by
  induction rest using List.reverseRecOn with
  | nil => rfl
  | append_singleton rest part inductionHypothesis =>
      rw [walk_concat, walk_concat, inductionHypothesis]
      refine Option.bind_congr fun reached arrived => ?_
      rw [childOf_unlink, if_neg]
      rintro ⟨rfl, -⟩
      have below : files.numberAt? (parents ++ [name] ++ rest) = some parent := by
        rw [numberAt?_append, numberAt?_concat, found]
        show (files.childOf parent name).bind _ = _
        rw [link]
        exact arrived
      have same := congrArg List.length (tree.unique below found)
      simp only [List.length_append, List.length_singleton] at same
      omega

theorem IsTree.mem_numbersBelow_unlink (tree : files.IsTree)
    (found : files.numberAt? parents = some parent)
    (link : files.childOf parent name = some number) {other : Nat} :
    other ∈ (files.unlink parent name).numbersBelow (files.unlink parent name).nodes.size number ↔
      files.IsBelow (parents ++ [name]) other := by
  have onward : ∀ rest, files.numberAt? (parents ++ [name] ++ rest) = files.walk number rest := by
    intro rest
    rw [numberAt?_append, numberAt?_concat_eq_some_iff.2 ⟨parent, found, link⟩]
    rfl
  rw [mem_numbersBelow]
  unfold IsBelow
  simp only [tree.walk_unlink found link, onward]
  constructor
  · rintro ⟨rest, -, arrived⟩
    exact ⟨rest, arrived⟩
  · rintro ⟨rest, arrived⟩
    refine ⟨rest, ?_, arrived⟩
    have placed : (files.numberAt? (parents ++ [name] ++ rest)).isSome := by
      rw [onward, arrived]
      rfl
    have short := tree.length_lt_size placed
    have grown : files.nodes.size ≤ (files.unlink parent name).nodes.size :=
      size_le_size_changeChildren ..
    simp only [List.length_append] at short
    omega

theorem IsTree.entryOf_remove_of_isBelow (tree : files.IsTree)
    (found : files.numberAt? parents = some parent)
    (link : files.childOf parent name = some number) {other : Nat}
    (below : files.IsBelow (parents ++ [name]) other) :
    ((files.unlink parent name).forget number).entryOf other = none := by
  rw [entryOf_forget, if_pos ((tree.mem_numbersBelow_unlink found link).2 below)]

theorem IsTree.entryOf_remove_of_not_isBelow (tree : files.IsTree)
    (found : files.numberAt? parents = some parent)
    (link : files.childOf parent name = some number) {other : Nat}
    (kept : ¬ files.IsBelow (parents ++ [name]) other) :
    ((files.unlink parent name).forget number).entryOf other = files.entryOf other := by
  rw [entryOf_forget, if_neg (mt (tree.mem_numbersBelow_unlink found link).1 kept)]
  exact entryOf_changeChildren ..

theorem IsTree.childOf_remove (tree : files.IsTree)
    (found : files.numberAt? parents = some parent)
    (link : files.childOf parent name = some number) {other : Nat}
    (kept : ¬ files.IsBelow (parents ++ [name]) other) (part : String) :
    ((files.unlink parent name).forget number).childOf other part =
      if parent = other ∧ name = part then none else files.childOf other part := by
  rw [childOf_forget, if_neg (mt (tree.mem_numbersBelow_unlink found link).1 kept)]
  exact childOf_unlink ..

theorem IsTree.numberAt?_remove (tree : files.IsTree)
    (found : files.numberAt? parents = some parent)
    (link : files.childOf parent name = some number) (parts : List String) :
    ((files.unlink parent name).forget number).numberAt? parts =
      if parents ++ [name] <+: parts then none else files.numberAt? parts := by
  refine numberAt?_eq_of_step (fun parts =>
    if parents ++ [name] <+: parts then none else files.numberAt? parts) ?_ ?_ parts
  · exact if_neg fun before => List.concat_ne_nil name parents (List.prefix_nil.1 before)
  · intro before part
    by_cases within : parents ++ [name] <+: before
    · rw [if_pos within, if_pos (within.trans (List.prefix_append before [part]))]
      rfl
    · rw [if_neg within, numberAt?_concat]
      cases reached : files.numberAt? before with
      | none => simp
      | some other =>
          have kept := mt (tree.isBelow_iff reached).1 within
          have atTarget : parents ++ [name] <+: before ++ [part] ↔
              parent = other ∧ name = part := by
            rw [List.prefix_concat_iff, or_iff_left within, eq_comm,
              tree.concat_eq_concat_iff reached found]
          show (if _ then none else files.childOf other part) =
            ((files.unlink parent name).forget number).childOf other part
          rw [tree.childOf_remove found link kept]
          simp only [atTarget]

/-- A node taken out with everything below it leaves a tree. -/
theorem IsTree.remove (tree : files.IsTree) (found : files.numberAt? parents = some parent)
    (link : files.childOf parent name = some number) :
    ((files.unlink parent name).forget number).IsTree := by
  have places := tree.numberAt?_remove found link
  have rooted : ¬ files.IsBelow (parents ++ [name]) root := fun below =>
    List.concat_ne_nil name parents
      (List.prefix_nil.1 ((tree.isBelow_iff numberAt?_nil).1 below))
  have kept : ∀ {other}, (((files.unlink parent name).forget number).entryOf other).isSome →
      ¬ files.IsBelow (parents ++ [name]) other := by
    intro other known below
    rw [tree.entryOf_remove_of_isBelow found link below] at known
    cases known
  have older : ∀ {other}, (((files.unlink parent name).forget number).entryOf other).isSome →
      (files.entryOf other).isSome := fun known =>
    tree.entryOf_remove_of_not_isBelow found link (kept known) ▸ known
  have links : ∀ {other part child},
      ((files.unlink parent name).forget number).childOf other part = some child →
      ¬ (parent = other ∧ name = part) ∧ files.childOf other part = some child := by
    intro other part child listed
    rw [tree.childOf_remove found link (kept (entryOf_of_childOf listed ▸ rfl))] at listed
    split at listed
    · cases listed
    · rename_i elsewhere
      exact ⟨elsewhere, listed⟩
  constructor
  · rw [tree.entryOf_remove_of_not_isBelow found link rooted, tree.root_directory]
  · intro other part child listed
    rcases links listed with ⟨elsewhere, before⟩
    have holder := kept (Option.isSome_of_eq_some (entryOf_of_childOf listed))
    rcases tree.reached (Option.isSome_of_eq_some (entryOf_of_childOf before)) with ⟨parts, placed⟩
    have childPlaced := numberAt?_concat_eq_some_iff.2 ⟨other, placed, before⟩
    rw [tree.entryOf_remove_of_not_isBelow found link]
    · exact tree.child_present before
    · rw [tree.isBelow_iff childPlaced, List.prefix_concat_iff, not_or, eq_comm,
        tree.concat_eq_concat_iff placed found, ← tree.isBelow_iff placed]
      exact ⟨elsewhere, holder⟩
  · intro other known
    rcases tree.reached (older known) with ⟨parts, placed⟩
    refine ⟨parts, ?_⟩
    rw [places, if_neg (mt (tree.isBelow_iff placed).2 (kept known)), placed]
  · intro left right other leftFound rightFound
    rw [places] at leftFound rightFound
    split at leftFound
    · cases leftFound
    · split at rightFound
      · cases rightFound
      · exact tree.unique leftFound rightFound
  · intro other part child listed
    exact tree.named (links listed).2
  · intro other known
    have next : ((files.unlink parent name).forget number).next = files.next :=
      next_changeChildren ..
    rw [next]
    exact tree.fresh (older known)

theorem IsTree.view_remove (tree : files.IsTree) (found : files.numberAt? parents = some parent)
    (link : files.childOf parent name = some number) :
    ((files.unlink parent name).forget number).view = files.view.without (parents ++ [name]) := by
  funext parts
  unfold view PathMap.without
  rw [tree.numberAt?_remove found link]
  split
  · rfl
  · rename_i outside
    refine Option.bind_congr fun other placed => ?_
    exact tree.entryOf_remove_of_not_isBelow found link (mt (tree.isBelow_iff placed).1 outside)

end Remove

/-! ## A node linked elsewhere -/

section Relink

variable {oldParents newParents : List String} {oldParent newParent number : Nat}
  {oldName newName : String}

theorem entryOf_relink (other : Nat) :
    ((files.unlink oldParent oldName).link newParent newName number).entryOf other =
      files.entryOf other :=
  (entryOf_changeChildren newParent other _).trans (entryOf_changeChildren oldParent other _)

theorem childOf_relink (directory : files.entryOf newParent = some .directory) (other : Nat)
    (part : String) :
    ((files.unlink oldParent oldName).link newParent newName number).childOf other part =
      if newParent = other ∧ newName = part then some number
      else if oldParent = other ∧ oldName = part then none
      else files.childOf other part := by
  have fit : (files.unlink oldParent oldName).entryOf newParent = some .directory :=
    (entryOf_changeChildren oldParent newParent _).trans directory
  rw [childOf_link fit, childOf_unlink]

/-- What stays below the node that is linked elsewhere is neither directory concerned. -/
theorem IsTree.walk_ne_of_apart (tree : files.IsTree) {source other : List String} {parent : Nat}
    {name : String} (found : files.numberAt? other = some parent)
    (apart : ¬ source <+: other ++ [name]) {rest : List String} {reached : Nat}
    (arrived : files.numberAt? (source ++ rest) = some reached) : parent ≠ reached := by
  rintro rfl
  apply apart
  rw [← tree.unique arrived found, List.append_assoc]
  exact List.prefix_append source _

theorem IsTree.numberAt?_relink (tree : files.IsTree)
    (oldFound : files.numberAt? oldParents = some oldParent)
    (link : files.childOf oldParent oldName = some number)
    (newFound : files.numberAt? newParents = some newParent)
    (directory : files.entryOf newParent = some .directory)
    (apart : ¬ oldParents ++ [oldName] <+: newParents ++ [newName]) (parts : List String) :
    ((files.unlink oldParent oldName).link newParent newName number).numberAt? parts =
      if newParents ++ [newName] <+: parts then
        files.numberAt? (oldParents ++ [oldName] ++ parts.drop (newParents ++ [newName]).length)
      else if oldParents ++ [oldName] <+: parts then none
      else files.numberAt? parts := by
  refine numberAt?_eq_of_step (fun parts =>
    if newParents ++ [newName] <+: parts then
      files.numberAt? (oldParents ++ [oldName] ++ parts.drop (newParents ++ [newName]).length)
    else if oldParents ++ [oldName] <+: parts then none
    else files.numberAt? parts) ?_ ?_ parts
  · have notNil : ∀ (parents : List String) (name : String), ¬ parents ++ [name] <+: [] :=
      fun parents name before => List.concat_ne_nil name parents (List.prefix_nil.1 before)
    show (if _ then _ else _) = _
    rw [if_neg (notNil _ _), if_neg (notNil _ _), numberAt?_nil]
  · intro before part
    show (if _ then _ else _) = Option.bind (if _ then _ else _) _
    by_cases atNew : newParents ++ [newName] <+: before
    · -- Below the new place the walk goes on as it went on below the old one.
      rcases atNew with ⟨rest, rfl⟩
      rw [if_pos (List.prefix_append _ rest), List.append_assoc (newParents ++ [newName]),
        if_pos (List.prefix_append _ (rest ++ [part])), List.drop_left, List.drop_left,
        ← List.append_assoc, numberAt?_concat]
      refine Option.bind_congr fun reached arrived => ?_
      have notNew := tree.walk_ne_of_apart newFound apart arrived
      have notOld : oldParent ≠ reached := by
        rintro rfl
        have same := congrArg List.length (tree.unique arrived oldFound)
        simp only [List.length_append, List.length_singleton] at same
        omega
      rw [childOf_relink directory, if_neg fun both => notNew both.1,
        if_neg fun both => notOld both.1]
    · rw [if_neg atNew]
      by_cases atOld : oldParents ++ [oldName] <+: before
      · have elsewhere : ¬ newParents ++ [newName] <+: before ++ [part] := by
          rw [List.prefix_concat_iff, not_or]
          exact ⟨fun same => apart (same ▸ atOld.trans (List.prefix_append before [part])), atNew⟩
        rw [if_pos atOld, if_neg elsewhere,
          if_pos (atOld.trans (List.prefix_append before [part]))]
        rfl
      · rw [if_neg atOld]
        cases reached : files.numberAt? before with
        | none =>
            have elsewhere : ¬ newParents ++ [newName] <+: before ++ [part] := by
              rw [List.prefix_concat_iff, or_iff_left atNew]
              intro same
              rw [← (List.append_inj' same rfl).1, newFound] at reached
              cases reached
            rw [if_neg elsewhere, numberAt?_concat, reached]
            split <;> rfl
        | some other =>
            have newHere : newParents ++ [newName] <+: before ++ [part] ↔
                newParent = other ∧ newName = part := by
              rw [List.prefix_concat_iff, or_iff_left atNew, eq_comm,
                tree.concat_eq_concat_iff reached newFound]
            have oldHere : oldParents ++ [oldName] <+: before ++ [part] ↔
                oldParent = other ∧ oldName = part := by
              rw [List.prefix_concat_iff, or_iff_left atOld, eq_comm,
                tree.concat_eq_concat_iff reached oldFound]
            rw [Option.bind_some, childOf_relink directory]
            by_cases both : newParent = other ∧ newName = part
            · have same := (tree.concat_eq_concat_iff reached newFound).2 both
              rw [if_pos both, if_pos (newHere.2 both), same, List.drop_length, List.append_nil]
              exact numberAt?_concat_eq_some_iff.2 ⟨oldParent, oldFound, link⟩
            · rw [if_neg both, if_neg (mt newHere.1 both), numberAt?_concat, reached]
              simp only [oldHere]
              rfl

/-- Behind a relinking no node has two places. -/
theorem IsTree.unique_relink (tree : files.IsTree)
    (oldFound : files.numberAt? oldParents = some oldParent)
    (link : files.childOf oldParent oldName = some number)
    (newFound : files.numberAt? newParents = some newParent)
    (directory : files.entryOf newParent = some .directory)
    (apart : ¬ oldParents ++ [oldName] <+: newParents ++ [newName]) {left right : List String}
    {other : Nat}
    (leftFound : ((files.unlink oldParent oldName).link newParent newName number).numberAt? left =
      some other)
    (rightFound : ((files.unlink oldParent oldName).link newParent newName number).numberAt?
      right = some other) : left = right := by
  rw [tree.numberAt?_relink oldFound link newFound directory apart] at leftFound rightFound
  split at leftFound
  · rename_i leftNew
    rcases leftNew with ⟨leftRest, rfl⟩
    rw [List.drop_left] at leftFound
    split at rightFound
    · rename_i rightNew
      rcases rightNew with ⟨rightRest, rfl⟩
      rw [List.drop_left] at rightFound
      rw [List.append_cancel_left (tree.unique leftFound rightFound)]
    · split at rightFound
      · cases rightFound
      · rename_i kept
        exact absurd ⟨leftRest, tree.unique leftFound rightFound⟩ kept
  · split at leftFound
    · cases leftFound
    · rename_i kept
      split at rightFound
      · rename_i rightNew
        rcases rightNew with ⟨rightRest, rfl⟩
        rw [List.drop_left] at rightFound
        exact absurd ⟨rightRest, tree.unique rightFound leftFound⟩ kept
      · split at rightFound
        · cases rightFound
        · exact tree.unique leftFound rightFound

/-- A node linked to a free name that is not below it keeps a tree. -/
theorem IsTree.relink (tree : files.IsTree)
    (oldFound : files.numberAt? oldParents = some oldParent)
    (link : files.childOf oldParent oldName = some number)
    (newFound : files.numberAt? newParents = some newParent)
    (directory : files.entryOf newParent = some .directory)
    (free : files.childOf newParent newName = none)
    (apart : ¬ oldParents ++ [oldName] <+: newParents ++ [newName])
    (named : Path.IsName newName) :
    ((files.unlink oldParent oldName).link newParent newName number).IsTree := by
  have places := tree.numberAt?_relink oldFound link newFound directory apart
  have empty : ∀ {parts other}, files.numberAt? parts = some other →
      ¬ newParents ++ [newName] <+: parts := by
    intro parts other placed before
    have reached := isSome_numberAt?_of_prefix before (Option.isSome_of_eq_some placed)
    rw [numberAt?_concat, newFound, Option.bind_some, free] at reached
    cases reached
  constructor
  · rw [entryOf_relink, tree.root_directory]
  · intro other part child listed
    rw [entryOf_relink]
    rw [childOf_relink directory] at listed
    split at listed
    · cases listed
      exact tree.child_present link
    · split at listed
      · cases listed
      · exact tree.child_present listed
  · intro other known
    rw [entryOf_relink] at known
    rcases tree.reached known with ⟨parts, placed⟩
    by_cases moved : oldParents ++ [oldName] <+: parts
    · rcases moved with ⟨rest, rfl⟩
      refine ⟨newParents ++ [newName] ++ rest, ?_⟩
      rw [places, if_pos (List.prefix_append _ rest), List.drop_left, placed]
    · exact ⟨parts, by rw [places, if_neg (empty placed), if_neg moved, placed]⟩
  · exact fun leftFound rightFound =>
      tree.unique_relink oldFound link newFound directory apart leftFound rightFound
  · intro other part child listed
    rw [childOf_relink directory] at listed
    split at listed
    · rename_i both
      exact both.2 ▸ named
    · split at listed
      · cases listed
      · exact tree.named listed
  · intro other known
    have next : ((files.unlink oldParent oldName).link newParent newName number).next =
        files.next := (next_changeChildren newParent _).trans (next_changeChildren oldParent _)
    rw [next]
    exact tree.fresh (entryOf_relink other ▸ known)

theorem IsTree.view_relink (tree : files.IsTree)
    (oldFound : files.numberAt? oldParents = some oldParent)
    (link : files.childOf oldParent oldName = some number)
    (newFound : files.numberAt? newParents = some newParent)
    (directory : files.entryOf newParent = some .directory)
    (apart : ¬ oldParents ++ [oldName] <+: newParents ++ [newName]) :
    ((files.unlink oldParent oldName).link newParent newName number).view =
      files.view.moved (oldParents ++ [oldName]) (newParents ++ [newName]) := by
  have entries : ((files.unlink oldParent oldName).link newParent newName number).entryOf =
      files.entryOf := funext entryOf_relink
  funext parts
  unfold view PathMap.moved
  rw [tree.numberAt?_relink oldFound link newFound directory apart, entries]
  split
  · rfl
  · split <;> rfl

end Relink

end VirtualShell.Files
