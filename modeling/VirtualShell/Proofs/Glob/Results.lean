import VirtualShell.Proofs.Files.Paths
import VirtualShell.Proofs.Files.Reachable
import VirtualShell.Proofs.Glob.Directory
import VirtualShell.Proofs.Path.Resolution

/-!
Contract: the words that a file name pattern stands for.

Owns:
- `IsFound`, the paths of a tree that a pattern matches, the root left out;
- `resolve_results`: read from the working directory, the words are exactly the paths that are
  found, each once and in order, and they are absolute just if the pattern is;
- `pairwise_lt_of_expand`: the words themselves are in order if the paths that are found are
  level with each other, as seen from the working directory.

The paths are put in order before they are written as relative paths, so where the number of ways
up differs, the words need not be in order.
-/

namespace VirtualShell.Glob

open VirtualShell.Regex

variable {storage : Storage} {files : Files} {cwd pattern path : String}

/-! ## What is found -/

/-- A path of a tree, other than the root, that a pattern matches. -/
structure IsFound (files : Files) (pattern path : String) : Prop where
  rooted : Path.normalize path = path
  present : files.contains path = true
  belowRoot : path ≠ "/"
  matched : Matches pattern path

theorem mem_matchesAmong_iff (tree : files.IsTree) {compiled : Pattern}
    (compiles : compile pattern = .ok compiled) :
    path ∈ matchesAmong compiled files.allPaths ↔ IsFound files pattern path := by
  have matched : Matches pattern path ↔ isMatch compiled path = true := by
    constructor
    · rintro ⟨_, same, matched⟩
      cases compiles.symm.trans same
      exact matched
    · exact fun matched => ⟨compiled, compiles, matched⟩
  unfold matchesAmong
  rw [Text.mem_sorted, List.mem_filter, tree.mem_allPaths_iff, Bool.and_eq_true, bne_iff_ne,
    ← matched]
  exact ⟨fun ⟨⟨rooted, present⟩, belowRoot, matched⟩ => ⟨rooted, present, belowRoot, matched⟩,
    fun found => ⟨⟨found.rooted, found.present⟩, found.belowRoot, found.matched⟩⟩

theorem pairwise_lt_matchesAmong (tree : files.IsTree) (compiled : Pattern) :
    (matchesAmong compiled files.allPaths).Pairwise (· < ·) := by
  refine Text.pairwise_lt_sorted (List.Nodup.filter _ ?_)
  refine tree.pairwise_lt_allPaths.imp ?_
  rintro left _ before rfl
  exact String.lt_irrefl left before

/-! ## How it is written -/

/-- A path that is found, written in the form of the pattern, is the path as seen from the working
directory. -/
theorem resolve_present (rooted : Path.normalize path = path) :
    Path.resolve cwd (present cwd pattern path) = path := by
  unfold present
  split
  · rw [Path.resolve, if_pos (Path.startsWith_of_rooted rooted)]
    exact rooted
  · split
    · rw [Path.resolve_here (Path.not_startsWith_relative cwd path), Path.resolve_relative rooted]
    · exact Path.resolve_relative rooted

theorem startsWith_present (rooted : Path.normalize path = path) :
    Text.startsWith (present cwd pattern path) "/" = Text.startsWith pattern "/" := by
  unfold present
  split
  · rename_i absolute
    rw [absolute]
    exact Path.startsWith_of_rooted rooted
  · rename_i relative
    rw [Bool.eq_false_iff.2 relative]
    split
    · exact Path.not_startsWith_here _
    · exact Path.not_startsWith_relative cwd path

/-- Paths that are level with each other, as seen from the working directory, keep their order. -/
theorem present_lt_present {left right : String} (cwdRooted : Path.normalize cwd = cwd)
    (leftRooted : Path.normalize left = left) (rightRooted : Path.normalize right = right)
    (level : Text.startsWith pattern "/" = false → Path.AreLevel cwd left right)
    (less : left < right) : present cwd pattern left < present cwd pattern right := by
  unfold present
  split
  · exact less
  · rename_i relative
    have before := Path.relative_lt_relative cwdRooted leftRooted rightRooted
      (level (Bool.eq_false_iff.2 relative)) less
    split
    · rw [String.lt_iff, String.toList_append, String.toList_append, Text.append_lt_append_iff]
      exact String.lt_iff.1 before
    · exact before

/-! ## The words of a pattern -/

theorem expand_of_compile (permitted : FileOperation.allPaths ∉ storage.refused)
    (wild : hasWildcard pattern = true) {compiled : Pattern}
    (compiles : compile (Path.resolve cwd pattern) = .ok compiled) :
    expand storage cwd pattern =
      .ok (if (matchesAmong compiled storage.files.allPaths).isEmpty then [pattern]
        else (matchesAmong compiled storage.files.allPaths).map (present cwd pattern)) := by
  unfold expand Storage.allPaths
  simp [wild, compiles, permitted]

/-- Read from the working directory, the words of a pattern are the paths that it matches. -/
theorem resolve_results (reachable : storage.files.Reachable)
    (permitted : FileOperation.allPaths ∉ storage.refused) (wild : hasWildcard pattern = true)
    (some : ∃ path, IsFound storage.files (Path.resolve cwd pattern) path) :
    ∃ results, expand storage cwd pattern = .ok results ∧
      (results.map (Path.resolve cwd)).Pairwise (· < ·) ∧
      (∀ path, path ∈ results.map (Path.resolve cwd) ↔
        IsFound storage.files (Path.resolve cwd pattern) path) ∧
      ∀ result ∈ results, Text.startsWith result "/" = Text.startsWith pattern "/" := by
  have tree := reachable.isTree
  obtain ⟨first, found⟩ := some
  obtain ⟨compiled, compiles, -⟩ := found.matched
  have members := fun path => @mem_matchesAmong_iff _ _ path tree _ compiles
  have occupied : (matchesAmong compiled storage.files.allPaths).isEmpty = false :=
    List.isEmpty_eq_false_iff_exists_mem.2 ⟨first, (members first).2 found⟩
  have read : ((matchesAmong compiled storage.files.allPaths).map (present cwd pattern)).map
      (Path.resolve cwd) = matchesAmong compiled storage.files.allPaths := by
    rw [List.map_map]
    refine (List.map_congr_left fun path member => ?_).trans (List.map_id _)
    exact resolve_present ((members path).1 member).rooted
  refine ⟨(matchesAmong compiled storage.files.allPaths).map (present cwd pattern), ?_, ?_, ?_, ?_⟩
  · rw [expand_of_compile permitted wild compiles, occupied, if_neg (by decide)]
  · rw [read]
    exact pairwise_lt_matchesAmong tree compiled
  · rw [read]
    exact members
  · intro result member
    obtain ⟨path, matched, rfl⟩ := List.mem_map.1 member
    exact startsWith_present ((members path).1 matched).rooted

/-- Two files in one directory, and one in another. -/
def siblingFiles : Files :=
  (((Files.empty 0).after 1 (.write "/a/x" "1" true)).after 2 (.write "/b/y" "2" true)).after 3
    (.write "/a/w" "3" true)

theorem reachable_siblingFiles : siblingFiles.Reachable :=
  (((Files.Reachable.empty 0).tried 1 _).tried 2 _).tried 3 _

theorem isFound_siblingFiles :
    IsFound siblingFiles (Path.resolve "/a" "../*/*") "/b/y" where
  rooted := by decide +kernel
  present := by decide +kernel
  belowRoot := by decide
  matched := by decide +kernel

theorem resolve_results_parent :
    hasWildcard "../*/*" = true ∧
      IsFound siblingFiles (Path.resolve "/a" "../*/*") "/b/y" ∧
      ∃ results, expand (.own siblingFiles) "/a" "../*/*" = .ok results ∧
        "/b/y" ∈ results.map (Path.resolve "/a") ∧
        ∀ result ∈ results, Text.startsWith result "/" = false := by
  have wild : hasWildcard "../*/*" = true := by decide
  obtain ⟨results, expanded, -, members, relative⟩ :=
    @resolve_results (.own siblingFiles) "/a" "../*/*" reachable_siblingFiles List.not_mem_nil wild
      ⟨_, isFound_siblingFiles⟩
  exact ⟨wild, isFound_siblingFiles, results, expanded, (members _).2 isFound_siblingFiles,
    relative⟩

/-- The words of a pattern are the word itself, or the paths that are found in the form of the
pattern. -/
theorem eq_of_expand {results : List String} (expanded : expand storage cwd pattern = .ok results) :
    results = [pattern] ∨ ∃ compiled, compile (Path.resolve cwd pattern) = .ok compiled ∧
      results = (matchesAmong compiled storage.files.allPaths).map (present cwd pattern) := by
  unfold expand Storage.allPaths at expanded
  split at expanded
  · cases expanded
    exact .inl rfl
  · split at expanded
    · cases expanded
      exact .inl rfl
    · cases expanded
    · rename_i compiled compiles
      split at expanded
      · cases expanded
      · rename_i paths listed
        split at listed
        · cases listed
        · cases listed
          dsimp only at expanded
          split at expanded <;> cases expanded
          · exact .inl rfl
          · exact .inr ⟨compiled, compiles, rfl⟩

/-- What a pattern of names finds from a literal directory is below the directory. -/
theorem IsFound.parts_eq (found : IsFound files (Path.resolve cwd pattern) path)
    (rooted : Path.normalize cwd = cwd) (literal : isLiteral cwd = true)
    (tame : isTame pattern = true)
    (named : ∀ component ∈ Text.pieces '/' pattern, Path.IsName component) :
    ∃ others, others ≠ [] ∧ Path.parts path = Path.parts cwd ++ others := by
  have names := fun name => @Path.isName_of_mem_parts cwd name
  obtain ⟨-, back, written, -⟩ := (matches_behind_iff names (isLiteral_parts rooted literal)
    (componentsOf_resolve named) tame).1 found.matched
  exact ⟨_, mt List.map_eq_nil_iff.1 (Text.piecesOf_ne_nil '/' back),
    Path.parts_of_toList_eq found.rooted found.belowRoot names written⟩

theorem areLevel_of_isLiteral {left right : String} (rooted : Path.normalize cwd = cwd)
    (literal : isLiteral cwd = true) (tame : isTame pattern = true)
    (named : ∀ component ∈ Text.pieces '/' pattern, Path.IsName component)
    (leftFound : IsFound files (Path.resolve cwd pattern) left)
    (rightFound : IsFound files (Path.resolve cwd pattern) right) :
    Path.AreLevel cwd left right := by
  obtain ⟨_, leftFurther, leftParts⟩ := leftFound.parts_eq rooted literal tame named
  obtain ⟨_, rightFurther, rightParts⟩ := rightFound.parts_eq rooted literal tame named
  exact Path.areLevel_of_below leftParts leftFurther rightParts rightFurther

/-- Paths that are level with each other, as seen from the working directory, are listed in
order. -/
theorem pairwise_lt_of_expand {results : List String} (reachable : storage.files.Reachable)
    (rooted : Path.normalize cwd = cwd)
    (level : Text.startsWith pattern "/" = false → ∀ left right,
      IsFound storage.files (Path.resolve cwd pattern) left →
      IsFound storage.files (Path.resolve cwd pattern) right → Path.AreLevel cwd left right)
    (expanded : expand storage cwd pattern = .ok results) : results.Pairwise (· < ·) := by
  rcases eq_of_expand expanded with rfl | ⟨compiled, compiles, rfl⟩
  · exact List.pairwise_singleton _ _
  · have tree := reachable.isTree
    have found := fun path => (@mem_matchesAmong_iff _ _ path tree _ compiles).1
    rw [List.pairwise_map]
    refine (pairwise_lt_matchesAmong tree compiled).imp_of_mem ?_
    intro left right leftMember rightMember less
    exact present_lt_present rooted (found left leftMember).rooted (found right rightMember).rooted
      (fun relative => level relative left right (found left leftMember) (found right rightMember))
      less

theorem pairwise_lt_of_expand_below :
    expand (.own siblingFiles) "/a" "[v-z]" = .ok ["w", "x"] ∧ ["w", "x"].Pairwise (· < ·) := by
  have rooted : Path.normalize "/a" = "/a" := by decide +kernel
  have expanded : expand (.own siblingFiles) "/a" "[v-z]" = .ok ["w", "x"] := by
    simp only [expand, Storage.allPaths, matchesAmong, Files.allPaths,
      Text.sorted_eq_insertionSort]
    decide +kernel
  refine ⟨expanded, pairwise_lt_of_expand reachable_siblingFiles rooted ?_ expanded⟩
  intro _ left right
  exact areLevel_of_isLiteral rooted (by decide +kernel) (by decide +kernel) (by decide +kernel)

/-- Paths to which different numbers of ways up lead are in order as they are, and out of order as
they are seen from the working directory. -/
theorem exists_results_out_of_order :
    expand (.own siblingFiles) "/a" "/*/*" = .ok ["/a/w", "/a/x", "/b/y"] ∧
      expand (.own siblingFiles) "/a" "../*/*" = .ok ["w", "x", "../b/y"] ∧
      ¬ ["w", "x", "../b/y"].Pairwise (· < ·) := by
  simp only [expand, Storage.allPaths, matchesAmong, Files.allPaths, Text.sorted_eq_insertionSort]
  decide +kernel

end VirtualShell.Glob
