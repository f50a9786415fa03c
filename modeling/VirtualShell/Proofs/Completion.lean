import VirtualShell.Completion
import VirtualShell.Proofs.Files.Enumeration
import VirtualShell.Proofs.Redirect

/-!
Contract: the files that a word can become are what its directory lists.

Owns:
- `Path.exists_place`: the directory part of a word stands for one place, behind which the rest of
  the word is read, whether the part is empty, absolute or relative;
- `Completion.nameIn?_eq_some_iff`: the paths that start with a directory and a slash and have no
  further slash are the paths of its entries;
- `Completion.parts_resolve_written`: what a word becomes with a name resolves to the entry under
  this name, so no two entries become the same;
- `Completion.files_of_listing`: the candidates for a word are the names in its directory, filtered,
  and written behind the directory part of the word.

Candidates are picked from the list of all paths by their characters, a directory is listed from
its node. Both are compared with the tree as a map from components to entries.
-/

namespace VirtualShell

namespace Path

open VirtualShell.Text

theorem parts_append_slash (path : String) : parts (path ++ "/") = parts path := by
  have chars : (path ++ "/").toList = path.toList ++ '/' :: [] := String.toList_append
  unfold parts
  rw [chars, partsOf_append]
  simp [piecesOf_nil, pushPart]

/-- A name behind a path, with or without a slash behind it, is one component more. -/
theorem parts_append_entry (base : String) {name suffix : String} (valid : IsName name)
    (slash : suffix = "" ∨ suffix = "/") :
    parts (base ++ "/" ++ (name ++ suffix)) = parts base ++ [name] := by
  have single : pieces '/' name = [name] := by
    rw [pieces, piecesOf_of_notMem valid.noSlash, List.map_singleton, String.ofList_toList]
  have plain : parts (base ++ "/" ++ name) = parts base ++ [name] := by
    rw [parts_append_pieces (by simpa [single] using valid), single]
  rcases slash with rfl | rfl
  · rwa [String.append_empty]
  · rwa [← String.append_assoc, parts_append_slash]

/-- The directory part of a word stands for one place, behind which everything else is read. -/
theorem exists_place (base : String) {opened : String}
    (closed : opened = "" ∨ ∃ front, opened = front ++ "/") :
    ∃ place,
      parts (resolve base (if opened.isEmpty then "." else opened)) = parts place ∧
      ∀ rest, startsWith rest "/" = false →
        parts (resolve base (opened ++ rest)) = parts (place ++ "/" ++ rest) := by
  rcases closed with rfl | ⟨front, rfl⟩
  -- Without a directory part, the place is that from which paths are resolved.
  · refine ⟨base, ?_, fun rest relative => ?_⟩
    · have here : base ++ "/" ++ "./" = base ++ "/" ++ "." ++ "/" := by
        simp [String.append_assoc]
      have stays := parts_append_here base ""
      rw [String.append_empty, String.append_empty, here, parts_append_slash,
        parts_append_slash] at stays
      rw [← stays]
      exact parts_normalize _
    · rw [String.empty_append, resolve, relative, if_neg Bool.false_ne_true, parts_normalize]
  · have solid : front ++ "/" ≠ "" := by simp
    have filled : (front ++ "/").isEmpty = false := by simp
    rw [filled, if_neg Bool.false_ne_true]
    unfold resolve
    simp only [startsWith_append solid]
    cases rooted : startsWith (front ++ "/") "/" with
    | true =>
        refine ⟨front, ?_, fun rest _ => ?_⟩
        · rw [if_pos rfl, parts_normalize, parts_append_slash]
        · rw [if_pos rfl, parts_normalize]
    | false =>
        refine ⟨base ++ "/" ++ front, ?_, fun rest _ => ?_⟩
        · rw [if_neg Bool.false_ne_true, parts_normalize, ← String.append_assoc,
            parts_append_slash]
        · rw [if_neg Bool.false_ne_true, parts_normalize]
          simp only [String.append_assoc]

end Path

namespace Completion

/-! ## Candidates as paths -/

theorem toList_withoutSlashes_text {names : List String}
    (named : ∀ name ∈ names, Path.IsName name) :
    (withoutSlashes (Path.text names)).toList = Path.below names := by
  unfold withoutSlashes
  rw [String.toList_ofList]
  rcases List.eq_nil_or_concat' names with rfl | ⟨front, last, rfl⟩
  · decide
  · have valid := named last (by simp)
    obtain ⟨before, c, chars⟩ := (List.eq_nil_or_concat' last.toList).resolve_left
      (mt String.toList_eq_nil_iff.1 valid.nonempty)
    have solid : c ≠ '/' := by
      rintro rfl
      exact valid.noSlash (by simp [chars])
    have written : Path.below (front ++ [last]) = Path.below front ++ '/' :: before ++ [c] := by
      simp [Path.below, chars]
    rw [Path.toList_text_of_ne_nil (by simp), written]
    simp [solid]

theorem nameIn?_eq_some_iff_toList {opening path name : String} :
    nameIn? opening path = some name ↔
      path ≠ "/" ∧ path.toList = opening.toList ++ name.toList ∧ '/' ∉ name.toList := by
  unfold nameIn? Text.startsWith
  constructor
  · intro found
    split at found
    · rename_i fits
      rw [Bool.and_eq_true, bne_iff_ne, List.isPrefixOf_iff_prefix] at fits
      obtain ⟨belowRoot, rest, written⟩ := fits
      simp only [← written, ← String.length_toList, List.drop_left] at found
      split at found
      · cases found
      · rename_i flat
        cases found
        rw [String.toList_ofList]
        exact ⟨belowRoot, written.symm, by simpa using flat⟩
    · cases found
  · rintro ⟨belowRoot, written, flat⟩
    simp [belowRoot, written, flat, ← String.length_toList]

/-- The paths that start with a directory and a slash and have no slash behind it are the paths of
its entries. -/
theorem nameIn?_eq_some_iff {base path name : String} (baseRooted : Path.normalize base = base)
    (rooted : Path.normalize path = path) :
    nameIn? (withoutSlashes base ++ "/") path = some name ↔
      Path.IsName name ∧ path = Path.child base name := by
  have named : ∀ name ∈ Path.parts base, Path.IsName name := fun _ => Path.isName_of_mem_parts
  have opening : (withoutSlashes base ++ "/").toList = Path.below (Path.parts base) ++ ['/'] := by
    rw [String.toList_append, ← toList_withoutSlashes_text named]
    exact congrArg (fun path => (withoutSlashes path).toList ++ ['/']) baseRooted.symm
  rw [nameIn?_eq_some_iff_toList, opening, List.append_assoc, List.singleton_append,
    Path.child_eq_text baseRooted]
  constructor
  · rintro ⟨belowRoot, written, flat⟩
    have parts := Path.parts_of_toList_eq rooted belowRoot named written
    rw [Text.piecesOf_of_notMem flat, List.map_singleton, String.ofList_toList] at parts
    refine ⟨Path.isName_of_mem_parts (parts ▸ List.mem_concat_self), ?_⟩
    rw [← parts]
    exact rooted.symm
  · rintro ⟨valid, rfl⟩
    have written : (Path.text (Path.parts base ++ [name])).toList =
        Path.below (Path.parts base) ++ '/' :: name.toList := by
      rw [Path.toList_text_of_ne_nil (by simp), Path.below_append]
      simp [Path.below]
    refine ⟨?_, written, valid.noSlash⟩
    rw [Ne, Path.eq_root_iff rooted, Path.parts_text (Path.isName_of_mem_concat valid)]
    exact List.append_ne_nil_of_right_ne_nil _ (List.cons_ne_nil _ _)

/-! ## Words -/

/-- A word up to its last slash. -/
def opened (word : String) : String :=
  String.ofList (Text.upToLast '/' word.toList)

/-- A word behind its last slash. -/
def typed (word : String) : String :=
  String.ofList (Text.lastPiece '/' word.toList)

theorem opened_append_typed (word : String) : opened word ++ typed word = word := by
  rw [← String.toList_inj, String.toList_append, opened, typed, String.toList_ofList,
    String.toList_ofList, Text.upToLast_append_lastPiece]

theorem slash_notMem_typed (word : String) : '/' ∉ (typed word).toList := by
  rw [typed, String.toList_ofList]
  exact Text.separator_notMem_lastPiece '/' word.toList

theorem opened_cases (word : String) :
    opened word = "" ∨ ∃ front, opened word = front ++ "/" := by
  unfold opened
  rcases Text.upToLast_cases '/' word.toList with none | ⟨front, ends⟩
  · rw [none]
    exact .inl rfl
  · rw [ends]
    exact .inr ⟨String.ofList front, String.ofList_append⟩

variable {shell : Shell} {word : String}

/-- The directory in which a word is completed. -/
def base (shell : Shell) (word : String) : String :=
  shell.resolve (if (opened word).isEmpty then "." else opened word)

/-- Whether the directory in which a word is completed has a directory under a name. -/
def HasDirectory (shell : Shell) (word name : String) : Prop :=
  shell.session.storage.files.view (Path.parts (base shell word) ++ [name]) = some .directory

instance (shell : Shell) (word name : String) : Decidable (HasDirectory shell word name) :=
  inferInstanceAs (Decidable (_ = _))

/-- What a word becomes with the name of an entry. -/
def written (shell : Shell) (word name : String) : String :=
  opened word ++ name ++ if HasDirectory shell word name then "/" else ""

theorem normalize_base (shell : Shell) (word : String) :
    Path.normalize (base shell word) = base shell word := by
  unfold base Shell.resolve
  exact Path.normalize_resolve _ _

theorem parts_resolve_written {name : String} (valid : Path.IsName name) :
    Path.parts (shell.resolve (written shell word name)) =
      Path.parts (base shell word) ++ [name] := by
  obtain ⟨place, here, behind⟩ := Path.exists_place shell.session.cwd (opened_cases word)
  have relative (suffix : String) : Text.startsWith (name ++ suffix) "/" = false := by
    rw [Path.startsWith_append valid.nonempty, Bool.eq_false_iff, Ne,
      Text.startsWith_iff_head? (c := '/') rfl]
    exact fun first => valid.noSlash (List.mem_of_mem_head? first)
  have directory : Path.parts (base shell word) = Path.parts place := here
  rw [written, Shell.resolve, String.append_assoc, behind _ (relative _), directory]
  refine Path.parts_append_entry place valid ?_
  split
  · exact .inr rfl
  · exact .inl rfl

theorem isDirectory_eq {storage : Storage} (unrefused : storage.refused = []) (path : String) :
    isDirectory storage path = decide (storage.files.view (Path.parts path) = some .directory) := by
  have allowed : FileOperation.info ∉ storage.refused := by simp [unrefused]
  unfold isDirectory Storage.info
  rw [Storage.run_perform allowed]
  cases there : storage.files.view (Path.parts path) with
  | none =>
      rw [Files.run_info_of_absent there]
      rfl
  | some entry =>
      obtain ⟨modified, told⟩ := Files.run_info_of_present there
      rw [told]
      simp

/-! ## Candidates -/

/-- What a word becomes with a path, if it can become the path. -/
def candidateAt? (shell : Shell) (word path : String) : Option String := do
  let name ← nameIn? (withoutSlashes (base shell word) ++ "/") path
  if offers (typed word) name then
    some (opened word ++ name ++ if isDirectory shell.session.storage path then "/" else "")
  else none

theorem files_eq (unrefused : shell.session.storage.refused = []) (word : String) :
    files shell word = .ok
      (Text.sorted (shell.session.storage.files.allPaths.filterMap (candidateAt? shell word))) := by
  unfold files Storage.allPaths
  simp only [unrefused]
  rfl

theorem candidateAt?_eq_some_iff (unrefused : shell.session.storage.refused = [])
    {path candidate : String} (rooted : Path.normalize path = path) :
    candidateAt? shell word path = some candidate ↔
      ∃ name, (Path.IsName name ∧ path = Path.child (base shell word) name) ∧
        offers (typed word) name = true ∧ candidate = written shell word name := by
  unfold candidateAt?
  simp only [Option.bind_eq_bind, Option.bind_eq_some_iff,
    nameIn?_eq_some_iff (normalize_base shell word) rooted]
  refine exists_congr fun name => and_congr_right fun ⟨valid, place⟩ => ?_
  have same : (opened word ++ name ++
      if isDirectory shell.session.storage path then "/" else "") = written shell word name := by
    rw [isDirectory_eq unrefused, place, Path.parts_child (normalize_base shell word) valid]
    simp only [decide_eq_true_eq]
    rfl
  rw [same]
  simp [@eq_comm String candidate]

theorem mem_candidates_iff (tree : shell.session.storage.files.IsTree)
    (unrefused : shell.session.storage.refused = []) {candidate : String} :
    candidate ∈ shell.session.storage.files.allPaths.filterMap (candidateAt? shell word) ↔
      ∃ name, shell.session.storage.files.view (Path.parts (base shell word) ++ [name]) ≠ none ∧
        offers (typed word) name = true ∧ candidate = written shell word name := by
  simp only [← tree.child_mem_allPaths_iff (normalize_base shell word)]
  rw [List.mem_filterMap]
  constructor
  · rintro ⟨path, member, becomes⟩
    obtain ⟨name, ⟨valid, place⟩, offered, same⟩ :=
      (candidateAt?_eq_some_iff unrefused (tree.mem_allPaths_iff.1 member).1).1 becomes
    exact ⟨name, ⟨valid, place ▸ member⟩, offered, same⟩
  · rintro ⟨name, ⟨valid, member⟩, offered, same⟩
    exact ⟨_, member, (candidateAt?_eq_some_iff unrefused (tree.mem_allPaths_iff.1 member).1).2
      ⟨name, ⟨valid, rfl⟩, offered, same⟩⟩

/-- No two paths become the same candidate, because a candidate resolves to its path. -/
theorem nodup_candidates (tree : shell.session.storage.files.IsTree)
    (unrefused : shell.session.storage.refused = []) (word : String) :
    (shell.session.storage.files.allPaths.filterMap (candidateAt? shell word)).Nodup := by
  refine List.pairwise_filterMap.2 (tree.pairwise_lt_allPaths.imp_of_mem ?_)
  intro left right leftMember rightMember less first becomesLeft second becomesRight same
  obtain ⟨leftName, ⟨leftValid, leftPlace⟩, -, leftWritten⟩ :=
    (candidateAt?_eq_some_iff unrefused (tree.mem_allPaths_iff.1 leftMember).1).1 becomesLeft
  obtain ⟨rightName, ⟨rightValid, rightPlace⟩, -, rightWritten⟩ :=
    (candidateAt?_eq_some_iff unrefused (tree.mem_allPaths_iff.1 rightMember).1).1 becomesRight
  have parts := congrArg (fun text => Path.parts (shell.resolve text))
    (leftWritten.symm.trans (same.trans rightWritten))
  simp only [parts_resolve_written leftValid, parts_resolve_written rightValid,
    List.append_cancel_left_eq, List.singleton_inj] at parts
  rw [leftPlace, rightPlace, parts] at less
  exact String.lt_irrefl _ less

/-! ## Listings -/

/-- What the candidates for a word have to be to be the listing of its directory: the names there
that start as the word does behind its last slash, hidden ones only for a hidden start, each
behind the directory part of the word, and with a slash behind it if it is a directory. -/
structure IsFilteredListing (shell : Shell) (word : String) (candidates : List String) : Prop where
  divided : opened word ++ typed word = word ∧ '/' ∉ (typed word).toList ∧
    (opened word = "" ∨ ∃ front, opened word = front ++ "/")
  increasing : candidates.Pairwise (· < ·)
  listed : shell.session.storage.files.view (Path.parts (base shell word)) = some .directory →
    ∃ names, (Files.list (base shell word)).run shell.session.storage.files =
        (.ok names, shell.session.storage.files) ∧
      ∀ candidate, candidate ∈ candidates ↔
        ∃ name ∈ names, Text.startsWith name (typed word) = true ∧
          (Text.startsWith name "." = true → Text.startsWith (typed word) "." = true) ∧
          candidate = written shell word name
  unlisted : shell.session.storage.files.view (Path.parts (base shell word)) ≠ some .directory →
    (∃ failure, (Files.list (base shell word)).run shell.session.storage.files =
        (.error failure, shell.session.storage.files)) ∧ candidates = []
  extends_word : ∀ candidate ∈ candidates, Text.startsWith candidate word = true
  present : ∀ candidate ∈ candidates,
    shell.session.storage.files.contains (shell.resolve candidate) = true

theorem offers_iff {start name : String} :
    offers start name = true ↔ Text.startsWith name start = true ∧
      (Text.startsWith name "." = true → Text.startsWith start "." = true) := by
  unfold offers
  simp only [Bool.and_eq_true, Bool.or_eq_true, Bool.not_eq_true', ← Bool.not_eq_true,
    imp_iff_not_or]

theorem startsWith_written {name : String} (offered : Text.startsWith name (typed word) = true) :
    Text.startsWith (written shell word name) word = true := by
  unfold Text.startsWith at offered ⊢
  rw [List.isPrefixOf_iff_prefix] at offered ⊢
  obtain ⟨rest, same⟩ := offered
  refine ⟨rest ++ (if HasDirectory shell word name then "/" else "").toList, ?_⟩
  have chars : word.toList = (opened word).toList ++ (typed word).toList := by
    rw [← String.toList_append, opened_append_typed]
  rw [chars]
  simp [written, ← same]

theorem isFilteredListing_of_isTree (tree : shell.session.storage.files.IsTree)
    (unrefused : shell.session.storage.refused = []) (word : String) :
    IsFilteredListing shell word
      (Text.sorted
        (shell.session.storage.files.allPaths.filterMap (candidateAt? shell word))) where
  divided := ⟨opened_append_typed word, slash_notMem_typed word, opened_cases word⟩
  increasing := Text.pairwise_lt_sorted (nodup_candidates tree unrefused word)
  listed directory := by
    obtain ⟨names, listed, -, members⟩ := tree.run_list_of_directory directory
    refine ⟨names, listed, fun candidate => ?_⟩
    rw [Text.mem_sorted, mem_candidates_iff tree unrefused]
    simp only [members, offers_iff, and_assoc]
  unlisted noDirectory := by
    constructor
    · cases there : shell.session.storage.files.view (Path.parts (base shell word)) with
      | none => exact ⟨_, Files.run_list_of_absent there⟩
      | some entry =>
          cases entry with
          | file content => exact ⟨_, Files.run_list_of_file there⟩
          | directory => exact absurd there noDirectory
    · refine List.eq_nil_iff_forall_not_mem.2 fun candidate member => ?_
      obtain ⟨name, present, -⟩ := (mem_candidates_iff tree unrefused).1 (Text.mem_sorted.1 member)
      exact noDirectory (tree.view_parent (Option.isSome_iff_ne_none.2 present))
  extends_word candidate member := by
    obtain ⟨name, -, offered, same⟩ :=
      (mem_candidates_iff tree unrefused).1 (Text.mem_sorted.1 member)
    rw [same]
    exact startsWith_written (offers_iff.1 offered).1
  present candidate member := by
    obtain ⟨name, present, -, same⟩ :=
      (mem_candidates_iff tree unrefused).1 (Text.mem_sorted.1 member)
    have valid := ((tree.child_mem_allPaths_iff (normalize_base shell word)).2 present).1
    -- A slash behind the name of a directory is not a component.
    rw [same, Files.contains_eq, parts_resolve_written valid]
    exact Option.isSome_iff_ne_none.2 present

/-- Completing a word as a path succeeds, and lists the directory of the word. -/
theorem files_of_listing (reachable : shell.session.storage.files.Reachable)
    (unrefused : shell.session.storage.refused = []) (word : String) :
    ∃ candidates, files shell word = .ok candidates ∧ IsFilteredListing shell word candidates :=
  ⟨_, files_eq unrefused word, isFilteredListing_of_isTree reachable.isTree unrefused word⟩

/-- A shell in a directory with two siblings whose names start with its own. -/
def siblingShell : Shell :=
  ⟨⟨.default, .empty⟩,
    ⟨"/a", "/", .empty, .empty, [], 0, 0, 0, 0,
      .own ((((Files.empty 0).after 1 (.makeDirectory "/a" false)).after 2
        (.makeDirectory "/ab" false)).after 3 (.write "/a.b" "" false)), .empty none⟩, false⟩

/-- A slash comes behind a full stop, and so does a directory behind a longer name. -/
theorem files_of_siblings :
    siblingShell.session.storage.files.Reachable ∧ siblingShell.session.storage.refused = [] ∧
      files siblingShell "../a" = .ok ["../a.b", "../a/", "../ab/"] ∧
      IsFilteredListing siblingShell "../a" ["../a.b", "../a/", "../ab/"] := by
  have reachable : siblingShell.session.storage.files.Reachable :=
    .tried (.tried (.tried (.empty 0) 1 _) 2 _) 3 _
  have found : files siblingShell "../a" = .ok ["../a.b", "../a/", "../ab/"] := by
    rw [files_eq rfl, Text.sorted_eq_insertionSort, Files.allPaths, Text.sorted_eq_insertionSort]
    exact congrArg Except.ok (by decide +kernel)
  obtain ⟨candidates, same, lists⟩ := files_of_listing reachable rfl "../a"
  rw [found] at same
  cases same
  exact ⟨reachable, rfl, found, lists⟩

end Completion

end VirtualShell
