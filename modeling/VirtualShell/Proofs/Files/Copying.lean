import VirtualShell.Proofs.Files.Failing
import VirtualShell.Proofs.Files.Opening
import VirtualShell.Proofs.Files.Overlay
import VirtualShell.Proofs.Files.Refinement

/-!
Contract: what a recursive copy makes of a file tree.

Owns:
- `Overlays`, work that lays all that is at a source over a target, and that a copy is such work
  as long as whatever it copies into its own source is foreseen there;
- `foreseen_of_absent`, a condition on names under which it is;
- `isOverlay_of_copied`: a directory that is copied to a place beside it lies over what was there,
  and nothing else has changed;
- `view_of_foreseen_copy`: what is at the target of a copy, also where that is around the
  directory, and `exists_overtaken`, where entries are copied that were not in the directory.
-/

namespace VirtualShell.Files

open VirtualShell.Fallible

variable {files : Files}

/-! ## One directory -/

section CopyWith

variable {copyEntry : String → String → Action Unit} {source target content : String}
  {after : Files}

theorem run_copyWith_of_file (file : files.view (Path.parts source) = some (.file content)) :
    (copyWith copyEntry source target true).run files =
      (write (Path.text (Path.parts target)) content false).run files := by
  rw [view_eq_map_find?, Option.map_eq_some_iff] at file
  obtain ⟨node, found, kind⟩ := file
  unfold copyWith
  simp only [run_bind, run_nodeAt, found]
  cases node with
  | file =>
      cases kind
      rfl
  | directory => cases kind

/-- A copy of a directory makes the directory at the target, and then copies one entry after the
other in the order of their names. -/
theorem IsTree.exists_names_of_copyWith (tree : files.IsTree)
    (directory : files.view (Path.parts source) = some .directory)
    (done : (copyWith copyEntry source target true).run files = (.ok (), after)) :
    ¬ Path.parts source <+: Path.parts target ∧
    ∃ (names : List String) (middle : Files), names.Pairwise (· < ·) ∧
      (∀ name, name ∈ names ↔ files.view (Path.parts source ++ [name]) ≠ none) ∧
      (makeDirectory (Path.text (Path.parts target)) true).run files = (.ok (), middle) ∧
      (names.forM fun name => copyEntry (Path.text (Path.parts source ++ [name]))
        (Path.text (Path.parts target ++ [name]))).run middle = (.ok (), after) := by
  obtain ⟨number, found, fit⟩ := exists_directory_of_view directory
  obtain ⟨modified, children, node⟩ := entryOf_eq_some_directory_iff.1 fit
  have here : files.find? (Path.parts source) = some (.directory modified children) := by
    unfold find?
    rw [found]
    exact node
  unfold copyWith at done
  simp only [run_bind, run_nodeAt, here] at done
  by_cases within : Path.parts source <+: Path.parts target
  · rw [if_neg (by simp), if_pos (List.isPrefixOf_iff_prefix.2 within)] at done
    cases done
  · rw [if_neg (by simp), if_neg (mt List.isPrefixOf_iff_prefix.1 within), run_bind] at done
    refine ⟨within, Text.sorted children.keys, ?_⟩
    rcases made : (makeDirectory (Path.text (Path.parts target)) true).run files with
      ⟨error | ⟨⟩, middle⟩
    · rw [made] at done
      cases done
    · rw [made] at done
      refine ⟨middle, Text.pairwise_lt_sorted children.distinct, fun name => ?_, rfl, done⟩
      rw [Text.mem_sorted]
      exact tree.mem_children_iff found node name

end CopyWith

theorem IsTree.isName_of_view (tree : files.IsTree) {parts : List String} {name : String}
    (present : files.view (parts ++ [name]) ≠ none) : Path.IsName name := by
  rw [Ne, tree.view_eq_none_iff] at present
  obtain ⟨number, found⟩ := Option.ne_none_iff_exists'.1 present
  obtain ⟨parent, -, link⟩ := numberAt?_concat_eq_some_iff.1 found
  exact tree.named link

/-- Where a file can be written, everything before it is there. -/
theorem IsTree.present_of_writable (tree : files.IsTree) {parts other : List String}
    (writable : files.view.Writable parts) (before : other <+: parts) (shorter : other ≠ parts) :
    files.view other ≠ none := by
  obtain ⟨old, file⟩ | ⟨-, parents, name, rfl, directory⟩ := writable
  · exact tree.present_of_prefix (Option.isSome_of_eq_some file) other before
  · have earlier := (List.prefix_concat_iff.1 before).resolve_left shorter
    exact tree.present_of_prefix (Option.isSome_of_eq_some directory) other earlier

/-- The path of an entry of a directory is read into the components that it is made of. -/
theorem parts_text_concat (path : String) {name : String} (named : Path.IsName name) :
    Path.parts (Path.text (Path.parts path ++ [name])) = Path.parts path ++ [name] := by
  apply Path.parts_text
  intro other member
  obtain earlier | last := List.mem_append.1 member
  · exact Path.isName_of_mem_parts earlier
  · exact List.mem_singleton.1 last ▸ named

/-! ## Whole trees -/

/-- The work lays what is at a source over a target if it ends well, for sources that are at most
`depth` directories deep and in which all that comes into them is foreseen. -/
def Overlays (depth : Nat) (work : String → String → Action Unit) : Prop :=
  ∀ {source target : String} {files after : Files}, files.IsTree →
    (∀ rest, files.view (Path.parts source ++ rest) ≠ none → rest.length ≤ depth) →
    files.view.Foreseen (Path.parts source) (Path.parts target) →
    (work source target).run files = (.ok (), after) →
    IsTreeOf (files.view.overlaid (Path.parts source) (Path.parts target)) after

/-- If copying one entry lays it over the target, copying several entries in order lays one after
the other. -/
theorem isTreeOf_laid_of_forM {map : PathMap} {source target : List String}
    {copyEntry : String → Action Unit} (earlier : List String) (apart : ¬ source <+: target)
    (foreseen : map.Foreseen source target) {names : List String}
    (ordered : (earlier ++ names).Pairwise (· < ·))
    (listed : ∀ name ∈ names, map (source ++ [name]) ≠ none)
    (each : ∀ name ∈ names, ∀ earlier, (∀ other ∈ earlier, other < name) → ∀ {files after},
      IsTreeOf (map.laid source target (PathMap.beginsWith earlier)) files →
      (copyEntry name).run files = (.ok (), after) →
      IsTreeOf ((map.laid source target (PathMap.beginsWith earlier)).overlaid (source ++ [name])
        (target ++ [name])) after)
    {after : Files}
    (start : IsTreeOf (map.laid source target (PathMap.beginsWith earlier)) files)
    (done : (names.forM copyEntry).run files = (.ok (), after)) :
    IsTreeOf (map.laid source target (PathMap.beginsWith (earlier ++ names))) after := by
  induction names generalizing earlier files with
  | nil =>
      cases done
      rwa [List.append_nil]
  | cons name names inductionHypothesis =>
      have before : ∀ other ∈ earlier, other < name := fun other member =>
        (List.pairwise_append.1 ordered).2.2 other member name List.mem_cons_self
      change (copyEntry name >>= fun _ => names.forM copyEntry).run files = _ at done
      rw [run_bind] at done
      rcases ran : (copyEntry name).run files with ⟨error | ⟨⟩, middle⟩
      · rw [ran] at done
        cases done
      · rw [ran] at done
        have copied := each name List.mem_cons_self earlier before start ran
        rw [PathMap.overlaid_laid apart foreseen (listed name List.mem_cons_self) before] at copied
        rw [List.append_cons] at ordered ⊢
        exact inductionHypothesis _ ordered
          (fun other member => listed other (List.mem_cons_of_mem name member))
          (fun other member => each other (List.mem_cons_of_mem name member)) copied done

/-- What is below a file. -/
theorem IsTree.view_below_file (tree : files.IsTree) {parts : List String} {content : String}
    (file : files.view parts = some (.file content)) (name : String) (rest : List String) :
    files.view (parts ++ name :: rest) = none := by
  refine Option.not_isSome_iff_eq_none.1 fun present => ?_
  have directory := tree.view_of_prefix (List.prefix_append parts (name :: rest)) (by simp) present
  rw [file] at directory
  cases directory

section Overlays

variable {copyEntry : String → String → Action Unit} {source target content : String}
  {after : Files} {depth : Nat}

theorem copyFile_overlays (tree : files.IsTree)
    (file : files.view (Path.parts source) = some (.file content))
    (done : (copyWith copyEntry source target true).run files = (.ok (), after)) :
    IsTreeOf (files.view.overlaid (Path.parts source) (Path.parts target)) after := by
  have read : Path.parts (Path.text (Path.parts target)) = Path.parts target :=
    Path.parts_text fun _ => Path.isName_of_mem_parts
  rw [run_copyWith_of_file file] at done
  have written := (atomic_write tree _ content false).success done
  have writable := tree.writable_of_write done
  rw [read] at written writable
  rw [← PathMap.put_eq_overlaid file (tree.view_below_file file) fun other before shorter =>
    tree.present_of_writable writable before shorter]
  exact written

/-- An entry is still as it was when its turn comes, so it is laid over what is then at the target
as the whole source would be. -/
theorem overlays_entry (entries : ∀ shallower, depth = shallower + 1 → Overlays shallower copyEntry)
    (tree : files.IsTree)
    (bound : ∀ rest, files.view (Path.parts source ++ rest) ≠ none → rest.length ≤ depth)
    (foreseen : files.view.Foreseen (Path.parts source) (Path.parts target))
    (apart : ¬ Path.parts source <+: Path.parts target) {name : String} {earlier : List String}
    (entry : files.view (Path.parts source ++ [name]) ≠ none)
    (before : ∀ other ∈ earlier, other < name) {between : Files}
    (start : IsTreeOf (files.view.laid (Path.parts source) (Path.parts target)
      (PathMap.beginsWith earlier)) between)
    (done : (copyEntry (Path.text (Path.parts source ++ [name]))
      (Path.text (Path.parts target ++ [name]))).run between = (.ok (), after)) :
    IsTreeOf ((files.view.laid (Path.parts source) (Path.parts target)
      (PathMap.beginsWith earlier)).overlaid (Path.parts source ++ [name])
        (Path.parts target ++ [name])) after := by
  have kept := PathMap.laid_source apart foreseen entry before
  have named := tree.isName_of_view entry
  have inSource : Path.parts (Path.text (Path.parts source ++ [name])) =
      Path.parts source ++ [name] := parts_text_concat _ named
  have inTarget : Path.parts (Path.text (Path.parts target ++ [name])) =
      Path.parts target ++ [name] := parts_text_concat _ named
  cases depth with
  | zero => exact absurd (bound [name] entry) (by simp)
  | succ shallower =>
      have overlaid := entries shallower rfl start.1 ?_ ?_ done
      · rwa [inSource, inTarget, start.2] at overlaid
      · intro rest present
        rw [inSource, start.2, List.append_assoc, List.singleton_append, kept] at present
        exact Nat.le_of_succ_le_succ (bound (name :: rest) present)
      · rw [inSource, inTarget, start.2]
        exact PathMap.Foreseen.entry apart foreseen entry before

theorem copyDirectory_overlays
    (entries : ∀ shallower, depth = shallower + 1 → Overlays shallower copyEntry)
    (tree : files.IsTree) (directory : files.view (Path.parts source) = some .directory)
    (bound : ∀ rest, files.view (Path.parts source ++ rest) ≠ none → rest.length ≤ depth)
    (foreseen : files.view.Foreseen (Path.parts source) (Path.parts target))
    (done : (copyWith copyEntry source target true).run files = (.ok (), after)) :
    IsTreeOf (files.view.overlaid (Path.parts source) (Path.parts target)) after := by
  obtain ⟨apart, names, middle, ordered, listed, made, copied⟩ :=
    tree.exists_names_of_copyWith directory done
  have read : Path.parts (Path.text (Path.parts target)) = Path.parts target :=
    Path.parts_text fun _ => Path.isName_of_mem_parts
  obtain ⟨begun, standing⟩ := (atomic_makeDirectories tree _).success made
  rw [read] at begun standing
  have all : ∀ name rest, files.view (Path.parts source ++ name :: rest) ≠ none →
      name ∈ names := by
    intro name rest present
    refine (listed name).2 ?_
    apply tree.present_of_prefix (Option.isSome_iff_ne_none.2 present)
    exact ⟨rest, by simp⟩
  rw [← PathMap.laid_eq_overlaid directory (begun.2 ▸ standing) all]
  rw [← PathMap.laid_nil (Path.parts source)] at begun
  refine isTreeOf_laid_of_forM [] apart foreseen ordered
    (fun name member => (listed name).1 member) ?_ begun copied
  intro name member earlier before between after start ended
  exact overlays_entry entries tree bound foreseen apart ((listed name).1 member) before start ended

theorem copyWith_overlays
    (entries : ∀ shallower, depth = shallower + 1 → Overlays shallower copyEntry) :
    Overlays depth fun source target => copyWith copyEntry source target true := by
  intro source target files after tree bound foreseen done
  match known : files.view (Path.parts source) with
  | none =>
      rw [view_eq_map_find?, Option.map_eq_none_iff] at known
      simp only [copyWith, run_bind, run_nodeAt, known, run_fail] at done
      cases done
  | some (.file content) => exact copyFile_overlays tree known done
  | some .directory => exact copyDirectory_overlays entries tree known bound foreseen done

end Overlays

theorem copyWithin_overlays (depth : Nat) :
    Overlays depth fun source target => copyWithin depth source target true := by
  induction depth with
  | zero =>
      apply copyWith_overlays
      intro shallower none
      cases none
  | succ depth inductionHypothesis =>
      apply copyWith_overlays
      intro shallower same
      obtain rfl := Nat.succ.inj same
      exact inductionHypothesis

/-- A recursive copy lays what is at the source over the target if all that it copies into its own
source is foreseen there. -/
theorem IsTree.view_copy (tree : files.IsTree) {source target : String} {after : Files}
    (foreseen : files.view.Foreseen (Path.parts source) (Path.parts target))
    (done : (copy source target true).run files = (.ok (), after)) :
    after.view = files.view.overlaid (Path.parts source) (Path.parts target) := by
  refine (copyWithin_overlays files.nodes.size tree ?_ foreseen done).2
  intro rest present
  rw [Ne, tree.view_eq_none_iff] at present
  have length := tree.length_lt_size (Option.isSome_iff_ne_none.2 present)
  rw [List.length_append] at length
  omega

/-- A directory that has no entry of the name by which it is reached from the target comes into
none of its own entries. -/
theorem IsTree.foreseen_of_absent (tree : files.IsTree) {source target : List String}
    (apart : ¬ source <+: target)
    (absent : ∀ name, target ++ [name] <+: source → files.view (source ++ [name]) = none) :
    files.view.Foreseen source target := by
  by_cases around : target <+: source
  · obtain ⟨way, rfl⟩ := around
    cases way with
    | nil => exact absurd (by simp) apart
    | cons name way =>
        intro rest other entry there same
        rw [List.append_assoc, List.append_cancel_left_eq] at same
        have entered := tree.present_of_prefix (Option.isSome_of_eq_some there)
          (target ++ name :: way ++ [name]) ⟨way ++ other, by simp [same]⟩
        exact absurd (absent name ⟨way, by simp⟩) entered
  · exact PathMap.foreseen_of_apart apart around

/-! ## Trees that can be reached -/

theorem view_setTime (files : Files) (now : Int) :
    Files.view { files with now := now } = files.view := by
  funext parts
  rw [view_eq_map_find?, find?_setTime, ← view_eq_map_find?]

section Reachable

variable {source target : String} {now : Int}

theorem Reachable.view_copy (reachable : files.Reachable)
    (foreseen : files.view.Foreseen (Path.parts source) (Path.parts target))
    (done : ((Operation.copy source target true).action.run { files with now := now }).1 = .ok ()) :
    (files.after now (.copy source target true)).view =
      files.view.overlaid (Path.parts source) (Path.parts target) := by
  rw [← view_setTime files now] at foreseen ⊢
  exact (reachable.isTree.setTime now).view_copy foreseen (Prod.ext done rfl)

/-- A directory that is copied to a place beside it lies over what was there before, and nothing
else has changed. -/
theorem isOverlay_of_copied (reachable : files.Reachable)
    (directory : files.view (Path.parts source) = some .directory)
    (apart : ¬ Path.parts source <+: Path.parts target)
    (outside : ¬ Path.parts target <+: Path.parts source)
    (done : ((Operation.copy source target true).action.run { files with now := now }).1 = .ok ()) :
    PathMap.IsOverlay files.view (files.after now (.copy source target true)).view
      (Path.parts source) (Path.parts target) := by
  rw [reachable.view_copy (PathMap.foreseen_of_apart apart outside) done]
  exact PathMap.isOverlay_overlaid directory apart outside

/-- A directory that is copied over another one, in which a file of it has another content. -/
def mergedFiles : Files :=
  (((empty 0).after 1 (.write "/a/s/f" "new" true)).after 2 (.write "/t/s/f" "old" true)).after 3
    (.write "/t/kept" "" false)

theorem isOverlay_of_merged :
    PathMap.IsOverlay mergedFiles.view (mergedFiles.after 4 (.copy "/a" "/x/../t" true)).view
      (Path.parts "/a") (Path.parts "/x/../t") := by
  refine isOverlay_of_copied (.tried (.tried (.tried (.empty 0) 1 _) 2 _) 3 _) ?_ ?_ ?_ ?_
  · decide +kernel
  · decide +kernel
  · decide +kernel
  · have size : mergedFiles.nodes.size = 8 := by decide +kernel
    simp only [Operation.action, copy, run_bind, run_get, size, copyWithin, copyWith,
      Text.sorted_eq_insertionSort]
    decide +kernel

/-- What was in a directory is where it has been copied to, and nothing is there that was neither
in it nor there before, also if that is around the directory. Left out are directories into which
the copy puts, from below, something that was not there and that it then copies from there. -/
theorem view_of_foreseen_copy (reachable : files.Reachable)
    (directory : files.view (Path.parts source) = some .directory)
    (foreseen : files.view.Foreseen (Path.parts source) (Path.parts target))
    (done : ((Operation.copy source target true).action.run { files with now := now }).1 = .ok ())
    (rest : List String) :
    ((files.after now (.copy source target true)).view (Path.parts target ++ rest) ≠ none →
      files.view (Path.parts source ++ rest) ≠ none ∨
        files.view (Path.parts target ++ rest) ≠ none) ∧
    ∀ content, files.view (Path.parts source ++ rest) = some (.file content) →
      (files.after now (.copy source target true)).view (Path.parts target ++ rest) =
        some (.file content) := by
  have present : files.view (Path.parts source) ≠ none := by simp [directory]
  rw [reachable.view_copy foreseen done, PathMap.overlaid_target present]
  constructor
  · intro there
    split at there
    · exact .inl there
    · exact .inr there
  · intro content file
    rw [if_pos (by simp [file]), file]

end Reachable

/-- A directory with a file in it, and a directory of the same name below it that comes over it
when it is copied to its own parent. -/
def nestedFiles : Files :=
  ((empty 0).after 1 (.write "/p/c/c/b" "inner" true)).after 2 (.write "/p/c/b" "outer" false)

theorem reachable_nestedFiles : nestedFiles.Reachable :=
  .tried (.tried (.empty 0) 1 _) 2 _

/-- The name that comes into the directory is not behind the one that is being copied. -/
theorem foreseen_nestedFiles :
    nestedFiles.view.Foreseen (Path.parts "/p/c") (Path.parts "/p") := by
  have tree := reachable_nestedFiles.isTree
  have only : ∀ name, nestedFiles.view (["p", "c", "c"] ++ [name]) ≠ none → name = "b" := by
    have inner : Path.parts "/p/c/c" = ["p", "c", "c"] := by decide +kernel
    have directory : nestedFiles.view (Path.parts "/p/c/c") = some .directory := by decide +kernel
    obtain ⟨names, listed, -, all⟩ := tree.run_list_of_directory directory
    have found : ((list "/p/c/c").run nestedFiles).1 = .ok ["b"] := by
      simp only [list, Text.sorted_eq_insertionSort]
      decide +kernel
    obtain rfl : names = ["b"] := Except.ok.inj (by rw [← found, listed])
    intro name present
    rw [← inner] at present
    exact List.mem_singleton.1 ((all name).2 present)
  have source : Path.parts "/p/c" = ["p", "c"] := by decide +kernel
  have target : Path.parts "/p" = ["p"] := by decide +kernel
  rw [source, target]
  rintro rest other entry there same ⟨before, earlier, name, behind, rfl, inside, order, -⟩
  obtain rfl : rest = "c" :: (before ++ name :: behind) := (List.cons.inj same).2
  have level : before ++ [earlier] = "c" :: before :=
    (List.cons_prefix_cons.1 inside).2.eq_of_length (by simp)
  have below : ∀ next onward, before ++ name :: behind = next :: onward → next = "b" := by
    intro next onward first
    refine only next (tree.present_of_prefix (Option.isSome_of_eq_some there) _ ?_)
    exact ⟨onward, by simp [first]⟩
  cases before with
  | nil =>
      cases level
      cases below name behind rfl
      exact absurd order (by decide +kernel)
  | cons next before =>
      obtain rfl : next = "c" := (List.cons.inj level).1
      exact absurd (below "c" _ rfl) (by decide +kernel)

theorem view_of_nested_copy :
    (nestedFiles.after 3 (.copy "/p/c" "/p" true)).view (Path.parts "/p" ++ ["b"]) =
        some (.file "outer") ∧
      (nestedFiles.after 3 (.copy "/p/c" "/p" true)).view (Path.parts "/p" ++ ["c", "b"]) =
        some (.file "inner") := by
  have done : ((Operation.copy "/p/c" "/p" true).action.run { nestedFiles with now := 3 }).1 =
      .ok () := by
    have size : nestedFiles.nodes.size = 6 := by decide +kernel
    simp only [Operation.action, copy, run_bind, run_get, size, copyWithin, copyWith,
      Text.sorted_eq_insertionSort]
    decide +kernel
  have copied := view_of_foreseen_copy reachable_nestedFiles (by decide +kernel)
    foreseen_nestedFiles done
  exact ⟨(copied ["b"]).2 "outer" (by decide +kernel),
    (copied ["c", "b"]).2 "inner" (by decide +kernel)⟩

/-- A directory into which copying it to its own parent first puts other entries. -/
def overtakenFiles : Files :=
  ((((empty 0).after 1 (.write "/p/c/c/x" "inner" true)).after 2
    (.write "/p/c/c/d/y" "new" true)).after 3 (.makeDirectory "/p/c/d" false)).after 4
      (.write "/p/c/x" "outer" false)

/-- The file `x` is not copied as it was, and `d/y` was in neither directory. -/
theorem exists_overtaken :
    ∃ (files after : Files) (source target : String), files.Reachable ∧
      files.view (Path.parts source) = some .directory ∧
      Path.parts target <+: Path.parts source ∧ Path.parts target ≠ Path.parts source ∧
      (copy source target true).run files = (.ok (), after) ∧
      (files.view (Path.parts source ++ ["x"]) = some (.file "outer") ∧
        after.view (Path.parts target ++ ["x"]) = some (.file "inner")) ∧
      files.view (Path.parts source ++ ["d", "y"]) = none ∧
      files.view (Path.parts target ++ ["d", "y"]) = none ∧
      after.view (Path.parts target ++ ["d", "y"]) = some (.file "new") := by
  have ran : ((copy "/p/c" "/p" true).run overtakenFiles).1 = .ok () ∧
      ((copy "/p/c" "/p" true).run overtakenFiles).2.view ["p", "x"] = some (.file "inner") ∧
      ((copy "/p/c" "/p" true).run overtakenFiles).2.view ["p", "d", "y"] = some (.file "new") := by
    have size : overtakenFiles.nodes.size = 9 := by decide +kernel
    simp only [copy, run_bind, run_get, size, copyWithin, copyWith, Text.sorted_eq_insertionSort]
    decide +kernel
  have source : Path.parts "/p/c" = ["p", "c"] := by decide +kernel
  have target : Path.parts "/p" = ["p"] := by decide +kernel
  refine ⟨overtakenFiles, _, "/p/c", "/p",
    .tried (.tried (.tried (.tried (.empty 0) 1 _) 2 _) 3 _) 4 _, by decide +kernel, ?_, ?_,
    Prod.ext ran.1 rfl, ?_, ?_⟩
  · rw [source, target]
    exact ⟨["c"], rfl⟩
  · rw [source, target]
    decide
  · rw [source, target]
    exact ⟨by decide +kernel, ran.2.1⟩
  · rw [source, target]
    exact ⟨by decide +kernel, by decide +kernel, ran.2.2⟩

end VirtualShell.Files
