import VirtualShell.Proofs.Files.Writing

/-!
Contract: where a file can be written, and what opening several files leaves of a tree.

Owns:
- `PathMap.Writable`, that a path has a file or room for one; writing and appending end well
  there and nowhere else, and room for one file is not taken by another.
- `Opening`, a file opened to be emptied or to be continued, and `PathMap.openAll`, which
  opens files one after the other.
- `PathMap.written`, the map in which every opened file has received a text, and that it is
  where opening and appending lead.
-/

namespace VirtualShell.Files

variable {files : Files}

/-! ## Where files can be written -/

namespace PathMap

/-- There is a file at a path, or nothing yet in a directory. -/
def Writable (map : PathMap) (parts : List String) : Prop :=
  (∃ old, map parts = some (.file old)) ∨
    map parts = none ∧
      ∃ parents name, parts = parents ++ [name] ∧ map parents = some .directory

theorem put_self (map : PathMap) (parts : List String) (entry : Entry) :
    map.put parts entry parts = some entry :=
  if_pos rfl

theorem put_of_ne (map : PathMap) {parts other : List String} (entry : Entry)
    (apart : other ≠ parts) : map.put parts entry other = map other :=
  if_neg apart

variable {map : PathMap} {parts other : List String}

theorem Writable.ne_of_directory (writable : map.Writable parts)
    (directory : map other = some .directory) : other ≠ parts := by
  rintro rfl
  rcases writable with ⟨old, file⟩ | ⟨absent, _⟩
  · rw [directory] at file
    cases file
  · rw [directory] at absent
    cases absent

/-- Writing a file takes no other file its room. -/
theorem Writable.put (writable : map.Writable parts) (target : map.Writable other)
    (content : String) : (map.put other (.file content)).Writable parts := by
  by_cases same : parts = other
  · exact .inl ⟨content, same ▸ map.put_self other _⟩
  · rcases writable with ⟨old, file⟩ | ⟨absent, parents, name, split, directory⟩
    · exact .inl ⟨old, (map.put_of_ne _ same).trans file⟩
    · have apart := target.ne_of_directory directory
      exact .inr ⟨(map.put_of_ne _ same).trans absent, parents, name, split,
        (map.put_of_ne _ apart).trans directory⟩

end PathMap

/-- A path at which a file has been written could be written. -/
theorem IsTree.writable_of_put (tree : files.IsTree) {after : Files} {parts : List String}
    {content : String} (fit : files.view parts ≠ some .directory)
    (named : ∀ name ∈ parts, Path.IsName name)
    (written : IsTreeOf (files.view.put parts (.file content)) after) :
    files.view.Writable parts := by
  cases known : files.view parts with
  | some entry =>
      cases entry with
      | file old => exact .inl ⟨old, known⟩
      | directory => exact absurd known fit
  | none =>
      have below : parts ≠ [] := by
        rintro rfl
        rw [tree.view_nil] at known
        cases known
      rcases exists_concat_of_ne_nil below named with ⟨parents, name, rfl, _⟩
      have present : (after.view (parents ++ [name])).isSome := by
        rw [written.2, PathMap.put_self]
        rfl
      have directory := written.1.view_parent present
      rw [written.2, PathMap.put_of_ne _ _ (by simp)] at directory
      exact .inr ⟨known, parents, name, rfl, directory⟩

theorem IsTree.writable_of_write (tree : files.IsTree) {path content : String} {after : Files}
    (done : (write path content false).run files = (.ok (), after)) :
    files.view.Writable (Path.parts path) := by
  have written := (atomic_write tree path content false).success done
  refine tree.writable_of_put ?_ (fun _ => Path.isName_of_mem_parts) written
  intro directory
  rw [run_write_of_directory directory] at done
  cases done

theorem IsTree.writable_of_append (tree : files.IsTree) {path content : String} {after : Files}
    (done : (append path content).run files = (.ok (), after)) :
    files.view.Writable (Path.parts path) := by
  have written := (atomic_append tree path content).success done
  refine tree.writable_of_put ?_ (fun _ => Path.isName_of_mem_parts) written
  intro directory
  rw [run_append_of_directory directory] at done
  cases done

theorem IsTree.succeeds_write (tree : files.IsTree) {path : String}
    (writable : files.view.Writable (Path.parts path)) (content : String) :
    Succeeds (write path content false) files
      (IsTreeOf (files.view.put (Path.parts path) (.file content))) := by
  rcases writable with ⟨old, known⟩ | ⟨absent, parents, name, split, directory⟩
  · rcases exists_file_of_view known with ⟨number, found, file⟩
    exact .of_run (run_write_of_file found file content false)
      (tree.setFile_isTreeOf found file files.now content)
  · have run := run_write_of_absent (tree.view_eq_none_iff.1 absent) content false
    have member : name ∈ Path.parts path := by simp [split]
    have last := Path.isName_of_mem_parts member
    rw [split] at run absent ⊢
    have made : Succeeds (createAt (parents ++ [name]) fun files => .file files.now content) files
        (IsTreeOf (files.view.put (parents ++ [name]) (.file content))) :=
      succeeds_createAt tree directory absent last rfl
    rcases made with ⟨after, ends, written⟩
    exact .of_run (run.trans ends) written

theorem IsTree.succeeds_append (tree : files.IsTree) {path : String}
    (writable : files.view.Writable (Path.parts path)) (content : String) :
    Succeeds (append path content) files
      (IsTreeOf (files.view.put (Path.parts path)
        (.file (files.view.appended (Path.parts path) content)))) := by
  -- Appending is atomic, so only that it does not fail has to be seen.
  have ends : ∃ after, (append path content).run files = (.ok (), after) := by
    rcases writable with ⟨old, known⟩ | ⟨absent, room⟩
    · rcases exists_file_of_view known with ⟨number, found, file⟩
      exact ⟨_, run_append_of_file found file content⟩
    · have read : Path.parts (Path.text (Path.parts path)) = Path.parts path :=
        Path.parts_text fun _ => Path.isName_of_mem_parts
      have same : files.view.Writable (Path.parts (Path.text (Path.parts path))) :=
        read.symm ▸ .inr ⟨absent, room⟩
      rcases tree.succeeds_write same content with ⟨after, ends, _⟩
      exact ⟨after, (run_append_of_absent absent tree content).trans ends⟩
  rcases ends with ⟨after, ends⟩
  exact .of_run ends ((atomic_append tree path content).success ends)

/-! ## Opening files -/

/-- A file that is opened, with what it holds kept or not. -/
structure Opening where
  parts : List String
  keeps : Bool
deriving DecidableEq, Repr

namespace PathMap

/-- What an opened file holds at first. -/
def openedContent (map : PathMap) (opening : Opening) : String :=
  if opening.keeps then map.appended opening.parts "" else ""

/-- The map with a file opened; a file that is missing is made. -/
def openFile (map : PathMap) (opening : Opening) : PathMap :=
  map.put opening.parts (.file (map.openedContent opening))

/-- The map with files opened one after the other. -/
def openAll (map : PathMap) (openings : List Opening) : PathMap :=
  openings.foldl openFile map

/-- What is left of a file that may have been emptied. -/
def kept (map : PathMap) (openings : List Opening) (parts : List String) : String :=
  if ⟨parts, false⟩ ∈ openings then "" else map.appended parts ""

/-- The map in which every opened file holds what is left of it and behind it the text that
it receives. -/
def written (map : PathMap) (openings : List Opening) (received : List String → String) :
    PathMap :=
  fun parts =>
    if parts ∈ openings.map Opening.parts then
      some (.file (map.kept openings parts ++ received parts))
    else map parts

variable {map : PathMap} {openings : List Opening} {received : List String → String}
  {parts : List String}

theorem written_of_mem (opened : parts ∈ openings.map Opening.parts) :
    map.written openings received parts =
      some (.file (map.kept openings parts ++ received parts)) :=
  if_pos opened

theorem written_of_notMem (absent : parts ∉ openings.map Opening.parts) :
    map.written openings received parts = map parts :=
  if_neg absent

theorem kept_of_notMem (absent : parts ∉ openings.map Opening.parts) :
    map.kept openings parts = map.appended parts "" :=
  if_neg fun emptied => absent (List.mem_map.2 ⟨_, emptied, rfl⟩)

/-- Opening files that have received nothing yet does not depend on what came before. -/
theorem appended_written : (map.written openings fun _ => "").appended parts "" =
    map.kept openings parts := by
  by_cases opened : parts ∈ openings.map Opening.parts
  · unfold appended
    rw [written_of_mem opened]
    simp
  · rw [kept_of_notMem opened]
    unfold appended
    rw [written_of_notMem opened]

theorem kept_concat (last : Opening) : map.kept (openings ++ [last]) last.parts =
    if last.keeps then map.kept openings last.parts else "" := by
  obtain ⟨parts, keeps⟩ := last
  cases keeps <;> simp [kept]

theorem kept_concat_of_ne {last : Opening} (apart : parts ≠ last.parts) :
    map.kept (openings ++ [last]) parts = map.kept openings parts := by
  have other : (⟨parts, false⟩ : Opening) ≠ last := fun same => apart (same ▸ rfl)
  simp [kept, other]

/-- A file that one opening empties is empty after all of them; any other opened file is as
it was. -/
theorem openAll_eq_written (map : PathMap) (openings : List Opening) :
    map.openAll openings = map.written openings fun _ => "" := by
  induction openings using List.reverseRecOn with
  | nil => rfl
  | append_singleton openings last inductionHypothesis =>
      unfold openAll at inductionHypothesis ⊢
      rw [List.foldl_concat, inductionHypothesis]
      funext other
      by_cases same : other = last.parts
      · subst same
        unfold openFile openedContent
        rw [put_self, appended_written, written_of_mem (by simp), kept_concat, String.append_empty]
      · unfold openFile
        rw [put_of_ne _ _ same]
        unfold written
        rw [kept_concat_of_ne same]
        simp [same]

/-- Text put behind an opened file is received by it. -/
theorem put_appended_written (opened : parts ∈ openings.map Opening.parts) (text : String) :
    (map.written openings received).put parts
        (.file ((map.written openings received).appended parts text)) =
      map.written openings fun other => received other ++ if other = parts then text else "" := by
  funext other
  by_cases same : other = parts
  · subst same
    rw [put_self, written_of_mem opened, if_pos rfl, ← String.append_assoc]
    unfold appended
    rw [written_of_mem opened]
  · rw [put_of_ne _ _ same]
    unfold written
    simp only [if_neg same, String.append_empty]

theorem openAll_append (map : PathMap) (first rest : List Opening) :
    map.openAll (first ++ rest) = (map.openAll first).openAll rest :=
  List.foldl_append

/-- A path keeps its room while files with room are opened. -/
theorem Writable.openAll (writable : map.Writable parts)
    (targets : ∀ opening ∈ openings, map.Writable opening.parts) :
    (map.openAll openings).Writable parts := by
  induction openings generalizing map with
  | nil => exact writable
  | cons opening rest inductionHypothesis =>
      have room := targets opening List.mem_cons_self
      refine inductionHypothesis (writable.put room _) fun other member => ?_
      exact (targets other (List.mem_cons_of_mem _ member)).put room _

theorem writable_written (opened : parts ∈ openings.map Opening.parts) :
    (map.written openings received).Writable parts :=
  .inl ⟨_, written_of_mem opened⟩

end PathMap

/-- Opens the file at a path. -/
def openPath (path : String) (keeps : Bool) : Action Unit :=
  if keeps then append path "" else write path "" false

theorem IsTree.writable_of_openPath (tree : files.IsTree) {path : String} {keeps : Bool}
    {after : Files} (done : (openPath path keeps).run files = (.ok (), after)) :
    files.view.Writable (Path.parts path) := by
  cases keeps with
  | false => exact tree.writable_of_write done
  | true => exact tree.writable_of_append done

theorem IsTree.succeeds_openPath (tree : files.IsTree) {path : String}
    (writable : files.view.Writable (Path.parts path)) (keeps : Bool) :
    Succeeds (openPath path keeps) files
      (IsTreeOf (files.view.openFile ⟨Path.parts path, keeps⟩)) := by
  cases keeps with
  | false => exact tree.succeeds_write writable ""
  | true => exact tree.succeeds_append writable ""

end VirtualShell.Files
