import VirtualShell.Command.Tree
import VirtualShell.Proofs.Command.Reading
import VirtualShell.Proofs.Files.Paths
import VirtualShell.Proofs.Path.Resolution

/-!
Contract: when `ls` ends with an outcome.

Owns:
- `IsListed`, the paths for which a row is printed, and `HidesTime`, that what is there was changed
  at a time that the calendar does not show;
- `exists_result_ls`: where the files can be reached and nothing is refused, `ls` changes nothing
  and ends with an outcome unless it is to show such a time.

Everything that is listed is there, so that nothing else can fail.
-/

namespace VirtualShell.Command

open VirtualShell.Fallible VirtualShell.Text

/-- What is at the path was changed at a time that cannot be shown. -/
def HidesTime (files : Files) (path : String) : Prop :=
  ∃ node, files.find? (Path.parts path) = some node ∧
    ∃ defect, Moment.atTime node.modified = .error defect

/-- A row is printed for the entry: of a directory its entries have one, with `all` the hidden ones
and the directory itself as well, and a file has its own. -/
def IsListed (files : Files) (all : Bool) (path entry : String) : Prop :=
  if files.view (Path.parts path) = some .directory then
    all = true ∧ entry = path ∨
      ∃ name, files.view (Path.parts path ++ [name]) ≠ none ∧
        (all = true ∨ startsWith name "." = false) ∧ entry = Path.resolve path name
  else entry = path

/-- In the long format the time of every entry that is listed can be shown. -/
def ShowsAll (files : Files) (all long : Bool) (path : String) : Prop :=
  long = true → ∀ entry, IsListed files all path entry → ¬ HidesTime files entry

/-- `ls` is to show the time of an entry, and it cannot be shown. -/
def MeetsHiddenTime (context : Context) (files : Files) (arguments : List String) : Prop :=
  let (flags, given) := splitFlags ['a', 'l', '1'] arguments
  let operands := if given.isEmpty then ["."] else given
  'l' ∈ flags ∧ ∃ operand ∈ operands, ∃ entry,
    IsListed files (flags.contains 'a') (context.resolve operand) entry ∧ HidesTime files entry

section

variable {context : Context} {world : World} {path : String} {all long : Bool}

theorem reports_longLine (name : String) (info : Files.Info) :
    Reports world (∃ moment, Moment.atTime info.modified = .ok moment) (fun _ => True)
      (longLine name info) := by
  unfold longLine
  cases Moment.atTime info.modified with
  | error defect => exact (Reports.throw _).congr (iff_of_false id nofun)
  | ok moment => exact (Reports.pure trivial).congr (iff_of_true trivial ⟨moment, rfl⟩)

theorem not_hidesTime_iff {files : Files} {node : Node}
    (found : files.find? (Path.parts path) = some node) :
    ¬ HidesTime files path ↔ ∃ moment, Moment.atTime node.modified = .ok moment := by
  unfold HidesTime
  cases shown : Moment.atTime node.modified with
  | error defect => exact iff_of_false (not_not_intro ⟨node, found, defect, shown⟩) nofun
  | ok moment =>
      refine iff_of_true ?_ ⟨moment, rfl⟩
      rintro ⟨_, same, defect, hidden⟩
      cases found.symm.trans same
      exact nomatch shown.symm.trans hidden

/-- Where the times of all nodes can be shown none is hidden. -/
theorem not_hidesTime_of_nodes {files : Files}
    (shown : ∀ entry ∈ files.nodes.entries, ∃ moment, Moment.atTime entry.2.modified = .ok moment)
    (path : String) : ¬ HidesTime files path := by
  rintro ⟨node, found, hidden⟩
  unfold Files.find? at found
  obtain ⟨number, -, stored⟩ := Option.bind_eq_some_iff.1 found
  refine (not_hidesTime_iff found).2 (shown (number, node) ?_) ⟨node, found, hidden⟩
  exact Table.mem_entries_iff.2 stored

/-- The row of what is at a path. -/
theorem reports_row (granted : world.storage.refused = []) (name : String)
    (present : (world.storage.files.view (Path.parts path)).isSome) :
    Reports world (¬ HidesTime world.storage.files path) (fun _ => True)
      (do longLine name (← require (Storage.info path))) := by
  rw [Files.view_eq_map_find?, Option.isSome_map, Option.isSome_iff_exists] at present
  obtain ⟨node, found⟩ := present
  have asked := run_require_perform (allowed_of_granted granted .info) path
    (Files.run_info_of_find? found)
  refine ((Reports.of_run asked).bind fun info same => ?_).congr (and_iff_right trivial)
  rw [same, not_hidesTime_iff found]
  exact reports_longLine name node.info

/-! ## Directories -/

/-- The path whose row is printed for a name in a directory. -/
def rowPath (path name : String) : String :=
  if name = "." ∨ name = ".." then path else Path.resolve path name

/-- The rows of a directory are those of what is listed of it. -/
theorem rowPath_listed {files : Files} (tree : files.IsTree) {names : List String}
    (directory : files.view (Path.parts path) = some .directory)
    (entries : ∀ name, name ∈ names ↔ files.view (Path.parts path ++ [name]) ≠ none)
    (entry : String) :
    (∃ name ∈ shownNames all names, rowPath path name = entry) ↔
      IsListed files all path entry := by
  have valid {name : String} (member : name ∈ names) : Path.IsName name :=
    tree.isName_of_numberAt? (tree.view_isSome_iff.1
      (Option.isSome_iff_ne_none.2 ((entries name).1 member))) name (by simp)
  have resolved {name : String} (member : name ∈ names) :
      rowPath path name = Path.resolve path name :=
    if_neg (not_or.2 ⟨(valid member).notHere, (valid member).notUp⟩)
  unfold IsListed shownNames
  rw [if_pos directory]
  cases all with
  | true =>
      rw [if_pos rfl, List.exists_mem_cons_iff, List.exists_mem_cons_iff]
      simp only [true_and, true_or]
      constructor
      · rintro (rfl | rfl | ⟨name, member, rfl⟩)
        · exact .inl rfl
        · exact .inl rfl
        · exact .inr ⟨name, (entries name).1 member, resolved member⟩
      · rintro (rfl | ⟨name, there, rfl⟩)
        · exact .inl rfl
        · have member := (entries name).2 there
          exact .inr (.inr ⟨name, member, resolved member⟩)
  | false =>
      rw [if_neg nofun]
      simp only [List.mem_filter, Bool.not_eq_true', reduceCtorEq, false_and, false_or, and_assoc]
      refine exists_congr fun name => ?_
      rw [← entries name]
      refine and_congr_right fun member => and_congr_right fun _ => ?_
      rw [resolved member, eq_comm]

theorem isSome_view_rowPath {files : Files} (tree : files.IsTree) {names : List String}
    (directory : files.view (Path.parts path) = some .directory)
    (entries : ∀ name, name ∈ names ↔ files.view (Path.parts path ++ [name]) ≠ none)
    {name : String} (member : name ∈ shownNames all names) :
    (files.view (Path.parts (rowPath path name))).isSome := by
  unfold rowPath
  split
  · rw [directory]
    rfl
  · -- The name is an entry, since the two others were dealt with, so there is a node.
    rename_i other
    have listed : name ∈ names := by
      unfold shownNames at member
      split at member
      · simpa [not_or.1 other] using member
      · exact (List.mem_filter.1 member).1
    have there := Option.isSome_iff_ne_none.2 ((entries name).1 listed)
    have valid : Path.IsName name :=
      tree.isName_of_numberAt? (tree.view_isSome_iff.1 there) name (by simp)
    rwa [Path.parts_resolve_name valid]

theorem reports_directoryRows (reachable : world.storage.files.Reachable)
    (granted : world.storage.refused = [])
    (directory : world.storage.files.view (Path.parts path) = some .directory) :
    Reports world (ShowsAll world.storage.files all long path) (fun _ => True)
      (directoryRows path all long) := by
  have tree := reachable.isTree
  obtain ⟨names, ran, -, entries⟩ := tree.run_list_of_directory directory
  have listed := run_require_perform (allowed_of_granted granted .list) path ran
  refine ((Reports.of_run listed).bind fun found same => ?_).congr (and_iff_right trivial)
  subst same
  cases long with
  | false => exact (Reports.pure trivial).congr (iff_of_true trivial fun long => nomatch long)
  | true =>
      have rows : Reports world
          (∀ name ∈ shownNames all found, ¬ HidesTime world.storage.files (rowPath path name))
          (fun values => values.map (fun _ => ()) = (shownNames all found).map fun _ => ())
          ((shownNames all found).mapM fun name => do
            longLine name (← require (Storage.info (rowPath path name)))) :=
        Reports.mapM fun name member => by
          obtain ⟨result, ran, ends, -⟩ :=
            reports_row granted name (isSome_view_rowPath tree directory entries member)
          exact ⟨result, ran, ends, fun _ _ => rfl⟩
      obtain ⟨result, ran, ends, -⟩ := rows
      refine ⟨result, ran, ends.trans ?_, fun _ _ => trivial⟩
      constructor
      · intro each _ entry listedEntry
        obtain ⟨name, member, rfl⟩ := (rowPath_listed tree directory entries entry).2 listedEntry
        exact each name member
      · intro each name member
        exact each rfl _ ((rowPath_listed tree directory entries _).1 ⟨name, member, rfl⟩)

/-! ## Operands -/

/-- The operand if it is that of a directory. -/
def directoryOperand? (context : Context) (files : Files) (operand : String) : Option String :=
  if entry? context files operand = some .directory then some operand else none

theorem mem_directoryOperands {files : Files} {operand : String} {operands : List String} :
    operand ∈ operands.filterMap (directoryOperand? context files) ↔
      operand ∈ operands ∧ entry? context files operand = some .directory := by
  simp only [List.mem_filterMap, directoryOperand?, Option.ite_none_right_eq_some, Option.some_inj]
  constructor
  · rintro ⟨given, member, directory, rfl⟩
    exact ⟨member, directory⟩
  · exact fun ⟨member, directory⟩ => ⟨operand, member, directory, rfl⟩

/-- Of what is no directory there is one row at most. -/
theorem showsAll_iff_of_ne_directory {files : Files}
    (other : files.view (Path.parts path) ≠ some .directory) :
    ShowsAll files all long path ↔ (long = true → ¬ HidesTime files path) := by
  have own (entry : String) : IsListed files all path entry ↔ entry = path :=
    iff_of_eq (if_neg other)
  unfold ShowsAll
  simp only [own, forall_eq]

theorem reports_classify (granted : world.storage.refused = []) (operand : String) :
    Reports world
      ( entry? context world.storage.files operand ≠ some .directory →
        ShowsAll world.storage.files all long (context.resolve operand))
      (fun listed => listed.directory? = directoryOperand? context world.storage.files operand)
      (classify context long operand) := by
  unfold directoryOperand? entry?
  rw [forall_congr' showsAll_iff_of_ne_directory]
  have view := @Files.view_eq_map_find? world.storage.files (Path.parts (context.resolve operand))
  have allowed := allowed_of_granted granted .info
  rcases found : world.storage.files.find? (Path.parts (context.resolve operand)) with _ | node
  · rw [found] at view
    have asked := run_attempt_perform allowed (context.resolve operand)
      (Files.run_info_of_absent view)
    have missing : ¬ HidesTime world.storage.files (context.resolve operand) := by
      rintro ⟨node, there, -⟩
      cases found.symm.trans there
    refine ((Reports.of_run asked).bind fun result same => ?_).congr
      ((and_iff_right trivial).trans (iff_of_true trivial fun _ _ => missing))
    subst same
    exact .pure (by rw [view]; rfl)
  · rw [found] at view
    have asked := run_attempt_perform allowed (context.resolve operand)
      (Files.run_info_of_find? found)
    refine ((Reports.of_run asked).bind fun result same => ?_).congr (and_iff_right trivial)
    subst same
    rw [not_hidesTime_iff found, view]
    have listed (value : Listed) : Reports world True
        (fun listed => listed.directory? = value.directory?) (pure value : Action Listed) :=
      .pure rfl
    cases node with
    | directory modified children =>
        exact (listed (.directory operand)).congr
          (iff_of_true trivial fun other => absurd rfl other)
    | file modified content =>
        cases long with
        | false => exact (listed (.file operand)).congr (iff_of_true trivial fun _ => nofun)
        | true =>
            refine ((reports_longLine operand (Node.file modified content).info).bind
              fun row _ => listed (.file row)).congr ((and_iff_left trivial).trans ?_)
            exact ⟨fun shown _ _ => shown, fun each => each nofun rfl⟩

/-- The blocks of some operands that are directories. -/
theorem reports_blocks (reachable : world.storage.files.Reachable)
    (granted : world.storage.refused = []) {operands : List String}
    (directories : ∀ operand ∈ operands, entry? context world.storage.files operand =
      some .directory) (header : String → String) :
    Reports world
      (∀ operand ∈ operands, ShowsAll world.storage.files all long (context.resolve operand))
      (fun _ => True)
      (operands.mapM fun operand => do
        let rows ← directoryRows (context.resolve operand) all long
        return header operand ++ joinLines rows) := by
  have blocks := Reports.mapM fun operand (member : operand ∈ operands) =>
    ((@reports_directoryRows world _ all long reachable granted (directories operand member)).bind
      fun rows _ => @Reports.pure Fault World String world (fun _ => () = ())
        (header operand ++ joinLines rows) rfl)
  obtain ⟨result, ran, ends, -⟩ := blocks
  exact ⟨result, ran, ends.trans (by simp only [and_true]), fun _ _ => trivial⟩

/-- A command that comes back to the world has changed nothing. -/
theorem exists_result_of_reports {name : String} {work : Context → List String → Action Outcome}
    {arguments : List String} {met : Prop}
    (reports : Reports world met (fun _ => True) (work context arguments)) :
    ∃ result, (ofAction name work).start context arguments world = .finished world result ∧
      ((∃ outcome, result = .ok outcome) ↔ met) := by
  obtain ⟨result, ran, ends, -⟩ := reports
  refine ⟨result, ?_, ends⟩
  show finish world (work context arguments) = _
  unfold finish
  rw [ran]

theorem not_meetsHiddenTime_iff {files : Files} {flags : List Char} {operands : List String} :
    (∀ operand ∈ operands,
        ShowsAll files (flags.contains 'a') (flags.contains 'l') (context.resolve operand)) ↔
      ¬ ('l' ∈ flags ∧ ∃ operand ∈ operands, ∃ entry,
        IsListed files (flags.contains 'a') (context.resolve operand) entry ∧
          HidesTime files entry) := by
  simp only [ShowsAll, List.contains_iff_mem, not_and, not_exists]
  exact ⟨fun shows long operand member => shows operand member long,
    fun shows operand member long => shows long operand member⟩

/-- `ls` changes nothing, and it ends with an outcome unless it is to show a time that cannot be
shown. -/
theorem exists_result_ls (reachable : world.storage.files.Reachable)
    (granted : world.storage.refused = []) (arguments : List String) :
    ∃ result, ls.start context arguments world = .finished world result ∧
      ((∃ outcome, result = .ok outcome) ↔
        ¬ MeetsHiddenTime context world.storage.files arguments) := by
  refine exists_result_of_reports ?_
  unfold MeetsHiddenTime
  rcases splitFlags ['a', 'l', '1'] arguments with ⟨flags, given⟩
  dsimp only
  generalize (if given.isEmpty then ["."] else given) = operands
  have listed := Reports.mapM fun operand (_ : operand ∈ operands) =>
    @reports_classify context world (flags.contains 'a') (flags.contains 'l') granted operand
  refine (@Reports.bind Fault World _ Outcome world _
    (∀ operand ∈ operands.filterMap (directoryOperand? context world.storage.files),
      ShowsAll world.storage.files (flags.contains 'a') (flags.contains 'l')
        (context.resolve operand)) _ _ _ _ listed fun values same => ?_).congr ?_
  · have chosen : values.filterMap Listed.directory? =
        operands.filterMap (directoryOperand? context world.storage.files) := by
      have split := congrArg (List.filterMap id) same
      rwa [List.filterMap_map, List.filterMap_map, Function.id_comp, Function.id_comp] at split
    rw [chosen]
    have directories : ∀ operand ∈
        operands.filterMap (directoryOperand? context world.storage.files),
        entry? context world.storage.files operand = some .directory :=
      fun operand member => (mem_directoryOperands.1 member).2
    have blocks := @reports_blocks context world (flags.contains 'a') (flags.contains 'l') reachable
      granted _ directories fun operand => if 1 < operands.length then operand ++ ":\n" else ""
    exact (blocks.bind fun blocks _ => Reports.pure trivial).congr (and_iff_left trivial)
  · -- Files are looked at when the operands are, directories afterwards.
    rw [← not_meetsHiddenTime_iff]
    constructor
    · rintro ⟨files, directories⟩ operand member
      by_cases directory : entry? context world.storage.files operand = some .directory
      · exact directories operand (mem_directoryOperands.2 ⟨member, directory⟩)
      · exact files operand member directory
    · exact fun shows => ⟨fun operand member _ => shows operand member,
        fun operand member => shows operand (mem_directoryOperands.1 member).1⟩

end

end VirtualShell.Command
