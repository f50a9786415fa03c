import VirtualShell.Command.Library
import VirtualShell.Proofs.Command.LongListing
import VirtualShell.Proofs.Command.Numbers
import VirtualShell.Proofs.Files.Enumeration
import VirtualShell.Proofs.Interpreter.Keeping
import VirtualShell.Proofs.Regex.Defects

/-!
Contract: whether a command of the library ends with an outcome.

Owns:
- `Overlooks`, the four cases that a command has made no provision for;
- `IsShallow`, what a command gets if it does not use up the stack of its host;
- `Ends`, that a command ends with an outcome in all other cases and in no other;
- `not_meetsDefect_of_fixed`: `grep` overlooks nothing where it looks for fixed strings;
- `exists_outcome_iff`: every command of the library ends so, apart from those that run a script.

The tree that a command works on is one that can be reached, and nothing is refused. Negations,
parentheses and directories are worked off by recursion, which has no bound here and has one where
the host keeps a stack: `IsShallow` stays well below it.
-/

namespace VirtualShell.Command

open VirtualShell.Fallible VirtualShell.Text

/-- `sort` is told to sort by numbers, and a line that it reads hides its number. -/
def MeetsHiddenNumber (context : Context) (files : Files) (arguments : List String) : Prop :=
  let (flags, operands) := splitFlags ['r', 'n', 'u'] arguments
  'n' ∈ flags ∧
    ∃ source ∈ inputs context files operands, ∃ line ∈ lines source.content, HidesNumber line

/-- `seq` gets integers only, not more of them than it takes, and one has too many digits. -/
def MeetsLongInteger (arguments : List String) : Prop :=
  arguments.length ≤ 3 ∧ (∀ argument ∈ arguments, ∃ count, IsWritten argument count) ∧
    ∃ argument ∈ arguments, ∃ count, IsWritten argument count ∧ maximumDigits < count

/-- The expression that `grep` gets has a defect, but not in its form. -/
def MeetsDefect (arguments : List String) : Prop :=
  let (given, others) := splitExpressions arguments
  let (flags, words) := splitFlags ['i', 'v', 'n', 'c', 'q', 'l', 'F', 'E', 'w'] others
  let expressions := if given.isEmpty then words.take 1 else given
  expressions ≠ [] ∧ ∃ defect, defect ≠ .malformed ∧
    Regex.Pattern.read (flags.contains 'i') (grepExpression flags expressions) = .error defect

/-- The command of this name has made no provision for what it gets. -/
def Overlooks (context : Context) (files : Files) (name : String) (arguments : List String) :
    Prop :=
  name = "sort" ∧ MeetsHiddenNumber context files arguments ∨
    name = "seq" ∧ MeetsLongInteger arguments ∨ name = "grep" ∧ MeetsDefect arguments ∨
    name = "ls" ∧ MeetsHiddenTime context files arguments

/-- What a command gets asks for little of the stack of its host: the leading negations and the
opening parentheses among its arguments are few, and so are the components of its arguments, of the
working directory and of each path of the tree. -/
structure IsShallow (context : Context) (files : Files) (arguments : List String) : Prop where
  negations : (arguments.takeWhile (· == "!")).length ≤ 100
  parentheses : (arguments.flatMap String.toList).count '(' ≤ 100
  components : ∀ path ∈ context.cwd :: arguments ++ files.allPaths, path.toList.count '/' ≤ 100

/-- The names of the commands that can overlook something. -/
def careless : List String :=
  ["sort", "seq", "grep", "ls"]

/-- Where the files can be reached and nothing is refused the command ends, and it ends with an
outcome exactly if it has overlooked nothing. -/
def Ends (command : Command) : Prop :=
  ∀ (context : Context) (arguments : List String) (world : World),
    world.storage.files.Reachable → world.storage.refused = [] →
      ∃ after result, command.start context arguments world = .finished after result ∧
        ((∃ outcome, result = .ok outcome) ↔
          ¬ Overlooks context world.storage.files command.name arguments)

theorem ends_of_completes {name : String} {work : Context → List String → Action Outcome}
    (careful : name ∉ careless)
    (completes : ∀ context arguments world, world.storage.files.Reachable →
      world.storage.refused = [] →
        ∃ kind : World → Prop, kind world ∧ Completes kind (work context arguments)) :
    Ends (ofAction name work) := by
  intro context arguments world reachable granted
  obtain ⟨kind, fits, ends⟩ := completes context arguments world reachable granted
  obtain ⟨outcome, after, ran, -, -⟩ := ends world fits
  refine ⟨after, .ok outcome, ?_, iff_of_true ⟨outcome, rfl⟩ ?_⟩
  · show finish world (work context arguments) = _
    unfold finish
    rw [ran]
  · rintro (⟨rfl, -⟩ | ⟨rfl, -⟩ | ⟨rfl, -⟩ | ⟨rfl, -⟩)
    all_goals exact careful (by decide)

section

variable {world : World}

/-! ## Operations on the storage -/

theorem completes_attempt {α : Type} (action : Storage.Action α) :
    Completes (fun _ => True) (attempt action) :=
  fun world _ => ⟨_, _, run_attempt action world, trivial, trivial⟩

theorem completes_readSources (granted : world.storage.refused = []) (name : String)
    (context : Context) (operands : List String) :
    Completes (· = world) (readSources name context operands) := by
  rintro _ rfl
  exact ⟨_, _, run_readSources (allowed_of_granted granted _) name context operands, rfl, trivial⟩

/-! ## Reading -/

theorem ends_of_reading {name : String} {work : Context → List String → Action Outcome}
    (careful : name ∉ careless)
    (completes : ∀ context arguments world, world.storage.files.Reachable →
      world.storage.refused = [] → Completes (· = world) (work context arguments)) :
    Ends (ofAction name work) :=
  ends_of_completes careful fun context arguments world reachable granted =>
    ⟨(· = world), rfl, completes context arguments world reachable granted⟩

theorem ends_cat : Ends cat := by
  refine ends_of_reading (by decide) fun context arguments world _ granted => ?_
  exact (completes_readSources granted _ _ _).bind fun _ _ => Completes.pure _

theorem ends_linesCommand {name : String} (careful : name ∉ careless)
    (select : Nat → List (List Char) → List (List Char)) : Ends (linesCommand name select) := by
  refine ends_of_reading careful fun context arguments world _ granted => ?_
  split
  · exact Completes.pure _
  · exact (completes_readSources granted _ _ _).bind fun _ _ => Completes.pure _

theorem ends_wc : Ends wc := by
  refine ends_of_reading (by decide) fun context arguments world _ granted => ?_
  exact (completes_readSources granted _ _ _).bind fun _ _ => Completes.pure _

theorem ends_uniq : Ends uniq := by
  refine ends_of_reading (by decide) fun context arguments world _ granted => ?_
  exact (completes_readSources granted _ _ _).bind fun _ _ => Completes.pure _

theorem ends_tr : Ends tr := by
  refine ends_of_reading (by decide) fun context arguments world _ _ => ?_
  dsimp only
  split
  · exact Completes.pure _
  · split
    · exact Completes.pure _
    · split
      · exact Completes.pure _
      · split <;> exact Completes.pure _

theorem ends_printing {name : String} (careful : name ∉ careless)
    (outcome : Context → List String → Outcome) :
    Ends (ofAction name fun context arguments => pure (outcome context arguments)) :=
  ends_of_reading careful fun _ _ _ _ _ => Completes.pure _

theorem ends_env : Ends env :=
  ends_of_reading (by decide) fun _ _ _ _ _ => Succeeds.get.bind fun _ _ => Completes.pure _

theorem ends_printenv : Ends printenv := by
  refine ends_of_reading (by decide) fun context arguments world _ _ => ?_
  refine Succeeds.get.bind fun _ _ => ?_
  dsimp only
  split <;> exact Completes.pure _

/-! ## Conditions -/

theorem completes_testOperand (granted : world.storage.refused = []) (context : Context)
    (operator operand : String) :
    Completes (· = world) (Condition.testOperand context operator operand) := by
  unfold Condition.testOperand
  split
  · exact Completes.pure _
  · split
    · exact Completes.pure _
    · split
      · exact Completes.pure _
      · have asked : (do return (← get).contains (context.resolve operand) : Files.Action Bool).run
            world.storage.files =
            (.ok (world.storage.files.contains (context.resolve operand)), world.storage.files) :=
          rfl
        refine (Succeeds.of_run (run_require_perform (allowed_of_granted granted _) _ asked)).bind
          fun present same => ?_
        split
        · rename_i there
          rw [same, Files.contains_eq, Option.isSome_iff_exists] at there
          obtain ⟨entry, known⟩ := there
          obtain ⟨modified, ran⟩ := Files.run_info_of_present known
          exact (Succeeds.of_run (run_require_perform (allowed_of_granted granted _) _ ran)).bind
            fun _ _ => Completes.pure _
        · exact Completes.pure _

theorem completes_evaluate (granted : world.storage.refused = []) (context : Context)
    (words : List String) :
    Completes (· = world) (Condition.evaluate context words) := by
  induction words with
  | nil => exact Completes.pure _
  | cons word rest inductionHypothesis =>
      unfold Condition.evaluate
      split
      · exact inductionHypothesis.bind fun _ _ => Completes.pure _
      · split
        · exact Completes.pure _
        · exact completes_testOperand granted _ _ _
        · exact Completes.pure _
        · exact Completes.pure _

theorem completes_outcome (granted : world.storage.refused = []) (context : Context)
    (words : List String) :
    Completes (· = world) (Condition.outcome context words) := by
  refine (completes_evaluate granted context words).bind fun result _ => ?_
  split <;> exact Completes.pure _

theorem ends_test : Ends Condition.test :=
  ends_of_reading (by decide) fun _ _ _ _ granted => completes_outcome granted _ _

theorem ends_bracket : Ends Condition.bracket := by
  refine ends_of_reading (by decide) fun context arguments world _ granted => ?_
  split
  · exact completes_outcome granted _ _
  · exact Completes.pure _

/-! ## Changing files -/

theorem ends_mkdir : Ends mkdir := by
  refine ends_of_completes (by decide) fun context arguments world _ _ =>
    ⟨fun _ => True, trivial, ?_⟩
  dsimp only
  split
  · exact Completes.pure _
  · refine (Completes.mapM fun operand _ => ?_).bind fun _ _ => Completes.pure _
    refine (completes_attempt _).bind fun result _ => ?_
    split <;> exact Completes.pure _

theorem ends_touch : Ends touch := by
  refine ends_of_completes (by decide) fun context arguments world _ _ =>
    ⟨fun _ => True, trivial, ?_⟩
  split
  · exact Completes.pure _
  · refine (Completes.mapM fun operand _ => ?_).bind fun _ _ => Completes.pure _
    refine (completes_attempt _).bind fun result _ => ?_
    split <;> exact Completes.pure _

theorem ends_transferAll {name : String} (careful : name ∉ careless)
    (transfer : List String → Transfer) (operands : List String → List String) :
    Ends (ofAction name fun context arguments =>
      transferAll context (transfer arguments) (operands arguments)) := by
  refine ends_of_completes careful fun context arguments world _ _ => ⟨fun _ => True, trivial, ?_⟩
  unfold transferAll
  split
  · split
    · exact Completes.pure _
    · refine (Completes.mapM fun operand _ => ?_).bind fun _ _ => Completes.pure _
      refine (completes_attempt _).bind fun result _ => ?_
      split <;> exact Completes.pure _
  · exact Completes.pure _

/-- What is known of a node can be asked for unless there is none. -/
theorem succeeds_attempt_info (path : String) :
    Succeeds (fun world => world.storage.refused = [])
      (fun result => ∀ error, result = .error error → error.cause = .notFound)
      (attempt (Storage.info path)) := by
  intro world granted
  rcases known : world.storage.files.view (Path.parts path) with _ | entry
  · have ran := run_attempt_perform (allowed_of_granted granted .info) path
      (Files.run_info_of_absent known)
    refine ⟨_, _, ran, granted, ?_⟩
    rintro _ ⟨⟩
    rfl
  · obtain ⟨modified, ran⟩ := Files.run_info_of_present known
    have ran := run_attempt_perform (allowed_of_granted granted .info) path ran
    exact ⟨_, _, ran, granted, nofun⟩

theorem completes_attempt_remove (path : String) (recursive force : Bool) :
    Completes (fun world => world.storage.refused = [])
      (attempt (Storage.remove path recursive force)) := by
  intro world granted
  refine ⟨_, _, run_attempt _ world, ?_, trivial⟩
  exact (Storage.leaves_perform _ _ _ world.storage).trans granted

theorem completes_removeOperand (context : Context) (recursive force : Bool) (operand : String) :
    Completes (fun world => world.storage.refused = [])
      (removeOperand context recursive force operand) := by
  refine (succeeds_attempt_info _).bind fun result missing => ?_
  split
  · exact Completes.pure _
  · -- Here a failure would end the command, but there is none left.
    rename_i error other
    obtain ⟨cause, path⟩ := error
    have notFound : cause = .notFound := missing ⟨cause, path⟩ rfl
    exact (other path (notFound ▸ rfl)).elim
  · split
    · exact Completes.pure _
    · refine (completes_attempt_remove _ _ _).bind fun result _ => ?_
      split <;> exact Completes.pure _

theorem ends_rm : Ends rm := by
  refine ends_of_completes (by decide) fun context arguments world _ granted =>
    ⟨fun world => world.storage.refused = [], granted, ?_⟩
  dsimp only
  split
  · split <;> exact Completes.pure _
  · refine (Completes.mapM fun operand _ => ?_).bind fun _ _ => Completes.pure _
    exact completes_removeOperand context _ _ operand

/-! ## Commands that overlook something -/

theorem ends_of_run {name : String} {work : Context → List String → Action Outcome}
    (ran : ∀ context arguments world, world.storage.refused = [] →
      ∃ result, (work context arguments).run world = (result, world) ∧
        ((∃ outcome, result = .ok outcome) ↔
          ¬ Overlooks context world.storage.files name arguments)) :
    Ends (ofAction name work) := by
  intro context arguments world _ granted
  obtain ⟨result, ran, ends⟩ := ran context arguments world granted
  refine ⟨world, result, ?_, ends⟩
  show finish world (work context arguments) = _
  unfold finish
  rw [ran]

theorem exists_result_of_pure {outcome : Outcome} {overlooked : Prop} (plain : ¬ overlooked) :
    ∃ result, (pure outcome : Action Outcome).run world = (result, world) ∧
      ((∃ outcome, result = .ok outcome) ↔ ¬ overlooked) :=
  ⟨.ok outcome, rfl, iff_of_true ⟨outcome, rfl⟩ plain⟩

theorem exists_result_of_throw {fault : Fault} {overlooked : Prop} (met : overlooked) :
    ∃ result, (throw fault : Action Outcome).run world = (result, world) ∧
      ((∃ outcome, result = .ok outcome) ↔ ¬ overlooked) :=
  ⟨.error fault, rfl, iff_of_false nofun fun plain => plain met⟩

theorem ends_sort : Ends sort := by
  refine ends_of_run fun context arguments world granted => ?_
  have overlooked : Overlooks context world.storage.files "sort" arguments ↔
      MeetsHiddenNumber context world.storage.files arguments := by
    simp [Overlooks]
  rw [overlooked, MeetsHiddenNumber]
  rcases splitFlags ['r', 'n', 'u'] arguments with ⟨flags, operands⟩
  have read := run_readSources (allowed_of_granted granted .read) "sort" context operands
  have sortable : (∃ ordered, numericallySorted (flags.contains 'r')
      ((inputs context world.storage.files operands).flatMap fun source => lines source.content) =
        .ok ordered) ↔
      ¬ ∃ source ∈ inputs context world.storage.files operands,
        ∃ line ∈ lines source.content, HidesNumber line := by
    rw [exists_numericallySorted_iff]
    simp only [List.mem_flatMap]
    grind
  simp only [run_bind, read]
  by_cases numeric : 'n' ∈ flags
  · rw [if_pos (List.contains_iff_mem.2 numeric), and_iff_right numeric, ← sortable]
    rcases numericallySorted _ _ with fault | ordered
    · exact ⟨.error fault, rfl, iff_of_false nofun nofun⟩
    · exact ⟨.ok _, rfl, iff_of_true ⟨_, rfl⟩ ⟨_, rfl⟩⟩
  · rw [if_neg (mt List.contains_iff_mem.1 numeric)]
    exact ⟨.ok _, rfl, iff_of_true ⟨_, rfl⟩ fun meets => numeric meets.1⟩

theorem not_meetsLongInteger_of_mapM {arguments : List String} {numbers : List Int}
    (read : arguments.mapM readInteger = .ok numbers) : ¬ MeetsLongInteger arguments := by
  rintro ⟨-, -, argument, member, count, written, long⟩
  have short := (exists_readInteger_iff_of_isWritten written).1
    (exists_mapM_iff.1 ⟨numbers, read⟩ argument member)
  omega

theorem meetsLongInteger_of_mapM {arguments : List String} {defect : IntegerDefect}
    (few : arguments.length ≤ 3)
    (written : ∀ argument ∈ arguments, ∃ count, IsWritten argument count)
    (failed : arguments.mapM readInteger = .error defect) : MeetsLongInteger arguments := by
  obtain ⟨argument, member, fails⟩ := exists_of_mapM_error failed
  obtain ⟨count, spelled⟩ := written argument member
  refine ⟨few, written, argument, member, count, spelled, ?_⟩
  rw [← Nat.not_le, ← exists_readInteger_iff_of_isWritten spelled, fails]
  nofun

theorem ends_seq : Ends seq := by
  refine ends_of_run fun context arguments world _ => ?_
  have overlooked : Overlooks context world.storage.files "seq" arguments ↔
      MeetsLongInteger arguments := by
    simp [Overlooks]
  rw [overlooked]
  split
  · rename_i none
    refine exists_result_of_pure ?_
    rintro ⟨-, -, argument, member, -⟩
    rw [List.isEmpty_iff.1 none] at member
    cases member
  · split
    · rename_i many
      exact exists_result_of_pure fun meets => Nat.not_lt.2 meets.1 many
    · rename_i few
      split
      · rename_i defect failed
        split
        · -- All of the arguments look like integers, so the one that failed is too long.
          rename_i unlike
          have written : ∀ argument ∈ arguments, ∃ count, IsWritten argument count :=
            fun argument member => looksLikeInteger_iff.1 (by
              simpa using List.find?_eq_none.1 unlike argument member)
          exact exists_result_of_throw
            (meetsLongInteger_of_mapM (Nat.not_lt.1 few) written failed)
        · rename_i argument first
          refine exists_result_of_pure fun meets => ?_
          have written := meets.2.1 argument (List.mem_of_find?_eq_some first)
          have unlike := List.find?_some first
          rw [looksLikeInteger_iff.2 written] at unlike
          cases unlike
      · rename_i numbers read
        have plain := not_meetsLongInteger_of_mapM read
        split
        split <;> exact exists_result_of_pure plain

theorem ends_grep : Ends grep := by
  refine ends_of_run fun context arguments world granted => ?_
  have overlooked : Overlooks context world.storage.files "grep" arguments ↔
      MeetsDefect arguments := by
    simp [Overlooks]
  rw [overlooked, MeetsDefect]
  rcases splitExpressions arguments with ⟨given, others⟩
  dsimp only
  rcases splitFlags ['i', 'v', 'n', 'c', 'q', 'l', 'F', 'E', 'w'] others with ⟨flags, words⟩
  dsimp only
  split
  · refine exists_result_of_pure ?_
    rintro ⟨present, -⟩
    exact present rfl
  · rename_i present
    have chosen : (if given.isEmpty then words.take 1 else given) ≠ [] := by
      split
      · rename_i empty
        exact mt List.take_eq_nil_iff.1 (by simpa using present (List.isEmpty_iff.1 empty))
      · rename_i filled
        exact mt List.isEmpty_iff.2 filled
    rw [and_iff_right chosen]
    generalize (if given.isEmpty then words.take 1 else given) = expressions
    generalize (if given.isEmpty then words.drop 1 else words) = operands
    split
    · rename_i malformed
      refine exists_result_of_pure ?_
      rintro ⟨defect, formed, read⟩
      rw [malformed] at read
      exact formed (Except.error.inj read).symm
    · rename_i defect formed read
      exact exists_result_of_throw ⟨defect, formed, read⟩
    · rename_i pattern compiled
      rw [run_bind, run_readSources (allowed_of_granted granted .read)]
      dsimp only
      rw [compiled]
      split <;> exact exists_result_of_pure nofun

theorem ends_ls : Ends ls := by
  intro context arguments world reachable granted
  have overlooked : Overlooks context world.storage.files "ls" arguments ↔
      MeetsHiddenTime context world.storage.files arguments := by
    simp [Overlooks]
  obtain ⟨result, ran, ends⟩ := @exists_result_ls context world reachable granted arguments
  exact ⟨world, result, ran, ends.trans (not_congr overlooked).symm⟩

/-- Fixed strings make an expression that counts no repetitions and sets no flags. -/
theorem isGuarded_grepExpression {flags : List Char} (fixed : 'F' ∈ flags)
    (expressions : List String) : Regex.IsGuarded (grepExpression flags expressions).toList := by
  have escaped (expression : String) : Regex.IsGuarded (Regex.escape expression).toList := by
    rw [Regex.escape, String.toList_ofList]
    exact Regex.isGuarded_escapeChars expression.toList
  unfold grepExpression
  rw [if_pos (List.contains_iff_mem.2 fixed)]
  refine Regex.isGuarded_intercalate fun text member => ?_
  split at member
  · obtain ⟨inner, innerMember, rfl⟩ := List.mem_map.1 member
    obtain ⟨expression, -, rfl⟩ := List.mem_map.1 innerMember
    have closing : Regex.IsGuarded [')'] :=
      Regex.isGuarded_plain (by decide) (by decide) (by decide)
    have boundary := Regex.isGuarded_escaped 'b'
    have whole := (((boundary.append Regex.isGuarded_grouping).append (escaped expression)).append
      closing).append boundary
    simpa using whole
  · obtain ⟨expression, -, rfl⟩ := List.mem_map.1 member
    exact escaped expression

/-- Nothing is overlooked where `grep` looks for fixed strings. -/
theorem not_meetsDefect_of_fixed {arguments : List String}
    (fixed : 'F' ∈ (splitFlags ['i', 'v', 'n', 'c', 'q', 'l', 'F', 'E', 'w']
      (splitExpressions arguments).2).1) : ¬ MeetsDefect arguments := by
  rintro ⟨-, defect, formed, read⟩
  exact formed (Regex.malformed_of_read (isGuarded_grepExpression fixed _).isTemperate read)

end

/-! ## The library -/

theorem ends_of_mem_library {command : Command} (member : command ∈ library)
    (unscripted : command.name ≠ "source" ∧ command.name ≠ ".") : Ends command := by
  have all : ∀ command ∈ library, command.name ≠ "source" ∧ command.name ≠ "." → Ends command := by
    unfold library
    simp only [List.forall_mem_cons]
    exact ⟨fun _ => ends_printing (by decide) _, fun _ => ends_cat,
      fun _ => ends_linesCommand (by decide) _, fun _ => ends_linesCommand (by decide) _,
      fun _ => ends_wc, fun _ => ends_grep, fun _ => ends_sort, fun _ => ends_uniq,
      fun _ => ends_tr, fun _ => ends_seq, fun _ => ends_ls, fun _ => ends_mkdir,
      fun _ => ends_touch, fun _ => ends_rm, fun _ => ends_transferAll (by decide) _ _,
      fun _ => ends_transferAll (by decide) _ _, fun _ => ends_printing (by decide) _,
      fun _ => ends_printing (by decide) _, fun _ => ends_printing (by decide) _,
      fun _ => ends_printing (by decide) _, fun _ => ends_test, fun _ => ends_bracket,
      fun _ => ends_env, fun _ => ends_printenv, fun other => absurd rfl other.1,
      fun other => absurd rfl other.2, List.forall_mem_nil _⟩
  exact all command member unscripted

theorem meetsLongInteger_of_ones :
    MeetsLongInteger [String.ofList (List.replicate (maximumDigits + 1) '1')] := by
  have written : IsWritten (String.ofList (List.replicate (maximumDigits + 1) '1'))
      (maximumDigits + 1) := by
    refine ⟨false, List.replicate (maximumDigits + 1) '1', String.toList_ofList, ?_,
      List.length_replicate, Nat.succ_pos _⟩
    intro c member
    rw [List.eq_of_mem_replicate member]
    decide
  exact ⟨by decide, List.forall_mem_singleton.2 ⟨_, written⟩, _, List.mem_singleton_self _, _,
    written, Nat.lt_succ_self _⟩

end VirtualShell.Command
