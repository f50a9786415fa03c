import VirtualShell.Command.Select
import VirtualShell.Proofs.Command.Reading
import VirtualShell.Proofs.Regex.Folding
import VirtualShell.Proofs.Regex.Union

/-!
Contract: what `grep` prints for several expressions.

Owns:
- `findings`, the lines of the inputs that are picked, as `grep` prints them;
- `start_grep`: this is what `grep` answers with once its expressions have been read;
- `grep_prints_union`: for separate expressions that merge as they are these are the lines that one
  of them alone picks.

Does not own: what expressions are separate and merge as they are
(`VirtualShell.Proofs.Regex.Union`).
-/

namespace VirtualShell.Command

open VirtualShell.Fallible VirtualShell.Text VirtualShell.Regex

/-! ## What is printed -/

/-- The lines of the inputs that are picked, each with the name of its input if there are several
operands; the exit code says whether there are any. -/
def findings (context : Context) (files : Files) (operands : List String)
    (picks : String → Bool) : Outcome :=
  let sources := inputs context files operands
  let errors := complaints "grep" context files operands
  let label (source : Source) := if 1 < operands.length then source.label ++ ":" else ""
  ⟨joinLines (sources.flatMap fun source =>
      ((lines source.content).filter picks).map fun line => label source ++ line),
    errors,
    if !errors.isEmpty then 2
    else if sources.any fun source => (lines source.content).any picks then 0 else 1⟩

/-- The flags that `grep` knows. -/
def grepFlags : List Char :=
  ['i', 'v', 'n', 'c', 'q', 'l', 'F', 'E', 'w']

/-- The flags say how expressions are read, and not which lines are printed or what of them. -/
def IsPlain (flags : List Char) : Prop :=
  ∀ flag ∈ flags, flag ∈ ['i', 'F', 'E', 'w']

theorem IsPlain.contains_eq_false {flags : List Char} {flag : Char} (plain : IsPlain flags)
    (other : flag ∉ ['i', 'F', 'E', 'w']) : flags.contains flag = false := by
  rw [Bool.eq_false_iff, Ne, List.contains_iff_mem]
  exact fun member => other (plain flag member)

section

variable {context : Context} {world : World} {arguments expressions others operands : List String}
  {flags : List Char}

theorem map_fst_hits (pattern : Pattern) (content : String) :
    (hits pattern false content).map Prod.fst = (lines content).filter pattern.occursIn := by
  have numbered : ((lines content).zipIdx 1).map Prod.fst = lines content :=
    List.zipIdx_map_fst 1 (lines content)
  rw [← numbered, List.filter_map]
  exact congrArg (List.map Prod.fst) (List.filter_congr fun line _ => Bool.bne_false _)

theorem isEmpty_hits (pattern : Pattern) (content : String) :
    (hits pattern false content).isEmpty = !(lines content).any pattern.occursIn := by
  rw [← List.isEmpty_map (f := Prod.fst), map_fst_hits, Bool.eq_iff_iff]
  simp [List.isEmpty_iff]

theorem grepLines_of_isPlain (plain : IsPlain flags) (showsLabels : Bool) (source : Source)
    (found : List (String × Nat)) :
    grepLines flags showsLabels source found =
      (found.map Prod.fst).map fun line =>
        (if showsLabels then source.label ++ ":" else "") ++ line := by
  have unset (flag : Char) (other : flag ∉ ['i', 'F', 'E', 'w']) := plain.contains_eq_false other
  simp only [grepLines, unset 'q' (by decide), unset 'l' (by decide), unset 'c' (by decide),
    unset 'n' (by decide), Bool.false_eq_true, if_false, List.map_map]
  rfl

theorem start_grep {pattern : Pattern} (allowed : .read ∉ world.storage.refused)
    (given : splitExpressions arguments = (expressions, others)) (present : expressions ≠ [])
    (split : splitFlags grepFlags others = (flags, operands)) (plain : IsPlain flags)
    (read : Pattern.read (flags.contains 'i') (grepExpression flags expressions) = .ok pattern) :
    grep.start context arguments world =
      .finished world (.ok (findings context world.storage.files operands pattern.occursIn)) := by
  obtain ⟨first, behind, rfl⟩ := List.exists_cons_of_ne_nil present
  unfold grepFlags at split
  have noInversion : flags.contains 'v' = false := plain.contains_eq_false (by decide)
  have quiet : flags.contains 'q' = false := plain.contains_eq_false (by decide)
  simp only [grep, ofAction, finish, given, split, List.isEmpty_cons, Bool.false_eq_true, if_false,
    read, run_bind, run_readSources allowed, noInversion, quiet, Bool.false_and, run_pure]
  have rows : (inputs context world.storage.files operands).flatMap (fun source =>
        grepLines flags (1 < operands.length) source (hits pattern false source.content)) =
      (inputs context world.storage.files operands).flatMap fun source =>
        ((lines source.content).filter pattern.occursIn).map fun line =>
          (if 1 < operands.length then source.label ++ ":" else "") ++ line := by
    simp only [grepLines_of_isPlain plain, map_fst_hits, decide_eq_true_eq]
  simp only [List.flatMap_map, List.any_map, rows, Function.comp_def, isEmpty_hits, Bool.not_not]
  rfl

/-! ## Several expressions -/

/-- Among the arguments that are left over no expressions are given. -/
theorem splitExpressions_others (given : splitExpressions arguments = (expressions, others)) :
    splitExpressions others = ([], others) := by
  fun_induction splitExpressions arguments generalizing expressions others with
  | case1 =>
      cases given
      rfl
  | case2 expression behind _ _ read inductionHypothesis =>
      cases given
      exact inductionHypothesis read
  | case3 argument rest notGiven _ remaining read inductionHypothesis =>
      cases given
      have onward := inductionHypothesis read
      -- An argument that gives no expression has nothing behind it or is another one, and both are
      -- so among those that are left over.
      have still : ∀ expression behind, argument = "-e" → remaining = expression :: behind →
          False := by
        rintro expression behind rfl rfl
        cases rest with
        | nil => cases read
        | cons next rest => exact notGiven next rest rfl rfl
      rw [splitExpressions.eq_3 argument remaining still, onward]

/-- What an expression is read as under the flags. -/
def readText (flags : List Char) (expression : String) : String :=
  if flags.contains 'F' then escape expression else expression

theorem grepExpression_eq (flags : List Char) (expressions : List String) :
    grepExpression flags expressions =
      String.intercalate "|"
        ((expressions.map (readText flags)).map (wordText (flags.contains 'w'))) := by
  have fixed : (if flags.contains 'F' then expressions.map escape else expressions) =
      expressions.map (readText flags) := by
    unfold readText
    split
    · rfl
    · exact (List.map_id' expressions).symm
  unfold grepExpression joinWith
  rw [fixed]
  unfold wordText
  split
  · rfl
  · rw [List.map_id']

/-- A line is picked by an expression alone. -/
def picks (flags : List Char) (expression line : String) : Bool :=
  match Pattern.read (flags.contains 'i') (grepExpression flags [expression]) with
  | .ok pattern => pattern.occursIn line
  | .error _ => false

theorem picks_eq {expression : String} {pattern : Pattern}
    (read : Pattern.read (flags.contains 'i') (grepExpression flags [expression]) = .ok pattern) :
    picks flags expression = pattern.occursIn := by
  unfold picks
  rw [read]

/-- What is read for the expressions is read by itself and is separate: escaped texts always are. -/
theorem readText_regular
    (regular : 'F' ∈ flags ∨
      (∀ expression ∈ expressions, ∃ pattern,
        Pattern.read (flags.contains 'i') expression = .ok pattern) ∧
      AreSeparate (flags.contains 'i') (flags.contains 'w') expressions) :
    (∀ text ∈ expressions.map (readText flags), ∃ pattern,
      Pattern.read (flags.contains 'i') text = .ok pattern) ∧
    AreSeparate (flags.contains 'i') (flags.contains 'w') (expressions.map (readText flags)) := by
  by_cases fixed : flags.contains 'F' = true
  · have same : readText flags = escape := funext fun _ => if_pos fixed
    rw [same]
    exact ⟨List.forall_mem_map.2 fun expression _ => (isInert_escape _ expression).1,
      areSeparate_escape _ _ expressions⟩
  · have same : readText flags = id := funext fun _ => if_neg fixed
    rw [same, List.map_id]
    exact regular.resolve_left fun member => fixed (List.contains_iff_mem.2 member)

/-- Separate expressions that merge as they are pick together what one of them picks alone. -/
theorem exists_read_grepExpression (present : expressions ≠ [])
    (regular : 'F' ∈ flags ∨
      (∀ expression ∈ expressions, ∃ pattern,
        Pattern.read (flags.contains 'i') expression = .ok pattern) ∧
      AreSeparate (flags.contains 'i') (flags.contains 'w') expressions)
    (merging : MergeAsIs (flags.contains 'i') (flags.contains 'w')
      (expressions.map (readText flags))) :
    (∀ expression ∈ expressions, ∃ pattern,
      Pattern.read (flags.contains 'i') (grepExpression flags [expression]) = .ok pattern) ∧
    ∃ pattern, Pattern.read (flags.contains 'i') (grepExpression flags expressions) = .ok pattern ∧
      pattern.occursIn = fun line => expressions.any fun expression =>
        picks flags expression line := by
  obtain ⟨compiled, separate⟩ := readText_regular regular
  obtain ⟨patterns, read, pattern, joint, finds⟩ :=
    exists_read_union (by simpa using present) compiled separate merging
  have alone : ∀ expression ∈ expressions,
      Pattern.read (flags.contains 'i') (grepExpression flags [expression]) =
        .ok (patterns (readText flags expression)) := by
    intro expression member
    rw [grepExpression_eq]
    exact read _ (List.mem_map_of_mem member)
  rw [← grepExpression_eq] at joint
  refine ⟨fun expression member => ⟨_, alone expression member⟩, pattern, joint,
    funext fun line => ?_⟩
  rw [finds line, List.any_map, Bool.eq_iff_iff, List.any_eq_true, List.any_eq_true]
  refine exists_congr fun expression => and_congr_right fun member => ?_
  rw [picks_eq (alone expression member)]
  rfl

/-- Whether an expression can be read is computed. -/
theorem exists_read_of_isOk {ignoreCase : Bool} {text : String}
    (sound : (Pattern.read ignoreCase text).isOk = true) :
    ∃ pattern, Pattern.read ignoreCase text = .ok pattern := by
  cases read : Pattern.read ignoreCase text with
  | error defect =>
      rw [read] at sound
      cases sound
  | ok pattern => exact ⟨pattern, rfl⟩

end

end VirtualShell.Command
