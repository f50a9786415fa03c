import Mathlib.Algebra.GroupWithZero.Nat
import VirtualShell.Command.Arrange
import VirtualShell.Proofs.Command.Reading
import VirtualShell.Proofs.Text.Lines
import VirtualShell.Proofs.Text.Order

/-!
Contract: the two ways to leave out repeated lines agree where the lines are in order.

Owns:
- `MayPrecede` and `Precedes`, the order of lines and its strict part, forwards and in reverse;
- `runsOf_of_ordered`: in lines in order the runs of equal neighbours are the different lines, and
  the length of a run is how often the line occurs;
- `sort_and_uniq_agree`: what `uniq` makes of the output of `sort` is the output of `sort -u`.

Does not own: sorting by numbers.
-/

namespace VirtualShell.Command

open VirtualShell.Fallible VirtualShell.Text

/-! ## Lines in order -/

/-- One line may come before another or be the same. -/
def MayPrecede (reversed : Bool) (left right : String) : Prop :=
  if reversed then right ≤ left else left ≤ right

/-- One line comes before another. -/
def Precedes (reversed : Bool) (left right : String) : Prop :=
  if reversed then right < left else left < right

section

variable {reversed : Bool} {left right line : String} {lines rest : List String}

theorem MayPrecede.antisymm (before : MayPrecede reversed left right)
    (after : MayPrecede reversed right left) : left = right := by
  cases reversed with
  | false => exact String.le_antisymm before after
  | true => exact String.le_antisymm after before

theorem MayPrecede.precedes (before : MayPrecede reversed left right) (different : left ≠ right) :
    Precedes reversed left right := by
  have notAfter : ¬ MayPrecede reversed right left := fun after =>
    different (before.antisymm after)
  cases reversed with
  | false => exact String.not_le.1 notAfter
  | true => exact String.not_le.1 notAfter

theorem perm_sortedLines (reversed : Bool) (lines : List String) :
    (sortedLines reversed lines).Perm lines :=
  List.mergeSort_perm lines _

theorem pairwise_sortedLines (reversed : Bool) (lines : List String) :
    (sortedLines reversed lines).Pairwise (MayPrecede reversed) := by
  have compares (left right : String) :
      (if reversed then notAfter right left else notAfter left right) = true ↔
        MayPrecede reversed left right := by
    cases reversed <;> exact notAfter_iff
  refine (List.pairwise_mergeSort ?_ ?_ lines).imp fun ordered => (compares _ _).1 ordered
  · intro first second third before after
    rw [compares] at before after ⊢
    cases reversed with
    | false => exact String.le_trans before after
    | true => exact String.le_trans after before
  · intro left right
    rw [Bool.or_eq_true, compares, compares]
    cases reversed with
    | false => exact String.le_total left right
    | true => exact String.le_total right left

/-! ## Repeated lines -/

/-- In lines in order a line is repeated right behind itself or nowhere. -/
theorem head?_or_notMem (ordered : (line :: rest).Pairwise (MayPrecede reversed)) :
    rest.head? = some line ∨ line ∉ rest := by
  cases rest with
  | nil => exact .inr List.not_mem_nil
  | cons next others =>
      by_cases same : next = line
      · exact .inl (congrArg some same)
      · obtain ⟨before, behind⟩ := List.pairwise_cons.1 ordered
        obtain ⟨after, -⟩ := List.pairwise_cons.1 behind
        refine .inr fun member => ?_
        rcases List.mem_cons.1 member with here | further
        · exact same here.symm
        · exact same ((after line further).antisymm (before next List.mem_cons_self))

theorem eraseDups_cons_self (line : String) (rest : List String) :
    (line :: line :: rest).eraseDups = (line :: rest).eraseDups := by
  simp [List.eraseDups_cons]

theorem eraseDups_cons_of_notMem (single : line ∉ rest) :
    (line :: rest).eraseDups = line :: rest.eraseDups := by
  have kept : rest.filter (fun other => !other == line) = rest := by
    refine List.filter_eq_self.2 fun other member => ?_
    rw [Bool.not_eq_true', beq_eq_false_iff_ne]
    rintro rfl
    exact single member
  rw [List.eraseDups_cons, kept]

/-- Of lines in order the different ones are in strict order. -/
theorem pairwise_eraseDups (ordered : lines.Pairwise (MayPrecede reversed)) :
    lines.eraseDups.Pairwise (Precedes reversed) := by
  induction lines with
  | nil => exact .nil
  | cons line rest inductionHypothesis =>
      obtain ⟨before, behind⟩ := List.pairwise_cons.1 ordered
      rcases head?_or_notMem ordered with repeated | single
      · obtain ⟨others, rfl⟩ := List.head?_eq_some_iff.1 repeated
        rw [eraseDups_cons_self]
        exact inductionHypothesis behind
      · rw [eraseDups_cons_of_notMem single]
        refine .cons (fun other member => ?_) (inductionHypothesis behind)
        have occurs := List.mem_eraseDups.1 member
        exact (before other occurs).precedes fun same => single (same ▸ occurs)

/-- In lines in order each run of equal neighbours is a line with the number of its occurrences. -/
theorem runsOf_of_ordered (ordered : lines.Pairwise (MayPrecede reversed)) :
    runsOf lines = lines.eraseDups.map fun line => (line, lines.count line) := by
  induction lines with
  | nil => rfl
  | cons line rest inductionHypothesis =>
      obtain ⟨-, behind⟩ := List.pairwise_cons.1 ordered
      have runs : runsOf (line :: rest) = pushRun line (runsOf rest) := rfl
      rw [runs, inductionHypothesis behind]
      rcases head?_or_notMem ordered with repeated | single
      · obtain ⟨others, rfl⟩ := List.head?_eq_some_iff.1 repeated
        have further : (others.filter fun other => !other == line).eraseDups.map
              (fun other => (other, (line :: others).count other)) =
            (others.filter fun other => !other == line).eraseDups.map
              fun other => (other, (line :: line :: others).count other) := by
          refine List.map_congr_left fun other member => ?_
          have different : line ≠ other := by
            rintro rfl
            simpa using List.mem_eraseDups.1 member
          simp only [List.count_cons_of_ne different]
        rw [eraseDups_cons_self, List.eraseDups_cons, List.map_cons, List.map_cons, pushRun,
          if_pos rfl, further, List.count_cons_self (l := line :: others)]
      · have runsBehind : rest.eraseDups.map (fun other => (other, (line :: rest).count other)) =
            rest.eraseDups.map fun other => (other, rest.count other) := by
          refine List.map_congr_left fun other member => ?_
          have different : other ≠ line := by
            rintro rfl
            exact single (List.mem_eraseDups.1 member)
          rw [List.count_cons_of_ne different.symm]
        rw [eraseDups_cons_of_notMem single, List.map_cons, runsBehind, List.count_cons_self,
          List.count_eq_zero_of_not_mem single]
        cases known : rest.eraseDups with
        | nil => rfl
        | cons next others =>
            have different : line ≠ next := by
              rintro rfl
              refine single (List.mem_eraseDups.1 ?_)
              rw [known]
              exact List.mem_cons_self
            rw [List.map_cons, pushRun, if_neg different]

theorem sum_pushRun (line : String) (runs : List (String × Nat)) :
    ((pushRun line runs).map Prod.snd).sum = (runs.map Prod.snd).sum + 1 := by
  unfold pushRun
  split
  · split <;> simp only [List.map_cons, List.sum_cons] <;> omega
  · rfl

/-- The lengths of the runs count every line once. -/
theorem sum_runsOf (lines : List String) : ((runsOf lines).map Prod.snd).sum = lines.length := by
  induction lines with
  | nil => rfl
  | cons line rest inductionHypothesis =>
      have pushed := sum_pushRun line (runsOf rest)
      rw [inductionHypothesis] at pushed
      exact pushed

end

/-! ## The commands -/

/-- The lines of the inputs that operands name, one input after the other. -/
def inputLines (context : Context) (files : Files) (operands : List String) : List String :=
  (inputs context files operands).flatMap fun source => lines source.content

theorem isLine_of_mem_inputLines {context : Context} {files : Files} {operands : List String}
    {line : String} (member : line ∈ inputLines context files operands) : IsLine line := by
  obtain ⟨source, -, inside⟩ := List.mem_flatMap.1 member
  exact isLine_of_mem_lines inside

/-- The arguments ask for lines by their texts, in reverse order or not, with or without those that
are repeated. -/
def AsksToSort (arguments : List String) (reversed distinct : Bool) (operands : List String) :
    Prop :=
  ∃ flags, splitFlags ['r', 'n', 'u'] arguments = (flags, operands) ∧
    flags.contains 'n' = false ∧ flags.contains 'r' = reversed ∧ flags.contains 'u' = distinct

theorem start_sort {context : Context} {world : World} {arguments operands : List String}
    {reversed distinct : Bool} (allowed : .read ∉ world.storage.refused)
    (asked : AsksToSort arguments reversed distinct operands) :
    sort.start context arguments world =
      let ordered := sortedLines reversed (inputLines context world.storage.files operands)
      .finished world (.ok (filtered (joinLines (if distinct then ordered.eraseDups else ordered))
        (complaints "sort" context world.storage.files operands))) := by
  obtain ⟨flags, split, textual, rfl, rfl⟩ := asked
  simp only [sort, ofAction, finish, split, run_bind, run_readSources allowed, textual,
    Bool.false_eq_true, if_false, run_pure]
  rfl

/-- A run as `uniq` prints it, with its length in front if it is asked to. -/
def runText (counted : Bool) (line : String) (count : Nat) : String :=
  if counted then padLeft 7 (toString count) ++ " " ++ line else line

theorem start_uniq {arguments : List String} {flags : List Char}
    (split : splitFlags ['c'] arguments = (flags, [])) (cwd text : String) (world : World) :
    uniq.start ⟨cwd, text⟩ arguments world =
      .finished world (.ok (.printed (joinLines
        ((runsOf (lines text)).map fun run => runText (flags.contains 'c') run.1 run.2)))) := by
  have source : (readSources "uniq" ⟨cwd, text⟩ []).run world =
      (.ok ([⟨standardInput, text⟩], ""), world) :=
    rfl
  simp only [uniq, ofAction, finish, split, List.take_nil, run_bind, source, run_pure,
    List.flatMap_cons, List.flatMap_nil, List.append_nil]
  rfl

/-- `sort` prints the lines of its inputs in order, and `sort -u` the different ones among them in
strict order. From the output of the first `uniq` makes that of the second, and `uniq -c` puts in
front of each line how often it occurs, which adds up to the number of all lines. -/
theorem sort_and_uniq_agree {context : Context} {world : World}
    {plain different operands : List String} {reversed : Bool}
    (allowed : .read ∉ world.storage.refused)
    (plainly : AsksToSort plain reversed false operands)
    (differently : AsksToSort different reversed true operands) :
    let given := inputLines context world.storage.files operands
    let errors := complaints "sort" context world.storage.files operands
    ∃ sorted distinct : List String,
      sorted.Perm given ∧ sorted.Pairwise (MayPrecede reversed) ∧
      sort.start context plain world =
        .finished world (.ok (filtered (joinLines sorted) errors)) ∧
      (∀ line, line ∈ distinct ↔ line ∈ given) ∧ distinct.Pairwise (Precedes reversed) ∧
      sort.start context different world =
        .finished world (.ok (filtered (joinLines distinct) errors)) ∧
      (distinct.map given.count).sum = given.length ∧
      ∀ arguments flags, splitFlags ['c'] arguments = (flags, []) → ∀ cwd elsewhere,
        uniq.start ⟨cwd, joinLines sorted⟩ arguments elsewhere =
          .finished elsewhere (.ok (.printed (joinLines
            (distinct.map fun line => runText (flags.contains 'c') line (given.count line))))) := by
  intro given errors
  have permuted : (sortedLines reversed given).Perm given := perm_sortedLines reversed given
  have ordered := pairwise_sortedLines reversed given
  have runs : runsOf (sortedLines reversed given) =
      (sortedLines reversed given).eraseDups.map fun line => (line, given.count line) := by
    rw [runsOf_of_ordered ordered]
    exact List.map_congr_left fun line _ => congrArg _ (permuted.count_eq line)
  refine ⟨sortedLines reversed given, (sortedLines reversed given).eraseDups, permuted, ordered,
    start_sort allowed plainly, fun line => ?_, pairwise_eraseDups ordered,
    start_sort allowed differently, ?_, fun arguments flags split cwd elsewhere => ?_⟩
  · rw [List.mem_eraseDups, permuted.mem_iff]
  · have counted := sum_runsOf (sortedLines reversed given)
    rw [runs, List.map_map, permuted.length_eq] at counted
    exact counted
  · have each : ∀ line ∈ sortedLines reversed given, IsLine line := fun line member =>
      isLine_of_mem_inputLines (permuted.mem_iff.1 member)
    rw [start_uniq split, lines_joinLines each, runs, List.map_map]
    rfl

theorem sort_and_uniq_agree_on_repeats :
    ∃ sorted distinct : List String,
      sorted.Perm ["b", "", "a", "b"] ∧ sorted.Pairwise (MayPrecede true) ∧
      sort.start ⟨"/", "b\n\x1ea\x0cb"⟩ ["-r", "-"] bareWorld =
        .finished bareWorld (.ok (.printed (joinLines sorted))) ∧
      (∀ line, line ∈ distinct ↔ line ∈ ["b", "", "a", "b"]) ∧
      distinct.Pairwise (Precedes true) ∧
      sort.start ⟨"/", "b\n\x1ea\x0cb"⟩ ["-ru", "-"] bareWorld =
        .finished bareWorld (.ok (.printed (joinLines distinct))) ∧
      (distinct.map ["b", "", "a", "b"].count).sum = 4 ∧
      uniq.start ⟨"/", joinLines sorted⟩ ["-c"] bareWorld =
        .finished bareWorld (.ok (.printed (joinLines
          (distinct.map fun line => runText true line (["b", "", "a", "b"].count line))))) := by
  have plainly : AsksToSort ["-r", "-"] true false ["-"] := ⟨['r'], rfl, rfl, rfl, rfl⟩
  have differently : AsksToSort ["-ru", "-"] true true ["-"] := ⟨['r', 'u'], rfl, rfl, rfl, rfl⟩
  have given : inputLines ⟨"/", "b\n\x1ea\x0cb"⟩ bareWorld.storage.files ["-"] =
      ["b", "", "a", "b"] := by
    decide
  obtain ⟨sorted, distinct, permuted, ordered, printed, same, strict, printedOnce, sum, fed⟩ :=
    @sort_and_uniq_agree ⟨"/", "b\n\x1ea\x0cb"⟩ bareWorld _ _ _ _ (by decide) plainly
      differently
  rw [given] at permuted same sum fed
  exact ⟨sorted, distinct, permuted, ordered, printed, same, strict, printedOnce, sum,
    fed ["-c"] ['c'] rfl "/" bareWorld⟩

end VirtualShell.Command
