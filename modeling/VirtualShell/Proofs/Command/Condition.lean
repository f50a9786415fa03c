import VirtualShell.Command.Condition
import VirtualShell.Proofs.Command.Reading

/-!
Contract: what `test` and `[` answer to comparisons of texts and to negations.

Owns:
- `Answers`, the outcome that both commands have;
- `run_evaluate_mark`: an exclamation mark in front turns the truth of the words behind it around;
- `compares_texts_and_negates`: texts are told apart, and a negation swaps the exit codes. This
  needs the first of the two texts to be no exclamation mark;
- `answers_of_mark`: if it is one, the comparison is refused, since the mark is read first.

Does not own: tests of files and comparisons of integers.
-/

namespace VirtualShell.Command.Condition

open VirtualShell.Fallible

variable {context : Context} {world after : World} {words : List String}

/-! ## The two commands -/

/-- `test` of the words, and `[` with the closing bracket behind them, end with the outcome. -/
def Answers (context : Context) (world : World) (words : List String) (after : World)
    (outcome : Outcome) : Prop :=
  test.start context words world = .finished after (.ok outcome) ∧
    bracket.start context (words ++ ["]"]) world = .finished after (.ok outcome)

/-- What a bracket closes is tested as the words in front of it are. -/
theorem start_bracket (context : Context) (words : List String) (world : World) :
    bracket.start context (words ++ ["]"]) world = test.start context words world := by
  unfold bracket test ofAction
  simp only [List.getLast?_concat, List.dropLast_concat, if_true]

theorem answers_iff {outcome : Outcome} :
    Answers context world words after outcome ↔
      test.start context words world = .finished after (.ok outcome) := by
  unfold Answers
  rw [start_bracket, and_self]

theorem start_test (context : Context) (words : List String) (world : World) :
    test.start context words world =
      match (evaluate context words).run world with
      | (.ok (.ok truth), after) => .finished after (.ok (.ofTruth truth))
      | (.ok (.error defect), after) =>
          .finished after (.ok (.failure ("test: " ++ defect.message ++ "\n") 2))
      | (.error fault, after) => .finished after (.error fault) := by
  show finish world (outcome context words) = _
  unfold finish outcome
  rw [run_bind]
  rcases (evaluate context words).run world with ⟨_ | _ | _, after⟩ <;> rfl

theorem answers_ofTruth {truth : Bool}
    (evaluated : (evaluate context words).run world = (.ok (.ok truth), after)) :
    Answers context world words after (.ofTruth truth) := by
  rw [answers_iff, start_test, evaluated]

theorem answers_failure {defect : Defect}
    (evaluated : (evaluate context words).run world = (.ok (.error defect), after)) :
    Answers context world words after (.failure ("test: " ++ defect.message ++ "\n") 2) := by
  rw [answers_iff, start_test, evaluated]

/-- An exit code other than two tells the truth of the words. -/
theorem exists_truth_of_answers {outcome : Outcome}
    (answered : Answers context world words after outcome) (formed : outcome.exitCode ≠ 2) :
    ∃ truth, outcome = .ofTruth truth ∧
      (evaluate context words).run world = (.ok (.ok truth), after) := by
  rw [answers_iff, start_test] at answered
  rcases ran : (evaluate context words).run world with ⟨fault | defect | truth, ending⟩
  · rw [ran] at answered
    cases answered
  · rw [ran] at answered
    cases answered
    exact absurd rfl formed
  · rw [ran] at answered
    cases answered
    exact ⟨truth, rfl, rfl⟩

/-! ## Comparisons and negations -/

/-- Three words are a comparison unless the first of them negates the two others. -/
theorem run_evaluate_comparison {left : String} (plain : left ≠ "!") (operator right : String) :
    (evaluate context [left, operator, right]).run world =
      (.ok (compare left operator right), world) := by
  rw [evaluate, if_neg plain]
  rfl

/-- A mark turns the truth of the words behind it around, and it keeps what is wrong with them. -/
theorem run_evaluate_mark (context : Context) (words : List String) (world : World) :
    (evaluate context ("!" :: words)).run world =
      match (evaluate context words).run world with
      | (.ok result, after) => (.ok (result.map (!·)), after)
      | (.error fault, after) => (.error fault, after) := by
  have negated : evaluate context ("!" :: words) =
      (do return (← evaluate context words).map (!·)) := by
    conv_lhs => unfold evaluate
    exact if_pos rfl
  rw [negated, run_bind]
  rcases (evaluate context words).run world with ⟨_ | _, after⟩ <;> rfl

/-- The mark is read before the comparison, which leaves too few words for it. -/
theorem answers_of_mark {operator : String} (compares : operator = "=" ∨ operator = "!=")
    (context : Context) (right : String) (world : World) :
    Answers context world ["!", operator, right] world
      (.failure ("test: " ++ (Defect.unknownUnary operator).message ++ "\n") 2) := by
  have unary : (evaluate context [operator, right]).run world =
      (.ok (.error (.unknownUnary operator)), world) := by
    rcases compares with rfl | rfl <;> rfl
  have marked : (evaluate context ["!", operator, right]).run world =
      (.ok (.error (.unknownUnary operator)), world) := by
    rw [run_evaluate_mark, unary]
    rfl
  exact answers_failure marked

/-- Two texts are told apart by `=` and `!=`, unless the first is an exclamation mark, and an
exclamation mark in front of a condition swaps the exit codes zero and one. -/
theorem compares_texts_and_negates (context : Context) (world : World) :
    (∀ left right, left ≠ "!" →
      Answers context world [left, "=", right] world (.ofTruth (left = right)) ∧
        Answers context world [left, "!=", right] world (.ofTruth (left ≠ right))) ∧
    ∀ words outcome after, Answers context world words after outcome → outcome.exitCode ≠ 2 →
      ∃ truth, outcome = .ofTruth truth ∧
        Answers context world ("!" :: words) after (.ofTruth !truth) := by
  constructor
  · intro left right plain
    have equal : compare left "=" right = .ok (decide (left = right)) := rfl
    have different : compare left "!=" right = .ok (decide (left ≠ right)) := by
      simp [compare, bne, BEq.beq]
    constructor
    · apply answers_ofTruth
      rw [run_evaluate_comparison plain, equal]
    · apply answers_ofTruth
      rw [run_evaluate_comparison plain, different]
  · intro words outcome after answered formed
    obtain ⟨truth, rfl, evaluated⟩ := exists_truth_of_answers answered formed
    refine ⟨truth, rfl, answers_ofTruth ?_⟩
    rw [run_evaluate_mark, evaluated]
    rfl

theorem compares_brackets_and_negates :
    Answers ⟨"/", ""⟩ bareWorld ["]", "=", "-n"] bareWorld (.ofTruth false) ∧
      Answers ⟨"/", ""⟩ bareWorld ["]", "!=", "-n"] bareWorld (.ofTruth true) ∧
      ∃ truth, Outcome.ofTruth false = .ofTruth truth ∧
        Answers ⟨"/", ""⟩ bareWorld ["!", "]", "=", "-n"] bareWorld (.ofTruth !truth) := by
  obtain ⟨compared, negated⟩ := compares_texts_and_negates ⟨"/", ""⟩ bareWorld
  obtain ⟨equal, different⟩ := compared "]" "-n" (by decide)
  exact ⟨equal, different, negated _ _ _ equal (by decide)⟩

/-- An exclamation mark is not found equal to itself. -/
theorem exists_comparison_refused :
    Answers ⟨"/", ""⟩ bareWorld ["!", "=", "!"] bareWorld
        (.failure "test: =: unary operator expected\n" 2) ∧
      ¬ ∀ left right, Answers ⟨"/", ""⟩ bareWorld [left, "=", right] bareWorld
        (.ofTruth (left = right)) := by
  have refused := answers_of_mark (.inl rfl) ⟨"/", ""⟩ "!" bareWorld
  refine ⟨refused, fun all => ?_⟩
  have answered := answers_iff.1 (all "!" "!")
  rw [answers_iff.1 refused] at answered
  injection answered with _ same
  injection same with same
  exact absurd (congrArg Outcome.exitCode same) (by decide)

end VirtualShell.Command.Condition
