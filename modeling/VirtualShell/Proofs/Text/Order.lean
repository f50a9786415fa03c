import Mathlib.Data.List.Sort
import VirtualShell.Text.Order

/-!
Contract: sorted texts are the same texts, in order.

Owns:
- `notAfter` is the order of texts by code point;
- `sorted` keeps the texts and puts them in order; without repetitions the order is strict.
-/

namespace VirtualShell.Text

theorem notAfter_iff {left right : String} : notAfter left right = true ↔ left ≤ right := by
  unfold notAfter
  rw [Bool.not_eq_true', decide_eq_false_iff_not, String.not_lt]

theorem mem_sorted {text : String} {texts : List String} : text ∈ sorted texts ↔ text ∈ texts :=
  List.mem_mergeSort

theorem sorted_perm (texts : List String) : (sorted texts).Perm texts :=
  List.mergeSort_perm texts notAfter

theorem pairwise_sorted (texts : List String) : (sorted texts).Pairwise (· ≤ ·) := by
  have ordered : (sorted texts).Pairwise fun left right => notAfter left right = true := by
    apply List.pairwise_mergeSort
    · intro first second third before after
      rw [notAfter_iff] at before after ⊢
      exact String.le_trans before after
    · intro left right
      rw [Bool.or_eq_true, notAfter_iff, notAfter_iff]
      exact String.le_total left right
  exact ordered.imp notAfter_iff.1

/-- Different texts are put in strict order. -/
theorem pairwise_lt_sorted {texts : List String} (different : texts.Nodup) :
    (sorted texts).Pairwise (· < ·) := by
  have distinct : (sorted texts).Nodup := (sorted_perm texts).nodup_iff.2 different
  refine ((pairwise_sorted texts).and distinct).imp ?_
  intro left right ⟨notAfter, different⟩
  refine Decidable.byContradiction fun notBefore => ?_
  exact different (String.le_antisymm notAfter (String.not_lt.1 notBefore))

/-- What stands in front of two texts does not change their order. -/
theorem append_lt_append_iff {front left right : List Char} :
    front ++ left < front ++ right ↔ left < right := by
  induction front with
  | nil => exact Iff.rfl
  | cons c front inductionHypothesis => exact List.cons_lt_cons_self.trans inductionHypothesis

/-- Unlike `List.mergeSort`, sorting by insertion is structural and can be evaluated. -/
theorem sorted_eq_insertionSort (texts : List String) :
    sorted texts = texts.insertionSort (· ≤ ·) := by
  have permuted := (sorted_perm texts).trans (List.perm_insertionSort (· ≤ ·) texts).symm
  exact permuted.eq_of_pairwise (fun _ _ _ _ => String.le_antisymm) (pairwise_sorted texts)
    (List.pairwise_insertionSort (· ≤ ·) texts)

end VirtualShell.Text
