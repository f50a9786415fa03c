import VirtualShell.Command.Print
import VirtualShell.Proofs.Command.Reading
import VirtualShell.Proofs.Text.Integer
import VirtualShell.Proofs.Text.Lines

/-!
Contract: which integers `seq` prints.

Owns:
- `Spans`, which progression arguments ask for, and that they are read so;
- `InSpan`, how far a progression goes, and `getElem?_progression`: it has its members up to there;
- `seq_prints_progression`: each member is printed on a line of its own, in order.

A member lies between the first integer and the last one, so that it has no more digits than the
longer of the two and can be read back.
-/

namespace VirtualShell.Command

open VirtualShell.Fallible VirtualShell.Text

/-! ## Progressions -/

/-- The member with this index is not beyond the last integer. -/
def InSpan (first step last : Int) (index : Nat) : Prop :=
  0 < step ∧ first + index * step ≤ last ∨ step < 0 ∧ last ≤ first + index * step

instance (first step last : Int) (index : Nat) : Decidable (InSpan first step last index) := by
  unfold InSpan
  infer_instance

section

variable {first step last : Int}

/-- From the lower bound to the upper one there are as many steps as the quotient says. -/
theorem lt_count_iff {low high length : Int} (positive : 0 < length) (index : Nat) :
    index < (if low ≤ high then ((high - low) / length).toNat + 1 else 0) ↔
      index * length ≤ high - low := by
  have steps := @Int.le_ediv_iff_mul_le index (high - low) length positive
  split
  · rename_i forward
    have quotient : 0 ≤ (high - low) / length :=
      Int.ediv_nonneg (Int.sub_nonneg_of_le forward) (Int.le_of_lt positive)
    rw [← steps]
    omega
  · rename_i backward
    have ahead : 0 ≤ index * length :=
      Int.mul_nonneg (Int.natCast_nonneg index) (Int.le_of_lt positive)
    omega

/-- A progression has its members up to the last integer, and no others. -/
theorem getElem?_progression (moves : step ≠ 0) (index : Nat) :
    (progression first step last)[index]? =
      if InSpan first step last index then some (first + index * step) else none := by
  have counted : index <
      (if 0 < step then (if first ≤ last then ((last - first) / step).toNat + 1 else 0)
        else (if last ≤ first then ((first - last) / (-step)).toNat + 1 else 0)) ↔
      InSpan first step last index := by
    unfold InSpan
    split
    · rename_i positive
      rw [lt_count_iff positive]
      omega
    · rename_i backward
      have negative : 0 < -step := by omega
      rw [lt_count_iff negative, Int.mul_neg]
      omega
  unfold progression
  rw [List.getElem?_map]
  by_cases within : InSpan first step last index
  · rw [if_pos within, List.getElem?_range (counted.2 within)]
    rfl
  · have none := mt counted.1 within
    rw [if_neg within, List.getElem?_eq_none (by rwa [List.length_range, ← Nat.not_lt])]
    rfl

theorem natAbs_le_of_inSpan {index : Nat} (within : InSpan first step last index) :
    (first + index * step).natAbs ≤ max first.natAbs last.natAbs := by
  unfold InSpan at within
  rcases within with ⟨positive, most⟩ | ⟨negative, least⟩
  · have ahead : 0 ≤ (index : Int) * step :=
      Int.mul_nonneg (Int.natCast_nonneg index) (Int.le_of_lt positive)
    omega
  · have behind : (index : Int) * step ≤ 0 :=
      Int.mul_nonpos_of_nonneg_of_nonpos (Int.natCast_nonneg index) (Int.le_of_lt negative)
    omega

end

/-! ## Integers as lines -/

theorem isBlank_of_isLineBreak {c : Char} (ends : isLineBreak c = true) : isBlank c = true := by
  simp only [isLineBreak, isBlank, Bool.or_eq_true, Bool.and_eq_true, decide_eq_true_eq,
    beq_iff_eq] at ends ⊢
  rcases ends with (((⟨least, most⟩ | ⟨least, most⟩) | next) | separator) | paragraph
  · have within : 0x09 ≤ c.val := UInt32.le_trans (by decide) least
    simp [within, most]
  · have within : c.val ≤ 0x20 := UInt32.le_trans most (by decide)
    simp [least, within]
  · simp [next]
  · simp [separator]
  · simp [paragraph]

theorem isLine_of_isIntegral {text : String} {value : Int} (integral : IsIntegral text value) :
    IsLine text := by
  obtain ⟨negative, digits, number, rfl, numeral, -⟩ := integral
  intro c member
  rw [String.toList_append, String.toList_ofList, List.mem_append] at member
  rcases member with sign | digit
  · cases negative with
    | true =>
        rw [List.mem_singleton.1 sign]
        decide
    | false => cases sign
  · rw [← Bool.not_eq_true]
    intro ends
    have decimal := isDigit_of_isBlank (isBlank_of_isLineBreak ends)
    rw [isDigit, numeral.isDecimal c digit, Bool.true_or] at decimal
    cases decimal

/-! ## The command -/

/-- The arguments ask for the progression from the first integer to the last one in steps of this
length: from one and in steps of one unless they say otherwise. -/
inductive Spans : List String → Int → Int → Int → Prop where
  | upTo {lastText : String} {last : Int} (lastWritten : IsIntegral lastText last) :
      Spans [lastText] 1 1 last
  | between {firstText lastText : String} {first last : Int}
      (firstWritten : IsIntegral firstText first) (lastWritten : IsIntegral lastText last) :
      Spans [firstText, lastText] first 1 last
  | stepping {firstText stepText lastText : String} {first step last : Int}
      (firstWritten : IsIntegral firstText first) (stepWritten : IsIntegral stepText step)
      (lastWritten : IsIntegral lastText last) :
      Spans [firstText, stepText, lastText] first step last

section

variable {arguments : List String} {first step last : Int}

theorem Spans.natAbs_lt (asked : Spans arguments first step last) :
    max first.natAbs last.natAbs < 10 ^ maximumDigits := by
  have one : (1 : Int).natAbs < 10 ^ maximumDigits := Nat.one_lt_pow (by decide) (by decide)
  cases asked with
  | upTo lastWritten => exact max_lt one lastWritten.natAbs_lt
  | between firstWritten lastWritten => exact max_lt firstWritten.natAbs_lt lastWritten.natAbs_lt
  | stepping firstWritten _ lastWritten =>
      exact max_lt firstWritten.natAbs_lt lastWritten.natAbs_lt

theorem mapM_readInteger {numbers : List Int}
    (written : List.Forall₂ IsIntegral arguments numbers) :
    arguments.mapM readInteger = .ok numbers := by
  induction written with
  | nil => rfl
  | cons first _ inductionHypothesis =>
      rw [List.mapM_cons, first.readInteger, inductionHypothesis]
      rfl

theorem start_seq (asked : Spans arguments first step last) (moves : step ≠ 0) (context : Context)
    (world : World) :
    seq.start context arguments world =
      .finished world
        (.ok (.printed (joinLines ((progression first step last).map toString)))) := by
  cases asked with
  | upTo lastWritten =>
      have read := mapM_readInteger (.cons lastWritten .nil)
      simp only [seq, ofAction, finish, read]
      rfl
  | between firstWritten lastWritten =>
      have read := mapM_readInteger (.cons firstWritten (.cons lastWritten .nil))
      simp only [seq, ofAction, finish, read]
      rfl
  | stepping firstWritten stepWritten lastWritten =>
      have read := mapM_readInteger
        (.cons firstWritten (.cons stepWritten (.cons lastWritten .nil)))
      simp only [seq, ofAction, finish, read, if_neg moves]
      rfl

/-- `seq` prints its progression, each member on a line of its own in decimal digits: the member
with this index is there exactly if it is not beyond the last integer. -/
theorem seq_prints_progression (asked : Spans arguments first step last) (moves : step ≠ 0)
    (context : Context) (world : World) :
    ∃ stdout numbers,
      seq.start context arguments world = .finished world (.ok (.printed stdout)) ∧
      List.Forall₂ IsIntegral (lines stdout) numbers ∧
      ∀ index : Nat, numbers[index]? =
        if 0 < step ∧ first + index * step ≤ last ∨ step < 0 ∧ last ≤ first + index * step then
          some (first + index * step)
        else none := by
  have members := @getElem?_progression first step last moves
  have small : ∀ number ∈ progression first step last, number.natAbs < 10 ^ maximumDigits := by
    intro number member
    obtain ⟨index, at_index⟩ := List.mem_iff_getElem?.1 member
    rw [members] at at_index
    split at at_index
    · rename_i within
      cases at_index
      exact Nat.lt_of_le_of_lt (natAbs_le_of_inSpan within) asked.natAbs_lt
    · cases at_index
  refine ⟨_, progression first step last, start_seq asked moves context world, ?_, members⟩
  rw [lines_joinLines]
  · rw [List.forall₂_map_left_iff]
    exact List.forall₂_same.2 fun number member => isIntegral_toString (small number member)
  · intro text member
    obtain ⟨number, inside, rfl⟩ := List.mem_map.1 member
    exact isLine_of_isIntegral (isIntegral_toString (small number inside))

theorem seq_prints_countdown :
    ∃ stdout numbers,
      seq.start ⟨"/", ""⟩ ["7", "-3", "-02"] bareWorld =
        .finished bareWorld (.ok (.printed stdout)) ∧
      List.Forall₂ IsIntegral (lines stdout) numbers ∧
      ∀ index : Nat, numbers[index]? =
        if (0 : Int) < -3 ∧ 7 + (index : Int) * -3 ≤ -2 ∨
            (-3 : Int) < 0 ∧ -2 ≤ 7 + (index : Int) * -3 then
          some (7 + (index : Int) * -3)
        else none := by
  have first : IsIntegral "7" 7 := ⟨false, "7", 7, rfl, ⟨[7], by decide⟩, rfl⟩
  have step : IsIntegral "-3" (-3) := ⟨true, "3", 3, rfl, ⟨[3], by decide⟩, rfl⟩
  have last : IsIntegral "-02" (-2) := ⟨true, "02", 2, rfl, ⟨[0, 2], by decide⟩, rfl⟩
  exact seq_prints_progression (.stepping first step last) (by decide) ⟨"/", ""⟩ bareWorld

end

end VirtualShell.Command
