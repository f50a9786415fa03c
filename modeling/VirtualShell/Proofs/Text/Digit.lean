import VirtualShell.Name
import VirtualShell.Text.Digit

/-!
Contract: which texts are digits.

Owns:
- `isDigits_toString` and `toString_inj`, that numbers are written in digits, and each in its
  own way.
- `isDigits_of_isName`, that no name is.
-/

namespace VirtualShell.Text

theorem toList_toString (number : Nat) : (toString number).toList = Nat.toDigits 10 number := by
  rw [Nat.toString_eq_ofList_toDigits, String.toList_ofList]

theorem toString_inj {first second : Nat} (same : toString first = toString second) :
    first = second := by
  rw [← Nat.ofDigitChars_ten_toDigits (n := first), ← toList_toString, same, toList_toString,
    Nat.ofDigitChars_ten_toDigits]

theorem isDigit_of_ascii {c : Char} (ascii : c.isDigit = true) : isDigit c = true := by
  have each : ∀ code < 58, 48 ≤ code → isDigit (Char.ofNat code) = true := by
    decide +kernel
  obtain ⟨least, most⟩ := Char.isDigit_iff_toNat.1 ascii
  have held := each c.toNat (Nat.lt_succ_of_le most) least
  rwa [Char.ofNat_toNat] at held

theorem isDigits_toString (number : Nat) : isDigits (toString number) = true := by
  have digits : ∀ c ∈ (toString number).toList, isDigit c = true := by
    intro c member
    rw [toList_toString] at member
    apply isDigit_of_ascii
    exact Nat.isDigit_of_mem_toDigits (by decide) (Nat.le_refl 10) member
  have some : (toString number).isEmpty = false := by
    apply String.isEmpty_eq_false_iff.2
    intro none
    have chars := toList_toString number
    rw [none] at chars
    exact Nat.toDigits_ne_nil chars.symm
  unfold isDigits
  rw [some, List.all_eq_true.2 digits]
  rfl

-- The characters that start names have small codes, so that each of them can be tried.
theorem isDigit_of_isNameStart {c : Char} (starts : isNameStart c = true) : isDigit c = false := by
  have each : ∀ code < 123, isNameStart (Char.ofNat code) = true →
      isDigit (Char.ofNat code) = false := by
    decide +kernel
  have less : c.toNat < 123 := by
    unfold isNameStart Char.isAlpha Char.isUpper Char.isLower at starts
    simp only [Bool.or_eq_true, Bool.and_eq_true, decide_eq_true_eq, UInt32.le_iff_toNat_le,
      beq_iff_eq] at starts
    obtain (⟨-, upper⟩ | ⟨-, lower⟩) | rfl := starts
    · have most : c.toNat ≤ 90 := upper
      omega
    · have most : c.toNat ≤ 122 := lower
      omega
    · decide
  have held := each c.toNat less
  rw [Char.ofNat_toNat] at held
  exact held starts

theorem isDigits_of_isName {name : String} (valid : isName name = true) :
    isDigits name = false := by
  unfold isName at valid
  split at valid
  · cases valid
  · rename_i c rest chars
    rw [Bool.and_eq_true] at valid
    simp [isDigits, chars, isDigit_of_isNameStart valid.1]

end VirtualShell.Text
