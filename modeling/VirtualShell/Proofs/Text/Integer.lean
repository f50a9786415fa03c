import Mathlib.Algebra.Group.Nat.Defs
import VirtualShell.Proofs.Text.Digit
import VirtualShell.Text.Integer

/-!
Contract: how digits are read as integers.

Owns:
- `isDigit_of_isBlank`, that no digit is white space;
- `readInteger_of_decimals`: digits behind a sign or none are the number that they are written for,
  unless there are too many of them;
- `IsNumeral`, the texts that are a number written in decimal digits alone, and that of the texts of
  digits these are the ones that can be read;
- `IsIntegral`, the texts that are an integer written in decimal digits, and that every integer with
  so few digits that it can be read is written as such a text.

Digits without a place value, such as the superscripts, are digits but no part of a numeral.
-/

namespace VirtualShell.Text

/-! ## Digits and white space -/

/-- The code points of white space. -/
def blankCodes : List Nat :=
  List.range' 0x09 5 ++ List.range' 0x1C 5 ++ [0x85, 0xA0, 0x1680] ++ List.range' 0x2000 11 ++
    [0x2028, 0x2029, 0x202F, 0x205F, 0x3000]

theorem toNat_mem_blankCodes {c : Char} (blank : isBlank c = true) : c.toNat ∈ blankCodes := by
  unfold isBlank at blank
  simp only [Bool.or_eq_true, Bool.and_eq_true, decide_eq_true_eq, beq_iff_eq,
    UInt32.le_iff_toNat_le, ← UInt32.toNat_inj] at blank
  have code : c.val.toNat = c.toNat := rfl
  simp only [code, UInt32.reduceToNat] at blank
  simp only [blankCodes, List.mem_append, List.mem_range'_1, List.mem_cons, List.not_mem_nil]
  omega

theorem isDigit_of_isBlank {c : Char} (blank : isBlank c = true) : isDigit c = false := by
  have each : ∀ code ∈ blankCodes, isDigit (Char.ofNat code) = false := by
    decide +kernel
  have held := each c.toNat (toNat_mem_blankCodes blank)
  rwa [Char.ofNat_toNat] at held

theorem isBlank_of_isIntegerBlank {c : Char} (blank : isIntegerBlank c = true) :
    isBlank c = true := by
  simp only [isIntegerBlank, Bool.or_eq_true, Bool.and_eq_true, decide_eq_true_eq,
    beq_iff_eq] at blank
  rcases blank with (rfl | ⟨least, most⟩) | ⟨-, blank⟩
  · rfl
  · have control : 0x09 ≤ c.val ∧ c.val ≤ 0x0D :=
      ⟨UInt32.le_iff_toNat_le.2 least, UInt32.le_iff_toNat_le.2 most⟩
    simp [isBlank, control]
  · exact blank

theorem isIntegerBlank_of_isDigit {c : Char} (digit : isDigit c = true) :
    isIntegerBlank c = false := by
  rw [← Bool.not_eq_true]
  intro blank
  rw [isDigit_of_isBlank (isBlank_of_isIntegerBlank blank)] at digit
  cases digit

/-! ## Reading digits -/

/-- The values of some characters, if all of them are decimal digits. -/
def digitsOf? (chars : List Char) : Option (List Nat) :=
  chars.mapM decimalValue?

theorem digitsOf?_cons_eq_some_iff {c : Char} {rest : List Char} {digits : List Nat} :
    digitsOf? (c :: rest) = some digits ↔
      ∃ digit others, decimalValue? c = some digit ∧ digitsOf? rest = some others ∧
        digits = digit :: others := by
  simp [digitsOf?, List.mapM_cons, Option.bind_eq_some_iff, @eq_comm _ _ digits]

theorem exists_digitsOf?_iff {chars : List Char} :
    (∃ digits, digitsOf? chars = some digits) ↔ ∀ c ∈ chars, isDecimal c = true := by
  induction chars with
  | nil => exact iff_of_true ⟨[], rfl⟩ nofun
  | cons c rest inductionHypothesis =>
      rw [List.forall_mem_cons, ← inductionHypothesis]
      constructor
      · rintro ⟨digits, read⟩
        obtain ⟨digit, others, value, behind, -⟩ := digitsOf?_cons_eq_some_iff.1 read
        exact ⟨by simp [isDecimal, value], others, behind⟩
      · rintro ⟨decimal, others, behind⟩
        obtain ⟨digit, value⟩ := Option.isSome_iff_exists.1 decimal
        exact ⟨_, digitsOf?_cons_eq_some_iff.2 ⟨digit, others, value, behind, rfl⟩⟩

theorem length_of_digitsOf? {chars : List Char} {digits : List Nat}
    (read : digitsOf? chars = some digits) : digits.length = chars.length := by
  induction chars generalizing digits with
  | nil =>
      cases read
      rfl
  | cons c rest inductionHypothesis =>
      obtain ⟨digit, others, -, behind, rfl⟩ := digitsOf?_cons_eq_some_iff.1 read
      rw [List.length_cons, List.length_cons, inductionHypothesis behind]

theorem integerDigits_of_decimals {chars : List Char} {digits : List Nat}
    (read : digitsOf? chars = some digits) (seen : List Nat) :
    integerDigits seen false chars = some (digits.reverse ++ seen, []) := by
  induction chars generalizing digits seen with
  | nil =>
      cases read
      rfl
  | cons c rest inductionHypothesis =>
      obtain ⟨digit, others, value, behind, rfl⟩ := digitsOf?_cons_eq_some_iff.1 read
      simp [integerDigits, value, inductionHypothesis behind]

/-- Where only digits are read, and only white space is left behind them, nothing is left. -/
theorem exists_digitsOf?_of_integerDigits {chars rest : List Char} {seen found : List Nat}
    (all : ∀ c ∈ chars, isDigit c = true)
    (read : integerDigits seen false chars = some (found, rest))
    (blank : ∀ c ∈ rest, isIntegerBlank c = true) : ∃ digits, digitsOf? chars = some digits := by
  induction chars generalizing seen with
  | nil => exact ⟨[], rfl⟩
  | cons c others inductionHypothesis =>
      rw [List.forall_mem_cons] at all
      rw [integerDigits] at read
      cases value : decimalValue? c with
      | some digit =>
          rw [value] at read
          obtain ⟨digits, behind⟩ := inductionHypothesis all.2 read
          exact ⟨_, digitsOf?_cons_eq_some_iff.2 ⟨digit, digits, value, behind, rfl⟩⟩
      | none =>
          have noUnderscore : (c == '_') = false := by
            rw [beq_eq_false_iff_ne]
            rintro rfl
            exact absurd all.1 (by decide)
          rw [value] at read
          simp only [noUnderscore, Bool.false_eq_true, if_false, Option.some.injEq,
            Prod.mk.injEq] at read
          have wrong := blank c (read.2 ▸ List.mem_cons_self)
          rw [isIntegerBlank_of_isDigit all.1] at wrong
          cases wrong

/-! ## Reading integers -/

/-- The sign of an integer as it is written: a minus sign or nothing. -/
def signText (negative : Bool) : List Char :=
  if negative then ['-'] else []

theorem dropWhile_signText {negative : Bool} {chars : List Char}
    (digits : ∀ c ∈ chars, isDigit c = true) :
    (signText negative ++ chars).dropWhile isIntegerBlank = signText negative ++ chars := by
  cases negative with
  | true => rfl
  | false =>
      cases chars with
      | nil => rfl
      | cons c rest =>
          have solid := isIntegerBlank_of_isDigit (digits c List.mem_cons_self)
          simp [signText, solid]

theorem integerSign_signText {negative : Bool} {chars : List Char}
    (digits : ∀ c ∈ chars, isDigit c = true) :
    integerSign (signText negative ++ chars) = (negative, chars) := by
  cases negative with
  | true => rfl
  | false =>
      show integerSign chars = (false, chars)
      unfold integerSign
      split
      · exact absurd (digits '-' List.mem_cons_self) (by decide)
      · exact absurd (digits '+' List.mem_cons_self) (by decide)
      · rfl

/-- Digits behind a sign or none are read as the number that they are written for, unless there
are too many of them. -/
theorem readInteger_of_decimals {text : String} {negative : Bool} {chars : List Char}
    {digits : List Nat} (written : text.toList = signText negative ++ chars)
    (read : digitsOf? chars = some digits) (present : digits ≠ []) :
    readInteger text =
      if maximumDigits < digits.length then .error (.tooManyDigits digits.length)
      else .ok (if negative then -(ofDigits digits : Int) else ofDigits digits) := by
  have all : ∀ c ∈ chars, isDigit c = true := by
    intro c member
    have decimal := exists_digitsOf?_iff.1 ⟨digits, read⟩ c member
    rw [isDigit, decimal, Bool.true_or]
  unfold readInteger
  rw [written, dropWhile_signText all, integerSign_signText all]
  simp [integerDigits_of_decimals read, present]

/-! ## Numerals -/

/-- The text is a number written in decimal digits of any script, one or more of them but not
more than are read. -/
def IsNumeral (text : String) (number : Nat) : Prop :=
  ∃ digits, digitsOf? text.toList = some digits ∧ digits ≠ [] ∧ digits.length ≤ maximumDigits ∧
    ofDigits digits = number

theorem IsNumeral.toList_ne_nil {text : String} {number : Nat} (numeral : IsNumeral text number) :
    text.toList ≠ [] := by
  obtain ⟨digits, read, present, -⟩ := numeral
  intro none
  rw [none] at read
  cases read
  exact present rfl

theorem IsNumeral.ne_empty {text : String} {number : Nat} (numeral : IsNumeral text number) :
    text ≠ "" :=
  mt String.toList_eq_nil_iff.2 numeral.toList_ne_nil

theorem IsNumeral.isDecimal {text : String} {number : Nat} (numeral : IsNumeral text number) :
    ∀ c ∈ text.toList, isDecimal c = true :=
  exists_digitsOf?_iff.1 ⟨_, numeral.choose_spec.1⟩

theorem isDigits_iff {text : String} :
    isDigits text = true ↔ text.toList ≠ [] ∧ ∀ c ∈ text.toList, isDigit c = true := by
  simp [isDigits]

theorem exists_digitsOf?_of_readInteger {text : String} {value : Int}
    (all : ∀ c ∈ text.toList, isDigit c = true) (read : readInteger text = .ok value) :
    ∃ digits, digitsOf? text.toList = some digits := by
  have unsigned : text.toList = signText false ++ text.toList := rfl
  unfold readInteger at read
  rw [unsigned, dropWhile_signText all, integerSign_signText all] at read
  dsimp only at read
  split at read
  · cases read
  · rename_i found rest ends
    split at read
    · cases read
    · split at read
      · cases read
      · split at read
        · rename_i blank
          exact exists_digitsOf?_of_integerDigits all ends (List.all_eq_true.1 blank)
        · cases read

theorem IsNumeral.isDigits {text : String} {number : Nat} (numeral : IsNumeral text number) :
    isDigits text = true := by
  refine isDigits_iff.2 ⟨numeral.toList_ne_nil, fun c member => ?_⟩
  rw [isDigit, numeral.isDecimal c member, Bool.true_or]

theorem IsNumeral.readInteger {text : String} {number : Nat} (numeral : IsNumeral text number) :
    readInteger text = .ok number := by
  have unsigned : text.toList = signText false ++ text.toList := rfl
  obtain ⟨digits, read, present, short, rfl⟩ := numeral
  rw [readInteger_of_decimals unsigned read present, if_neg (Nat.not_lt.2 short)]
  rfl

/-- The texts of digits that can be read are numerals. -/
theorem exists_isNumeral_of_isDigits {text : String} {value : Int}
    (written : isDigits text = true) (read : readInteger text = .ok value) :
    ∃ number : Nat, IsNumeral text number ∧ value = number := by
  have unsigned : text.toList = signText false ++ text.toList := rfl
  obtain ⟨filled, all⟩ := isDigits_iff.1 written
  obtain ⟨digits, values⟩ := exists_digitsOf?_of_readInteger all read
  have present : digits ≠ [] := by
    rw [← List.length_pos_iff, length_of_digitsOf? values]
    exact List.length_pos_iff.2 filled
  rw [readInteger_of_decimals unsigned values present] at read
  split at read
  · cases read
  · rename_i short
    exact ⟨ofDigits digits, ⟨digits, values, present, Nat.not_lt.1 short, rfl⟩,
      (Except.ok.inj read).symm⟩

/-! ## Integers in decimal digits -/

theorem decimalValue?_of_ascii {c : Char} (ascii : c.isDigit = true) :
    decimalValue? c = some (c.toNat - 48) := by
  have each : ∀ code < 58, 48 ≤ code → decimalValue? (Char.ofNat code) = some (code - 48) := by
    decide +kernel
  obtain ⟨least, most⟩ := Char.isDigit_iff_toNat.1 ascii
  have held := each c.toNat (Nat.lt_succ_of_le most) least
  rwa [Char.ofNat_toNat] at held

theorem lt_ten_of_decimalValue? {c : Char} {digit : Nat} (value : decimalValue? c = some digit) :
    digit < 10 := by
  obtain ⟨first, found, rfl⟩ := Option.map_eq_some_iff.1 value
  have within := List.find?_some found
  simp only [Bool.and_eq_true, decide_eq_true_eq] at within
  omega

theorem digitsOf?_of_ascii {chars : List Char} (ascii : ∀ c ∈ chars, c.isDigit = true) :
    digitsOf? chars = some (chars.map fun c => c.toNat - 48) := by
  induction chars with
  | nil => rfl
  | cons c rest inductionHypothesis =>
      obtain ⟨first, others⟩ := List.forall_mem_cons.1 ascii
      exact digitsOf?_cons_eq_some_iff.2
        ⟨_, _, decimalValue?_of_ascii first, inductionHypothesis others, rfl⟩

theorem lt_ten_of_digitsOf? {chars : List Char} {digits : List Nat}
    (read : digitsOf? chars = some digits) : ∀ digit ∈ digits, digit < 10 := by
  induction chars generalizing digits with
  | nil =>
      cases read
      exact List.forall_mem_nil _
  | cons c rest inductionHypothesis =>
      obtain ⟨digit, others, value, behind, rfl⟩ := digitsOf?_cons_eq_some_iff.1 read
      exact List.forall_mem_cons.2 ⟨lt_ten_of_decimalValue? value, inductionHypothesis behind⟩

theorem foldl_digits_lt {digits : List Nat} (small : ∀ digit ∈ digits, digit < 10) (value : Nat) :
    digits.foldl (fun value digit => value * 10 + digit) value <
      (value + 1) * 10 ^ digits.length := by
  induction digits generalizing value with
  | nil => simp
  | cons digit rest inductionHypothesis =>
      obtain ⟨first, others⟩ := List.forall_mem_cons.1 small
      calc rest.foldl (fun value digit => value * 10 + digit) (value * 10 + digit)
          < (value * 10 + digit + 1) * 10 ^ rest.length := inductionHypothesis others _
        _ ≤ ((value + 1) * 10) * 10 ^ rest.length := Nat.mul_le_mul_right _ (by omega)
        _ = (value + 1) * 10 ^ (digit :: rest).length := by
            rw [List.length_cons, Nat.pow_succ, Nat.mul_assoc, Nat.mul_comm 10]

/-- A numeral has no more digits than are read. -/
theorem IsNumeral.lt {text : String} {number : Nat} (numeral : IsNumeral text number) :
    number < 10 ^ maximumDigits := by
  obtain ⟨digits, read, -, short, rfl⟩ := numeral
  calc ofDigits digits < (0 + 1) * 10 ^ digits.length :=
        foldl_digits_lt (lt_ten_of_digitsOf? read) 0
    _ ≤ 10 ^ maximumDigits := by
        rw [Nat.zero_add, Nat.one_mul]
        exact Nat.pow_le_pow_right (by decide) short

theorem isNumeral_toString {number : Nat} (small : number < 10 ^ maximumDigits) :
    IsNumeral (toString number) number := by
  have ascii : ∀ c ∈ Nat.toDigits 10 number, c.isDigit = true := fun c member =>
    Nat.isDigit_of_mem_toDigits (by decide) (Nat.le_refl 10) member
  refine ⟨(Nat.toDigits 10 number).map fun c => c.toNat - 48, ?_, ?_, ?_, ?_⟩
  · rw [toList_toString, digitsOf?_of_ascii ascii]
  · exact mt List.map_eq_nil_iff.1 Nat.toDigits_ne_nil
  · rw [List.length_map]
    exact (Nat.length_toDigits_le_iff (by decide) (by decide)).2 small
  · calc ofDigits ((Nat.toDigits 10 number).map fun c => c.toNat - 48)
        = Nat.ofDigitChars 10 (Nat.toDigits 10 number) 0 := by
          simp [ofDigits, Nat.ofDigitChars, List.foldl_map, Nat.mul_comm]
      _ = number := Nat.ofDigitChars_ten_toDigits

/-- The text is an integer written in decimal digits of any script, behind a minus sign or none;
there are not more digits than are read. -/
def IsIntegral (text : String) (value : Int) : Prop :=
  ∃ negative digits number, text = String.ofList (signText negative) ++ digits ∧
    IsNumeral digits number ∧ value = if negative then -(number : Int) else number

theorem IsIntegral.readInteger {text : String} {value : Int} (integral : IsIntegral text value) :
    readInteger text = .ok value := by
  obtain ⟨negative, spelled, number, rfl, ⟨digits, read, present, short, rfl⟩, rfl⟩ := integral
  have written : (String.ofList (signText negative) ++ spelled).toList =
      signText negative ++ spelled.toList := by
    rw [String.toList_append, String.toList_ofList]
  rw [readInteger_of_decimals written read present, if_neg (Nat.not_lt.2 short)]

theorem IsIntegral.natAbs_lt {text : String} {value : Int} (integral : IsIntegral text value) :
    value.natAbs < 10 ^ maximumDigits := by
  obtain ⟨negative, spelled, number, -, numeral, rfl⟩ := integral
  have small := numeral.lt
  split <;> simpa using small

/-- An integer is written in decimal digits, if there are not more of them than are read. -/
theorem isIntegral_toString {value : Int} (small : value.natAbs < 10 ^ maximumDigits) :
    IsIntegral (toString value) value := by
  have numeral := isNumeral_toString small
  by_cases least : 0 ≤ value
  · have unsigned : value.toNat = value.natAbs := by omega
    refine ⟨false, toString value.natAbs, value.natAbs, ?_, numeral, ?_⟩
    · rw [Int.toString_eq_repr, Int.repr_eq_if, if_pos least, unsigned]
      rfl
    · rw [if_neg Bool.false_ne_true]
      omega
  · have unsigned : (-value).toNat = value.natAbs := by omega
    refine ⟨true, toString value.natAbs, value.natAbs, ?_, numeral, ?_⟩
    · rw [Int.toString_eq_repr, Int.repr_eq_if, if_neg least, unsigned]
      rfl
    · rw [if_pos rfl]
      omega

end VirtualShell.Text
