import VirtualShell.Command.Arrange
import VirtualShell.Command.Print
import VirtualShell.Proofs.Fallible
import VirtualShell.Proofs.Text.Integer

/-!
Contract: the numbers that `sort` and `seq` can read.

Owns:
- `HidesNumber`, the lines whose number `sort` cannot read, and `exists_numericallySorted_iff`:
  lines are sorted by their numbers unless one of them is such a line;
- `IsWritten`, the texts that look like integers, and `exists_readInteger_iff_of_isWritten`: these
  are read as integers unless they have too many digits.
-/

namespace VirtualShell.Command

open VirtualShell.Fallible VirtualShell.Text

/-! ## Numbers in front of lines -/

/-- The line has a number in front, behind white space with an ASCII separator in it. -/
def HidesNumber (line : String) : Prop :=
  ∃ blank negative digit rest, line.toList = blank ++ (signText negative ++ digit :: rest) ∧
    (∀ c ∈ blank, isBlank c = true) ∧ isDecimal digit = true ∧
    ∃ c ∈ blank, 0x1C ≤ c.toNat ∧ c.toNat ≤ 0x1F

theorem leadingDigits_of_isDecimal {digit : Char} (decimal : isDecimal digit = true)
    (rest : List Char) :
    ∃ whole behind, leadingDigits (digit :: rest) = (whole, behind) ∧ whole ≠ [] := by
  obtain ⟨value, known⟩ := Option.isSome_iff_exists.1 decimal
  refine ⟨value :: (leadingDigits rest).1, (leadingDigits rest).2, ?_, List.cons_ne_nil _ _⟩
  rw [leadingDigits, known]

theorem exists_of_leadingDigits {chars : List Char} {whole : List Nat} {behind : List Char}
    (read : leadingDigits chars = (whole, behind)) (present : whole ≠ []) :
    ∃ digit rest, chars = digit :: rest ∧ isDecimal digit = true := by
  cases chars with
  | nil =>
      cases read
      exact absurd rfl present
  | cons c rest =>
      refine ⟨c, rest, rfl, ?_⟩
      unfold leadingDigits at read
      split at read
      · rename_i value known
        rw [isDecimal, known]
        rfl
      · cases read
        exact absurd rfl present

theorem isBlank_of_isDecimal {c : Char} (decimal : isDecimal c = true) : isBlank c = false := by
  rw [← Bool.not_eq_true]
  intro blank
  have digit := isDigit_of_isBlank blank
  rw [isDigit, decimal, Bool.true_or] at digit
  cases digit

theorem takeWhile_isBlank {blank : List Char} {negative : Bool} {digit : Char}
    (all : ∀ c ∈ blank, isBlank c = true) (decimal : isDecimal digit = true) (rest : List Char) :
    (blank ++ (signText negative ++ digit :: rest)).takeWhile isBlank = blank ∧
      (blank ++ (signText negative ++ digit :: rest)).dropWhile isBlank =
        signText negative ++ digit :: rest := by
  have solid : isBlank '-' = false := by decide
  rw [List.takeWhile_append_of_pos all, List.dropWhile_append_of_pos all]
  cases negative <;> simp [signText, solid, isBlank_of_isDecimal decimal]

theorem ne_dash_of_isDecimal {c : Char} (decimal : isDecimal c = true) : c ≠ '-' := by
  rintro rfl
  exact absurd decimal (by decide)

theorem numericKey_of_hidesNumber {line : String} (hidden : HidesNumber line) :
    ∃ fault, numericKey line = .error fault := by
  obtain ⟨blank, negative, digit, rest, chars, allBlank, decimal, separator⟩ := hidden
  obtain ⟨taken, dropped⟩ := takeWhile_isBlank allBlank decimal rest
  obtain ⟨whole, behind, read, present⟩ := leadingDigits_of_isDecimal decimal rest
  unfold numericKey
  rw [chars, taken, dropped]
  dsimp only
  split
  · -- No digit would be read only if something else than the sign stood before it.
    rename_i none
    have undigited : (leadingDigits (digit :: rest)).1 = [] := by
      split at none
      · rename_i dashed
        cases negative with
        | true =>
            cases dashed
            exact congrArg Prod.fst none
        | false => exact absurd (List.cons.inj dashed).1 (ne_dash_of_isDecimal decimal)
      · rename_i undashed
        cases negative with
        | true => exact absurd rfl (undashed _)
        | false => exact congrArg Prod.fst none
    rw [read] at undigited
    exact absurd undigited present
  · rw [if_pos (by simpa using separator)]
    exact ⟨_, rfl⟩

/-- The number in front of a line is read unless an ASCII separator stands before it. -/
theorem exists_numericKey_iff {line : String} :
    (∃ number, numericKey line = .ok number) ↔ ¬ HidesNumber line := by
  constructor
  · rintro ⟨number, read⟩ hidden
    obtain ⟨fault, failed⟩ := numericKey_of_hidesNumber hidden
    rw [read] at failed
    cases failed
  · intro plain
    have chars := (List.takeWhile_append_dropWhile (p := isBlank) (l := line.toList)).symm
    have allBlank : ∀ c ∈ line.toList.takeWhile isBlank, isBlank c = true :=
      List.all_eq_true.1 List.all_takeWhile
    unfold numericKey
    dsimp only
    split
    · exact ⟨_, rfl⟩
    · rename_i present read
      split
      · rename_i separator
        have held : ∃ c ∈ line.toList.takeWhile isBlank, 0x1C ≤ c.toNat ∧ c.toNat ≤ 0x1F := by
          simpa using separator
        obtain ⟨digit, rest, unsigned, decimal⟩ := exists_of_leadingDigits read present
        have signed : ∃ negative, line.toList.dropWhile isBlank =
            signText negative ++ digit :: rest := by
          split at unsigned
          · rename_i dashed
            rw [dashed, ← unsigned]
            exact ⟨true, rfl⟩
          · exact ⟨false, unsigned⟩
        obtain ⟨negative, signed⟩ := signed
        rw [signed] at chars
        exact absurd ⟨_, negative, digit, rest, chars, allBlank, decimal, held⟩ plain
      · exact ⟨_, rfl⟩

/-- Lines are sorted by their numbers unless the number of one of them cannot be read. -/
theorem exists_numericallySorted_iff {reversed : Bool} {lines : List String} :
    (∃ sorted, numericallySorted reversed lines = .ok sorted) ↔
      ∀ line ∈ lines, ¬ HidesNumber line := by
  have keyed (line : String) :
      (∃ pair, (do return (← numericKey line, line) : Except Fault (Float × String)) = .ok pair) ↔
        ¬ HidesNumber line := by
    rw [← exists_numericKey_iff]
    constructor
    · rintro ⟨pair, done⟩
      obtain ⟨number, read, -⟩ := exists_of_bind done
      exact ⟨number, read⟩
    · rintro ⟨number, read⟩
      rw [read]
      exact ⟨_, rfl⟩
  simp only [← keyed, ← exists_mapM_iff]
  constructor
  · rintro ⟨sorted, done⟩
    obtain ⟨pairs, read, -⟩ := exists_of_bind done
    exact ⟨pairs, read⟩
  · rintro ⟨pairs, read⟩
    unfold numericallySorted
    rw [read]
    exact ⟨_, rfl⟩

/-! ## Integers -/

/-- The text is as many decimal digits as said, one or more, behind a minus sign or none. -/
def IsWritten (text : String) (count : Nat) : Prop :=
  ∃ negative chars, text.toList = signText negative ++ chars ∧
    (∀ c ∈ chars, isDecimal c = true) ∧ chars.length = count ∧ 0 < count

theorem looksLikeInteger_iff {text : String} :
    looksLikeInteger text = true ↔ ∃ count, IsWritten text count := by
  have written {chars : List Char} :
      (!chars.isEmpty && chars.all isDecimal) = true ↔
        0 < chars.length ∧ ∀ c ∈ chars, isDecimal c = true := by
    simp [List.length_pos_iff]
  unfold looksLikeInteger
  constructor
  · intro looks
    split at looks
    · rename_i rest dashed
      obtain ⟨filled, decimals⟩ := written.1 looks
      exact ⟨_, true, rest, dashed, decimals, rfl, filled⟩
    · obtain ⟨filled, decimals⟩ := written.1 looks
      exact ⟨_, false, text.toList, rfl, decimals, rfl, filled⟩
  · rintro ⟨count, negative, chars, spelled, decimals, rfl, filled⟩
    rw [spelled]
    cases negative with
    | true => exact written.2 ⟨filled, decimals⟩
    | false =>
        split
        · rename_i rest dashed
          replace dashed : chars = '-' :: rest := dashed
          rw [dashed] at decimals
          exact absurd rfl (ne_dash_of_isDecimal (decimals '-' List.mem_cons_self))
        · exact written.2 ⟨filled, decimals⟩

theorem exists_readInteger_iff_of_isWritten {text : String} {count : Nat}
    (written : IsWritten text count) :
    (∃ value, readInteger text = .ok value) ↔ count ≤ maximumDigits := by
  obtain ⟨negative, chars, spelled, decimals, rfl, filled⟩ := written
  obtain ⟨digits, read⟩ := exists_digitsOf?_iff.2 decimals
  have length := length_of_digitsOf? read
  have present : digits ≠ [] := by
    rwa [← List.length_pos_iff, length]
  rw [readInteger_of_decimals spelled read present, length]
  split
  · exact iff_of_false nofun (by omega)
  · exact iff_of_true ⟨_, rfl⟩ (by omega)

end VirtualShell.Command
