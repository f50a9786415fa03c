import Mathlib.Data.List.Pairwise
import VirtualShell.Text.Case

/-!
Contract: what the tables of upper and lower case have in common.

Owns:
- `lowerCode_eq` and `upperCode_eq`: the row that has a code point says where it goes;
- `mem_lowerCaseSources`: the sources of a code point are those that it is the lower-case form of;
- `isCasedCode_lowerCode` and `isCasedCode_of_mem_caseTwins`: a code point that others are compared
  with by case has two cases itself;
- `isValidChar_lowerCode`: the lower-case form of a character is a character.
-/

namespace VirtualShell.Text

variable {row : Nat × Nat × Nat × Nat} {rows : List (Nat × Nat × Nat × Nat)} {code other : Nat}

/-! ## Rows -/

/-- The row says where the code point goes. -/
def rowHas (row : Nat × Nat × Nat × Nat) (code : Nat) : Bool :=
  row.1 ≤ code && code ≤ row.2.1 && (code - row.1) % row.2.2.1 == 0

theorem rowHas_iff :
    rowHas row code = true ↔
      row.1 ≤ code ∧ code ≤ row.2.1 ∧ (code - row.1) % row.2.2.1 = 0 := by
  rw [rowHas, Bool.and_eq_true, Bool.and_eq_true, decide_eq_true_iff, decide_eq_true_iff,
    beq_iff_eq, and_assoc]

/-- Each row ends before the next one starts. -/
def AreApart (rows : List (Nat × Nat × Nat × Nat)) : Prop :=
  rows.Pairwise fun row next => row.2.1 < next.1

/-- It is enough to look at each row and the next one. -/
theorem areApart_of_isChain
    (chain : rows.IsChain fun row next => row.2.1 < next.1 ∧ next.1 ≤ next.2.1) :
    AreApart rows := by
  have : IsTrans (Nat × Nat × Nat × Nat) fun row next =>
      row.2.1 < next.1 ∧ next.1 ≤ next.2.1 :=
    ⟨fun _ _ _ first second =>
      ⟨Nat.lt_trans (Nat.lt_of_lt_of_le first.1 first.2) second.1, second.2⟩⟩
  exact (List.isChain_iff_pairwise.1 chain).imp And.left

theorem areApart_lowerCaseRows : AreApart lowerCaseRows :=
  areApart_of_isChain (by decide +kernel)

theorem areApart_upperCaseRows : AreApart upperCaseRows :=
  areApart_of_isChain (by decide +kernel)

/-- Of rows that are apart one at most has a code point. -/
theorem AreApart.eq (apart : AreApart rows) {same : Nat × Nat × Nat × Nat} (member : row ∈ rows)
    (also : same ∈ rows) (has : rowHas row code = true) (hasToo : rowHas same code = true) :
    row = same := by
  obtain ⟨start, stop, -⟩ := rowHas_iff.1 has
  obtain ⟨first, last, -⟩ := rowHas_iff.1 hasToo
  induction rows with
  | nil => cases member
  | cons front rows inductionHypothesis =>
      obtain ⟨ahead, apart⟩ := List.pairwise_cons.1 apart
      rcases List.mem_cons.1 member with rfl | member
      · rcases List.mem_cons.1 also with rfl | also
        · rfl
        · have before := ahead same also
          omega
      · rcases List.mem_cons.1 also with rfl | also
        · have before := ahead row ‹row ∈ rows›
          omega
        · exact inductionHypothesis apart member also

theorem mapCase_def (rows : List (Nat × Nat × Nat × Nat)) (code : Nat) :
    mapCase rows code =
      (rows.find? fun row => rowHas row code).elim code
        fun row => row.2.2.2 + (code - row.1) := by
  unfold mapCase
  split
  · rename_i first last step image found
    have found : (rows.find? fun row => rowHas row code) = some (first, last, step, image) := found
    rw [found]
    rfl
  · rename_i missing
    have missing : (rows.find? fun row => rowHas row code) = none := missing
    rw [missing]
    rfl

theorem mapCase_eq (apart : AreApart rows) (member : row ∈ rows) (has : rowHas row code = true) :
    mapCase rows code = row.2.2.2 + (code - row.1) := by
  rw [mapCase_def]
  cases found : rows.find? fun row => rowHas row code with
  | none => exact absurd has (List.find?_eq_none.1 found row member)
  | some same =>
      have hasToo := List.find?_some found
      rw [apart.eq member (List.mem_of_find?_eq_some found) has hasToo]
      rfl

theorem mapCase_of_none (none : ∀ row ∈ rows, rowHas row code = false) :
    mapCase rows code = code := by
  rw [mapCase_def, List.find?_eq_none.2 fun row member => by simp [none row member],
    Option.elim_none]

/-- A code point that a table changes is in a row of it. -/
theorem exists_row_of_mapCase_ne (changed : mapCase rows code ≠ code) :
    ∃ row ∈ rows, rowHas row code = true := by
  by_contra none
  refine changed (mapCase_of_none fun row member => ?_)
  exact Bool.eq_false_iff.2 fun has => none ⟨row, member, has⟩

/-- Below the code point 128 no row but one has code points. -/
theorem rowHas_eq_false_of_ascii {only : Nat × Nat × Nat × Nat} (ascii : code < 0x80)
    (others : rows.all (fun row => row == only || 0x80 ≤ row.1) = true)
    (without : rowHas only code = false) : ∀ row ∈ rows, rowHas row code = false := by
  intro row member
  have placed := List.all_eq_true.1 others row member
  rw [Bool.or_eq_true, beq_iff_eq, decide_eq_true_iff] at placed
  rcases placed with rfl | beyond
  · exact without
  · refine Bool.eq_false_iff.2 fun has => ?_
    have start := (rowHas_iff.1 has).1
    omega

/-- The table also says where the first 128 code points go. -/
theorem lowerCode_eq (code : Nat) : lowerCode code = mapCase lowerCaseRows code := by
  unfold lowerCode
  split
  · rename_i ascii
    have placed : lowerCaseRows.all (fun row => row == (0x41, 0x5A, 1, 0x61) || 0x80 ≤ row.1) =
        true := by decide +kernel
    split
    · rename_i upper
      rw [Bool.and_eq_true, decide_eq_true_iff, decide_eq_true_iff] at upper
      have has : rowHas (0x41, 0x5A, 1, 0x61) code = true :=
        rowHas_iff.2 ⟨upper.1, upper.2, Nat.mod_one _⟩
      rw [mapCase_eq areApart_lowerCaseRows List.mem_cons_self has]
      show code + 0x20 = 0x61 + (code - 0x41)
      omega
    · rename_i other
      refine (mapCase_of_none (rowHas_eq_false_of_ascii ascii placed ?_)).symm
      rw [rowHas, Bool.eq_false_iff.2 other, Bool.false_and]
  · rfl

theorem upperCode_eq (code : Nat) : upperCode code = mapCase upperCaseRows code := by
  unfold upperCode
  split
  · rename_i ascii
    have placed : upperCaseRows.all (fun row => row == (0x61, 0x7A, 1, 0x41) || 0x80 ≤ row.1) =
        true := by decide +kernel
    split
    · rename_i lower
      rw [Bool.and_eq_true, decide_eq_true_iff, decide_eq_true_iff] at lower
      have has : rowHas (0x61, 0x7A, 1, 0x41) code = true :=
        rowHas_iff.2 ⟨lower.1, lower.2, Nat.mod_one _⟩
      rw [mapCase_eq areApart_upperCaseRows List.mem_cons_self has]
      show code - 0x20 = 0x41 + (code - 0x61)
      omega
    · rename_i other
      refine (mapCase_of_none (rowHas_eq_false_of_ascii ascii placed ?_)).symm
      rw [rowHas, Bool.eq_false_iff.2 other, Bool.false_and]
  · rfl

/-! ## Sources -/

/-- The code point of a row that the row leads to another one, if it has one. -/
def sourceIn? (code : Nat) (row : Nat × Nat × Nat × Nat) : Option Nat :=
  if row.2.2.2 ≤ code && row.1 + (code - row.2.2.2) ≤ row.2.1 &&
      (code - row.2.2.2) % row.2.2.1 == 0 then some (row.1 + (code - row.2.2.2))
  else none

theorem sourceIn?_eq_some_iff {source : Nat} :
    sourceIn? code row = some source ↔
      rowHas row source = true ∧ row.2.2.2 + (source - row.1) = code := by
  rw [sourceIn?, rowHas_iff, Option.ite_none_right_eq_some, Option.some_inj, Bool.and_eq_true,
    Bool.and_eq_true, decide_eq_true_iff, decide_eq_true_iff, beq_iff_eq]
  constructor
  · rintro ⟨⟨⟨image, stop⟩, step⟩, rfl⟩
    refine ⟨⟨Nat.le_add_right _ _, stop, ?_⟩, ?_⟩
    · rwa [Nat.add_sub_cancel_left]
    · omega
  · rintro ⟨⟨start, stop, step⟩, rfl⟩
    rw [Nat.add_sub_cancel_left]
    exact ⟨⟨⟨Nat.le_add_right _ _, by omega⟩, step⟩, by omega⟩

theorem mem_lowerCaseSources_iff_row {source : Nat} :
    source ∈ lowerCaseSources code ↔
      source = code ∧ lowerCode code = code ∨
        ∃ row ∈ lowerCaseRows, rowHas row source = true ∧
          row.2.2.2 + (source - row.1) = code := by
  have shape : lowerCaseSources code =
      if lowerCode code == code then code :: lowerCaseRows.filterMap (sourceIn? code)
      else lowerCaseRows.filterMap (sourceIn? code) := rfl
  simp only [← sourceIn?_eq_some_iff, ← List.mem_filterMap]
  rw [shape]
  split
  · rename_i own
    rw [List.mem_cons, and_iff_left (beq_iff_eq.1 own)]
  · rename_i other
    rw [beq_iff_eq] at other
    simp [other]

theorem mem_lowerCaseSources {source : Nat} :
    source ∈ lowerCaseSources code ↔ lowerCode source = code := by
  rw [mem_lowerCaseSources_iff_row]
  constructor
  · rintro (⟨rfl, own⟩ | ⟨row, member, has, rfl⟩)
    · exact own
    · rw [lowerCode_eq, mapCase_eq areApart_lowerCaseRows member has]
  · intro lowered
    by_cases own : source = code
    · exact .inl ⟨own, own ▸ lowered⟩
    · rw [lowerCode_eq] at lowered
      obtain ⟨row, member, has⟩ := exists_row_of_mapCase_ne (lowered.trans_ne (Ne.symm own))
      rw [mapCase_eq areApart_lowerCaseRows member has] at lowered
      exact .inr ⟨row, member, has, lowered⟩

/-! ## Code points with two cases -/

/-- A row of upper case changes the code point. -/
def hasUpperCase (code : Nat) : Bool :=
  upperCaseRows.any fun row => rowHas row code && row.1 != row.2.2.2

theorem isCasedCode_of_hasUpperCase (has : hasUpperCase code = true) :
    isCasedCode code = true := by
  obtain ⟨row, member, has⟩ := List.any_eq_true.1 has
  rw [Bool.and_eq_true, bne_iff_ne] at has
  obtain ⟨inside, moved⟩ := has
  have start := (rowHas_iff.1 inside).1
  have other : upperCode code ≠ code := by
    rw [upperCode_eq, mapCase_eq areApart_upperCaseRows member inside]
    omega
  exact Bool.or_eq_true_iff.2 (.inr (bne_iff_ne.2 other))

theorem isCasedCode_of_mem_caseTwins {twin : Nat} (member : twin ∈ caseTwins code) :
    isCasedCode twin = true := by
  have each : caseTwinRows.all (fun row => row.2.all hasUpperCase) = true := by decide +kernel
  unfold caseTwins at member
  cases found : caseTwinRows.find? (fun row => row.1 == code) with
  | none =>
      rw [found] at member
      cases member
  | some row =>
      rw [found] at member
      have inside := List.all_eq_true.1 each row (List.mem_of_find?_eq_some found)
      exact isCasedCode_of_hasUpperCase (List.all_eq_true.1 inside twin member)

/-- All code points that a row of lower case leads to are in one row of upper case, which changes
them. -/
def isWithin (row upper : Nat × Nat × Nat × Nat) : Bool :=
  -- Most rows end too early: this comes first, so that the search through them is short.
  row.2.2.2 + (row.2.1 - row.1) ≤ upper.2.1 &&
    (upper.1 ≤ row.2.2.2 && (row.2.2.2 - upper.1) % upper.2.2.1 == 0 &&
      row.2.2.1 % upper.2.2.1 == 0 && upper.1 != upper.2.2.2)

theorem hasUpperCase_of_isWithin {upper : Nat × Nat × Nat × Nat} (member : upper ∈ upperCaseRows)
    (within : isWithin row upper = true) (has : rowHas row code = true) :
    hasUpperCase (row.2.2.2 + (code - row.1)) = true := by
  simp only [isWithin, Bool.and_eq_true, decide_eq_true_iff, beq_iff_eq, bne_iff_ne] at within
  obtain ⟨stop, ⟨⟨start, aligned⟩, stepped⟩, moved⟩ := within
  obtain ⟨first, last, step⟩ := rowHas_iff.1 has
  refine List.any_eq_true.2 ⟨upper, member, Bool.and_eq_true_iff.2 ⟨rowHas_iff.2 ⟨?_, ?_, ?_⟩,
    bne_iff_ne.2 moved⟩⟩
  · omega
  · omega
  · have further : (code - row.1) % upper.2.2.1 = 0 :=
      Nat.mod_eq_zero_of_dvd
        (Nat.dvd_trans (Nat.dvd_of_mod_eq_zero stepped) (Nat.dvd_of_mod_eq_zero step))
    rw [Nat.sub_add_comm start, Nat.add_mod, aligned, further, Nat.add_zero, Nat.zero_mod]

/-- The code points that a row of lower case leads to have an upper case, one by one. -/
def leadsToCased (row : Nat × Nat × Nat × Nat) : Bool :=
  (List.range (row.2.1 - row.1 + 1)).all fun distance =>
    distance % row.2.2.1 != 0 || hasUpperCase (row.2.2.2 + distance)

/-- What is the lower-case form of another code point has two cases. -/
theorem isCasedCode_lowerCode (changed : lowerCode code ≠ code) :
    isCasedCode (lowerCode code) = true := by
  have each : lowerCaseRows.all (fun row =>
      upperCaseRows.any (isWithin row) || leadsToCased row) = true := by decide +kernel
  rw [lowerCode_eq] at changed ⊢
  obtain ⟨row, member, has⟩ := exists_row_of_mapCase_ne changed
  rw [mapCase_eq areApart_lowerCaseRows member has]
  refine isCasedCode_of_hasUpperCase ?_
  rcases Bool.or_eq_true_iff.1 (List.all_eq_true.1 each row member) with together | apart
  · obtain ⟨upper, inside, within⟩ := List.any_eq_true.1 together
    exact hasUpperCase_of_isWithin inside within has
  · obtain ⟨first, last, step⟩ := rowHas_iff.1 has
    have one := List.all_eq_true.1 apart (code - row.1) (List.mem_range.2 (by omega))
    simpa [step] using one

theorem isValidChar_lowerCode (c : Char) : (lowerCode c.toNat).isValidChar := by
  have each : lowerCaseRows.all (fun row =>
      row.2.2.2 + (row.2.1 - row.1) < 0xD800 ||
        (0xDFFF < row.2.2.2 && row.2.2.2 + (row.2.1 - row.1) < 0x110000)) = true := by decide
  by_cases own : lowerCode c.toNat = c.toNat
  · rw [own]
    exact c.valid
  · rw [lowerCode_eq] at own ⊢
    obtain ⟨row, member, has⟩ := exists_row_of_mapCase_ne own
    obtain ⟨first, last, -⟩ := rowHas_iff.1 has
    have placed := List.all_eq_true.1 each row member
    rw [Bool.or_eq_true, Bool.and_eq_true, decide_eq_true_iff, decide_eq_true_iff,
      decide_eq_true_iff] at placed
    rw [mapCase_eq areApart_lowerCaseRows member has]
    rcases placed with low | ⟨high, most⟩
    · exact .inl (by omega)
    · exact .inr ⟨by omega, by omega⟩

end VirtualShell.Text
