import VirtualShell.Proofs.Regex.Condensing
import VirtualShell.Proofs.Text.Case

/-!
Contract: sets of characters whose case is ignored, in the basic plane.

Owns:
- `contains_of_isBasic`: a set of code points and ranges of the basic plane holds a character just
  if the lower-case form of it is among the forms of what one of the items describes, whether the
  set is looked up by that form or not;
- `mergesAsIs_of_isBasic`: alternatives that are such sets become a set that holds the same.

Beyond the basic plane this fails: of several code points one beyond it is compared as it is
written, and an upper-case letter never is its own lower-case form.
-/

namespace VirtualShell.Regex

open VirtualShell.Text

variable {c : Char} {code : Nat} {item : SetItem} {set : CharSet}

/-! ## Forms -/

/-- A character in the form in which it is looked up where case is ignored. -/
def folded (c : Char) : Char :=
  Char.ofNat (CaseRule.unicode.lower c.toNat)

theorem toNat_folded (c : Char) : (folded c).toNat = lowerCode c.toNat := by
  have valid : (CaseRule.unicode.lower c.toNat).isValidChar := isValidChar_lowerCode c
  rw [folded, Char.ofNat, dif_pos valid]
  rfl

theorem mem_sources {source : Nat} :
    source ∈ CaseRule.unicode.sources code ↔
      lowerCode source = code ∨ lowerCode source ∈ caseTwins code := by
  unfold CaseRule.sources
  rw [List.mem_append, List.mem_flatMap, mem_lowerCaseSources]
  simp only [mem_lowerCaseSources, exists_eq_right']

theorem self_mem_sources : code ∈ CaseRule.unicode.sources (lowerCode code) :=
  mem_sources.2 (.inl rfl)

/-- A code point with one case compares equal to itself only. -/
theorem eq_of_mem_sources {source : Nat} (single : isCasedCode source = false)
    (member : source ∈ CaseRule.unicode.sources (lowerCode code)) : source = code := by
  have own : lowerCode source = source := by
    by_contra changed
    exact absurd single (by simp [isCasedCode, changed])
  rcases mem_sources.1 member with same | twin
  · by_contra other
    rw [own] at same
    have changed : lowerCode code ≠ code := fun lowered => other (same.trans lowered)
    rw [same, isCasedCode_lowerCode changed] at single
    cases single
  · rw [own] at twin
    rw [isCasedCode_of_mem_caseTwins twin] at single
    cases single

/-! ## Ranges -/

/-- The least code point of a row that is not below a range is not above one of the row that is
in it. -/
theorem next_le {start first step code : Nat} (above : start ≤ code) (inside : first ≤ code)
    (aligned : (code - start) % step = 0) :
    (if start < first then start + (first - start + step - 1) / step * step else start) ≤ code := by
  split
  · rename_i below
    obtain ⟨count, counted⟩ := Nat.dvd_of_mod_eq_zero aligned
    have positive : 0 < step := by
      rcases Nat.eq_zero_or_pos step with rfl | positive
      · omega
      · exact positive
    have few : (first - start + step - 1) / step < count + 1 := by
      rw [Nat.div_lt_iff_lt_mul positive, Nat.add_mul, Nat.mul_comm count]
      omega
    have bounded : (first - start + step - 1) / step * step ≤ count * step :=
      Nat.mul_le_mul_right step (Nat.le_of_lt_succ few)
    rw [Nat.mul_comm count] at bounded
    omega
  · exact above

/-- In a range without cased code points none is cased. -/
theorem isCasedCode_eq_false {first last : Nat}
    (single : CaseRule.unicode.isCasedRange first last = false) (above : first ≤ code)
    (below : code ≤ last) : isCasedCode code = false := by
  unfold CaseRule.isCasedRange at single
  dsimp only at single
  rw [Bool.or_eq_false_iff, List.any_eq_false, List.any_eq_false] at single
  obtain ⟨lower, upper⟩ := single
  have met {row : Nat × Nat × Nat × Nat} (has : rowHas row code = true) :
      (if row.1 < first then row.1 + (first - row.1 + row.2.2.1 - 1) / row.2.2.1 * row.2.2.1
        else row.1) ≤ code ∧ code ≤ row.2.1 := by
    obtain ⟨start, stop, aligned⟩ := rowHas_iff.1 has
    exact ⟨next_le start above aligned, stop⟩
  by_contra cased
  rw [Bool.not_eq_false, isCasedCode, Bool.or_eq_true, bne_iff_ne, bne_iff_ne, lowerCode_eq,
    upperCode_eq] at cased
  rcases cased with changed | changed
  · obtain ⟨row, member, has⟩ := exists_row_of_mapCase_ne changed
    obtain ⟨next, stop⟩ := met has
    exact lower row member (Bool.and_eq_true_iff.2
      ⟨decide_eq_true (Nat.le_trans next stop), decide_eq_true (Nat.le_trans next below)⟩)
  · obtain ⟨row, member, has⟩ := exists_row_of_mapCase_ne changed
    obtain ⟨next, stop⟩ := met has
    exact upper row member (Bool.and_eq_true_iff.2
      ⟨decide_eq_true (Nat.le_trans next stop), decide_eq_true (Nat.le_trans next below)⟩)

/-! ## Sets -/

/-- A code point or a range of the basic plane. -/
def SetItem.isBasic : SetItem → Bool
  | .code value => value ≤ 0xFFFF
  | .range _ last => last ≤ 0xFFFF
  | .category _ _ _ => false

/-- A set of code points and ranges of the basic plane whose case is ignored. -/
def CharSet.isBasic (set : CharSet) : Bool :=
  set.caseRule == .unicode && set.items.all SetItem.isBasic

/-- An item that is not folded describes a character just if it describes its lower-case form. -/
theorem contains_of_needsFolding (basic : item.isBasic = true)
    (single : item.needsFolding .unicode = false) :
    item.contains c = item.containsFolded .unicode (folded c) := by
  cases item with
  | code value =>
      have least : ¬ 0xFFFF < value := Nat.not_lt.2 (of_decide_eq_true basic)
      have uncased : isCasedCode value = false := (Bool.or_eq_false_iff.1 single).2
      rw [SetItem.contains, SetItem.containsFolded, if_neg least, toNat_folded, Bool.eq_iff_iff,
        beq_iff_eq, List.contains_iff_mem]
      constructor
      · rintro rfl
        exact self_mem_sources
      · exact fun member => (eq_of_mem_sources uncased member).symm
  | range first last =>
      have most : last ≤ 0xFFFF := of_decide_eq_true basic
      have uncased := (Bool.or_eq_false_iff.1 single).2
      have low : decide (0xFFFF < last) = false := decide_eq_false (Nat.not_lt.2 most)
      rw [SetItem.contains, SetItem.containsFolded, low, Bool.false_and, Bool.or_false,
        toNat_folded, Bool.eq_iff_iff, List.any_eq_true]
      simp only [Bool.and_eq_true, decide_eq_true_iff]
      constructor
      · rintro ⟨above, below⟩
        exact ⟨c.toNat, self_mem_sources, ⟨Nat.le_trans below most, above⟩, below⟩
      · rintro ⟨source, member, ⟨-, above⟩, below⟩
        have same := eq_of_mem_sources (isCasedCode_eq_false uncased above below) member
        exact same ▸ ⟨above, below⟩
  | category => cases basic

/-- A single code point with two cases is looked up by its lower-case form like one of several. -/
theorem contains_of_isCased (basic : code ≤ 0xFFFF) :
    ((CaseRule.unicode.sources (CaseRule.unicode.lower c.toNat)).any fun source =>
        CaseRule.unicode.lower source == CaseRule.unicode.lower code) =
      SetItem.containsFolded .unicode (folded c) (.code code) := by
  rw [SetItem.containsFolded, if_neg (Nat.not_lt.2 basic), toNat_folded, Bool.eq_iff_iff,
    List.any_eq_true, List.contains_iff_mem]
  constructor
  · rintro ⟨source, member, same⟩
    have lowered : lowerCode source = lowerCode code := beq_iff_eq.1 same
    exact mem_sources.2 (lowered ▸ mem_sources.1 member)
  · exact fun member => ⟨code, member, beq_self_eq_true _⟩

theorem containsItem_of_isBasic {items : List SetItem}
    (basic : items.all SetItem.isBasic = true) :
    containsItem .unicode items c =
      items.any (SetItem.containsFolded .unicode (folded c)) := by
  unfold containsItem
  split
  · rename_i exact
    cases exact
  · rename_i code _
    have inPlane : (SetItem.code code).isBasic = true :=
      List.all_eq_true.1 basic _ List.mem_cons_self
    rw [List.any_cons, List.any_nil, Bool.or_false]
    split
    · exact contains_of_isCased (of_decide_eq_true inPlane)
    · rename_i uncased
      have low : decide (0xFFFF < code) = false :=
        decide_eq_false (Nat.not_lt.2 (of_decide_eq_true inPlane))
      exact contains_of_needsFolding inPlane
        (Bool.or_eq_false_iff.2 ⟨low, Bool.eq_false_iff.2 uncased⟩)
  · split
    · rfl
    · rename_i single
      rw [Bool.not_eq_true, List.any_eq_false] at single
      rw [Bool.eq_iff_iff, List.any_eq_true, List.any_eq_true]
      refine exists_congr fun item => and_congr_right fun member => ?_
      rw [contains_of_needsFolding (List.all_eq_true.1 basic item member)
        (Bool.eq_false_iff.2 (single item member))]

/-- What a set holds is told by its items, each for itself. -/
theorem contains_of_isBasic (basic : set.isBasic = true) (positive : set.negated = false) :
    set.contains c = set.items.any (SetItem.containsFolded .unicode (folded c)) := by
  obtain ⟨rule, items⟩ := Bool.and_eq_true_iff.1 basic
  unfold CharSet.contains
  rw [beq_iff_eq.1 rule, positive, Bool.bne_false, containsItem_of_isBasic items]

/-! ## Alternatives -/

/-- A piece that is a set is one of the basic plane. -/
def Pattern.isBasic : Pattern → Bool
  | .one set => set.isBasic
  | _ => true

theorem isBasic_union {sets : List CharSet} (present : sets ≠ [])
    (basic : ∀ set ∈ sets, set.isBasic = true) : (CharSet.union sets).isBasic = true := by
  have each (set : CharSet) (member : set ∈ sets) := Bool.and_eq_true_iff.1 (basic set member)
  refine Bool.and_eq_true_iff.2 ⟨beq_iff_eq.2 (caseRule_union present fun set member =>
    beq_iff_eq.1 (each set member).1), List.all_eq_true.2 fun item member => ?_⟩
  obtain ⟨set, among, inside⟩ := List.mem_flatMap.1 (List.mem_eraseDups.1 member)
  exact List.all_eq_true.1 (each set among).2 item inside

/-- Alternatives whose sets are of the basic plane become a set that holds what they hold. -/
theorem mergesAsIs_of_isBasic {alternatives : List (List Pattern)}
    (basic : alternatives.all (·.all Pattern.isBasic) = true) : MergesAsIs alternatives := by
  intro sets merged c
  obtain ⟨present, each⟩ := exists_branch_of_mergedSets? merged
  have inPlane : ∀ set ∈ sets, set.isBasic = true := by
    intro set member
    obtain ⟨-, branch, inside, last⟩ := each set member
    exact List.all_eq_true.1 (List.all_eq_true.1 basic branch inside) _ (List.mem_of_getLast? last)
  exact contains_union
    (fun set member => contains_of_isBasic (inPlane set member) (each set member).1)
    (contains_of_isBasic (isBasic_union present inPlane) rfl)

end VirtualShell.Regex
