import VirtualShell.Table

/-!
Contract: what a table says about its keys and entries.

Owns:
- membership of keys and of entries in terms of `get?`;
- what `eraseAll` leaves, and that `insert` takes no entry away.
-/

namespace VirtualShell.Table

variable {κ α : Type} [DecidableEq κ]

theorem get?_empty (key : κ) : (empty : Table κ α).get? key = none :=
  rfl

theorem mem_keys_iff {table : Table κ α} {key : κ} :
    key ∈ table.keys ↔ (table.get? key).isSome := by
  rw [Option.isSome_iff_ne_none, Ne, get?_eq_none_iff, Classical.not_not]

theorem lookup_eq_some_iff {entries : List (κ × α)} (distinct : (entries.map Prod.fst).Nodup)
    {key : κ} {value : α} : lookup key entries = some value ↔ (key, value) ∈ entries := by
  induction entries with
  | nil => simp [lookup]
  | cons entry rest inductionHypothesis =>
      rcases entry with ⟨other, old⟩
      rw [List.map_cons, List.nodup_cons] at distinct
      simp only [lookup]
      split
      · rename_i same
        have later : (key, value) ∉ rest := fun member =>
          distinct.1 (same ▸ List.mem_map.2 ⟨(key, value), member, rfl⟩)
        rw [List.mem_cons, Option.some.injEq]
        constructor
        · intro equal
          exact .inl (by rw [same, equal])
        · intro member
          rcases member with first | later'
          · exact (Prod.mk.inj first).2.symm
          · exact absurd later' later
      · rename_i different
        rw [inductionHypothesis distinct.2, List.mem_cons]
        constructor
        · exact .inr
        · intro member
          rcases member with first | later
          · exact absurd (Prod.mk.inj first).1.symm different
          · exact later

theorem mem_entries_iff {table : Table κ α} {key : κ} {value : α} :
    (key, value) ∈ table.entries ↔ table.get? key = some value :=
  (lookup_eq_some_iff table.distinct).symm

theorem mem_values_iff {table : Table κ α} {value : α} :
    value ∈ table.entries.map Prod.snd ↔ ∃ key, table.get? key = some value := by
  constructor
  · intro member
    rcases List.mem_map.1 member with ⟨⟨key, value⟩, present, rfl⟩
    exact ⟨key, mem_entries_iff.1 present⟩
  · rintro ⟨key, found⟩
    exact List.mem_map.2 ⟨(key, value), mem_entries_iff.2 found, rfl⟩

/-- Taking keys out leaves the values of all other keys. -/
theorem get?_eraseAll (table : Table κ α) (keys : List κ) (other : κ) :
    (table.eraseAll keys).get? other = if other ∈ keys then none else table.get? other := by
  induction keys generalizing table with
  | nil => simp [eraseAll]
  | cons key keys inductionHypothesis =>
      have rest : ((table.erase key).eraseAll keys).get? other = _ :=
        inductionHypothesis (table.erase key)
      show ((table.erase key).eraseAll keys).get? other = _
      rw [rest, get?_erase]
      by_cases same : key = other
      · simp [same]
      · simp [same, Ne.symm same]

theorem length_le_length_insertEntry (key : κ) (value : α) (entries : List (κ × α)) :
    entries.length ≤ (insertEntry key value entries).length := by
  induction entries with
  | nil => exact Nat.zero_le _
  | cons entry rest inductionHypothesis =>
      simp only [insertEntry]
      split
      · exact Nat.le_refl _
      · exact Nat.succ_le_succ inductionHypothesis

theorem size_le_size_insert (table : Table κ α) (key : κ) (value : α) :
    table.size ≤ (table.insert key value).size :=
  length_le_length_insertEntry key value table.entries

end VirtualShell.Table
