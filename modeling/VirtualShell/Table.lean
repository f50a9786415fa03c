/-!
Contract: a finite map that remembers in which order its keys were first put in.

Owns:
- `Table`, entries with distinct keys.
- `get?`, `insert`, `erase` and `ofList`, and what each of the first three says
  about the others.

Putting in a key that is there already replaces its value and keeps its place.
-/

namespace VirtualShell

/-- Entries with distinct keys, the oldest key first. -/
structure Table (κ α : Type) where
  entries : List (κ × α)
  distinct : (entries.map Prod.fst).Nodup
deriving Repr

namespace Table

variable {κ α : Type}

instance [DecidableEq κ] [DecidableEq α] : DecidableEq (Table κ α) := fun left right =>
  if same : left.entries = right.entries then
    isTrue (by cases left; cases right; cases same; rfl)
  else isFalse fun equal => same (congrArg entries equal)

/-- The table without entries. -/
def empty : Table κ α := ⟨[], List.nodup_nil⟩

instance : Inhabited (Table κ α) := ⟨empty⟩

/-- The keys, the oldest first. -/
def keys (table : Table κ α) : List κ :=
  table.entries.map Prod.fst

/-- The number of keys. -/
def size (table : Table κ α) : Nat :=
  table.entries.length

/-- Whether there is no key. -/
def isEmpty (table : Table κ α) : Bool :=
  table.entries.isEmpty

variable [DecidableEq κ]

/-- The value of a key among some entries. -/
def lookup (key : κ) : List (κ × α) → Option α
  | [] => none
  | (other, value) :: rest => if other = key then some value else lookup key rest

/-- The value of a key. -/
def get? (table : Table κ α) (key : κ) : Option α :=
  lookup key table.entries

/-- Whether a key is there. -/
def contains (table : Table κ α) (key : κ) : Bool :=
  (table.get? key).isSome

/-- Entries with the value of a key replaced, or with the key put behind them. -/
def insertEntry (key : κ) (value : α) : List (κ × α) → List (κ × α)
  | [] => [(key, value)]
  | (other, old) :: rest =>
      if other = key then (key, value) :: rest else (other, old) :: insertEntry key value rest

/-- Entries without the entry of a key. -/
def eraseEntry (key : κ) : List (κ × α) → List (κ × α)
  | [] => []
  | (other, value) :: rest =>
      if other = key then rest else (other, value) :: eraseEntry key rest

theorem mem_keys_insertEntry {key other : κ} {value : α} {entries : List (κ × α)} :
    other ∈ (insertEntry key value entries).map Prod.fst ↔
      other = key ∨ other ∈ entries.map Prod.fst := by
  induction entries with
  | nil => simp [insertEntry]
  | cons entry rest inductionHypothesis =>
      simp only [insertEntry]
      split
      · rename_i same
        simp [same]
      · simp only [List.map_cons, List.mem_cons, inductionHypothesis]
        grind

theorem nodup_keys_insertEntry {key : κ} {value : α} {entries : List (κ × α)}
    (distinct : (entries.map Prod.fst).Nodup) :
    ((insertEntry key value entries).map Prod.fst).Nodup := by
  induction entries with
  | nil => simp [insertEntry]
  | cons entry rest inductionHypothesis =>
      simp only [List.map_cons, List.nodup_cons] at distinct
      simp only [insertEntry]
      split
      · rename_i same
        simpa [← same] using distinct
      · rename_i different
        simp only [List.map_cons, List.nodup_cons, mem_keys_insertEntry]
        exact ⟨by grind, inductionHypothesis distinct.2⟩

theorem eraseEntry_sublist (key : κ) (entries : List (κ × α)) :
    (eraseEntry key entries).Sublist entries := by
  induction entries with
  | nil => exact List.Sublist.slnil
  | cons entry rest inductionHypothesis =>
      simp only [eraseEntry]
      split
      · exact List.sublist_cons_self _ _
      · exact inductionHypothesis.cons_cons _

/-- The table in which `key` has `value`. -/
def insert (table : Table κ α) (key : κ) (value : α) : Table κ α :=
  ⟨insertEntry key value table.entries, nodup_keys_insertEntry table.distinct⟩

/-- The table without `key`. -/
def erase (table : Table κ α) (key : κ) : Table κ α :=
  ⟨eraseEntry key table.entries,
    table.distinct.sublist ((eraseEntry_sublist key table.entries).map Prod.fst)⟩

/-- The table in which `key` has `value`, or is not there if `value` is absent. -/
def restore (table : Table κ α) (key : κ) (value : Option α) : Table κ α :=
  match value with
  | some value => table.insert key value
  | none => table.erase key

/-- The table that some entries make when they are put in from left to right. -/
def ofList (entries : List (κ × α)) : Table κ α :=
  entries.foldl (fun table (key, value) => table.insert key value) empty

/-- The table without any of `keys`. -/
def eraseAll (table : Table κ α) (keys : List κ) : Table κ α :=
  keys.foldl erase table

theorem lookup_insertEntry (key other : κ) (value : α) (entries : List (κ × α)) :
    lookup other (insertEntry key value entries) =
      if key = other then some value else lookup other entries := by
  induction entries with
  | nil => simp [insertEntry, lookup]
  | cons entry rest inductionHypothesis =>
      simp only [insertEntry]
      split
      · simp only [lookup]
        grind
      · simp only [lookup, inductionHypothesis]
        grind

theorem lookup_eq_none_iff {key : κ} {entries : List (κ × α)} :
    lookup key entries = none ↔ key ∉ entries.map Prod.fst := by
  induction entries with
  | nil => simp [lookup]
  | cons entry rest inductionHypothesis =>
      simp only [lookup]
      split
      · rename_i same
        simp [same]
      · rename_i different
        simp only [inductionHypothesis, List.map_cons, List.mem_cons, not_or]
        exact ⟨fun absent => ⟨fun same => different same.symm, absent⟩, fun absent => absent.2⟩

theorem lookup_eraseEntry {key other : κ} {entries : List (κ × α)}
    (distinct : (entries.map Prod.fst).Nodup) :
    lookup other (eraseEntry key entries) =
      if key = other then none else lookup other entries := by
  induction entries with
  | nil => simp [eraseEntry, lookup]
  | cons entry rest inductionHypothesis =>
      simp only [List.map_cons, List.nodup_cons] at distinct
      simp only [eraseEntry]
      split
      · rename_i same
        split
        · rename_i equal
          exact lookup_eq_none_iff.2 (by rw [← equal, ← same]; exact distinct.1)
        · simp only [lookup]
          grind
      · simp only [lookup, inductionHypothesis distinct.2]
        grind

theorem get?_insert (table : Table κ α) (key other : κ) (value : α) :
    (table.insert key value).get? other = if key = other then some value else table.get? other :=
  lookup_insertEntry key other value table.entries

theorem get?_erase (table : Table κ α) (key other : κ) :
    (table.erase key).get? other = if key = other then none else table.get? other :=
  lookup_eraseEntry table.distinct

theorem get?_eq_none_iff {table : Table κ α} {key : κ} :
    table.get? key = none ↔ key ∉ table.keys :=
  lookup_eq_none_iff

end Table

end VirtualShell
