import VirtualShell.Regex.Match

/-!
Contract: what a search through a text finds, said without the search.

Owns:
- `Finds`, what has to be behind a place for a search from there to succeed;
- `Takes`, what a pattern takes from the front of that, whatever follows the pattern;
- what sets of characters, their repetitions and patterns in order take, and what a look ahead
  and the end of a text ask for.

Captures play no part in it: the patterns here capture nothing.
-/

namespace VirtualShell.Regex

/-- From a place the search reaches an end just if what is behind the place fits. -/
def Finds (search : Follow) (fits : List Char → Prop) : Prop :=
  ∀ place, (search place).isSome = true ↔ fits place.after

/-- A search for the pattern and for what follows it reaches an end just if the pattern can be
given some of the text, and what follows it the rest. -/
def Takes (pattern : Pattern) (takes : List Char → Prop) : Prop :=
  ∀ ⦃follow : Follow⦄ ⦃fits : List Char → Prop⦄, Finds follow fits →
    Finds (pattern.run follow) fun text =>
      ∃ front back, text = front ++ back ∧ takes front ∧ fits back

variable {follow : Follow} {fits takes : List Char → Prop} {pattern : Pattern}

theorem Finds.congr {others : List Char → Prop} (finds : Finds follow fits)
    (same : ∀ text, fits text ↔ others text) : Finds follow others :=
  fun place => (finds place).trans (same place.after)

theorem Takes.congr {others : List Char → Prop} (given : Takes pattern takes)
    (same : ∀ text, takes text ↔ others text) : Takes pattern others := by
  intro follow fits finds
  simpa only [same] using given finds

theorem finds_some : Finds some fun _ => True :=
  fun _ => by simp

/-- A search through a whole text succeeds just if the text fits. -/
theorem Finds.matchesAtStart_iff (finds : Finds (pattern.run some) fits) (text : List Char) :
    pattern.matchesAtStart text = true ↔ fits text :=
  finds (Place.start text)

/-! ## Sets of characters -/

theorem contains_code_iff {c d : Char} :
    CharSet.contains ⟨false, [.code d.toNat], .exact⟩ c = true ↔ c = d := by
  simp [CharSet.contains, containsItem, SetItem.contains, Char.toNat_inj]

theorem contains_notCode_iff {c d : Char} :
    CharSet.contains ⟨true, [.code d.toNat], .exact⟩ c = true ↔ c ≠ d := by
  simp [CharSet.contains, containsItem, SetItem.contains, Char.toNat_inj]

theorem takes_one (set : CharSet) :
    Takes (.one set) fun text => ∃ c, text = [c] ∧ set.contains c = true := by
  rintro follow fits finds ⟨position, before, after, captures⟩
  cases after with
  | nil => simp [Pattern.run, Place.next?]
  | cons c rest =>
      simp only [Pattern.run, Place.next?]
      constructor
      · intro found
        split at found
        · rename_i within
          exact ⟨[c], rest, rfl, ⟨c, rfl, within⟩, (finds _).1 found⟩
        · cases found
      · rintro ⟨_, back, split, ⟨d, rfl, within⟩, fit⟩
        cases split
        rw [if_pos within]
        exact (finds _).2 fit

/-- Some characters of a kind in front are none at all, or the first one and some behind it. -/
theorem exists_front_cons_iff {kind : Char → Prop} {c : Char} {rest : List Char} :
    (∃ front back, c :: rest = front ++ back ∧ (∀ d ∈ front, kind d) ∧ fits back) ↔
      fits (c :: rest) ∨
        kind c ∧ ∃ front back, rest = front ++ back ∧ (∀ d ∈ front, kind d) ∧ fits back := by
  constructor
  · rintro ⟨front, back, split, inside, fit⟩
    cases front with
    | nil => exact .inl (split ▸ fit)
    | cons first front =>
        cases split
        obtain ⟨first, others⟩ := List.forall_mem_cons.1 inside
        exact .inr ⟨first, front, back, rfl, others, fit⟩
  · rintro (fit | ⟨first, front, back, rfl, others, fit⟩)
    · exact ⟨[], c :: rest, rfl, nofun, fit⟩
    · exact ⟨c :: front, back, rfl, List.forall_mem_cons.2 ⟨first, others⟩, fit⟩

/-- The places that a run through a set reaches are those behind characters of the set. -/
theorem exists_mem_run_iff {set : CharSet} {text : List Char} (place : Place)
    (here : place.after = text) :
    (∃ reached ∈ place.run set none text, fits reached.after) ↔
      ∃ front back, text = front ++ back ∧ (∀ c ∈ front, set.contains c = true) ∧ fits back := by
  induction text generalizing place with
  | nil =>
      simp only [Place.run, List.mem_singleton, exists_eq_left, here]
      constructor
      · exact fun fit => ⟨[], [], rfl, nofun, fit⟩
      · rintro ⟨front, back, split, -, fit⟩
        rwa [(List.append_eq_nil_iff.1 split.symm).2] at fit
  | cons c rest inductionHypothesis =>
      have onward :=
        inductionHypothesis ⟨place.position + 1, c :: place.before, rest, place.captures⟩ rfl
      rw [exists_front_cons_iff, ← onward]
      by_cases within : set.contains c = true
      · simp [Place.run, within, here]
      · simp [Place.run, within, here]

/-- A greedy repetition goes back until what follows succeeds, so it takes as much as is right. -/
theorem takes_span (set : CharSet) :
    Takes (.span set ⟨0, none, .greedy⟩) fun text => ∀ c ∈ text, set.contains c = true := by
  intro follow fits finds place
  refine Iff.trans ?_ (exists_mem_run_iff place rfl)
  simp only [Pattern.run, runSpan, List.drop_zero, List.findSome?_isSome_iff, List.mem_reverse]
  exact exists_congr fun reached => and_congr_right fun _ => finds reached

/-! ## Patterns in order -/

theorem takes_empty : Takes .empty fun text => text = [] := by
  intro follow fits finds
  refine finds.congr fun text => ?_
  constructor
  · exact fun fit => ⟨[], text, rfl, rfl, fit⟩
  · rintro ⟨_, back, rfl, rfl, fit⟩
    exact fit

theorem Takes.both {second : Pattern} {more : List Char → Prop} (former : Takes pattern takes)
    (latter : Takes second more) :
    Takes (.both pattern second) fun text =>
      ∃ front back, text = front ++ back ∧ takes front ∧ more back := by
  intro follow fits finds
  refine (former (latter finds)).congr fun text => ?_
  constructor
  · rintro ⟨front, _, rfl, taken, middle, back, rfl, also, fit⟩
    exact ⟨front ++ middle, back, (List.append_assoc front middle back).symm,
      ⟨front, middle, rfl, taken, also⟩, fit⟩
  · rintro ⟨_, back, rfl, ⟨front, middle, rfl, taken, also⟩, fit⟩
    exact ⟨front, middle ++ back, List.append_assoc front middle back, taken, middle, back, rfl,
      also, fit⟩

theorem run_inOrder_append (first second : List Pattern) (follow : Follow) :
    (Pattern.inOrder (first ++ second)).run follow =
      (Pattern.inOrder first).run ((Pattern.inOrder second).run follow) := by
  induction first with
  | nil => rfl
  | cons pattern first inductionHypothesis =>
      show pattern.run ((Pattern.inOrder (first ++ second)).run follow) = _
      rw [inductionHypothesis]
      rfl

/-! ## Conditions -/

/-- A look ahead for something that must not be there uses up nothing. -/
theorem Finds.notAhead {seen : List Char → Prop} (finds : Finds follow fits)
    (sees : Finds (pattern.run some) seen) :
    Finds ((Pattern.lookAhead true pattern).run follow) fun text => ¬ seen text ∧ fits text := by
  intro place
  simp only [Pattern.run, ← sees place, ← finds place]
  split
  · rename_i ahead
    simp [ahead]
  · rename_i clear
    simp [clear]

theorem Finds.textEnd (finds : Finds follow fits) :
    Finds ((Pattern.anchor .textEnd).run follow) fun text => text = [] ∧ fits text := by
  intro place
  simp only [Pattern.run, Place.satisfies, List.isEmpty_iff, ← finds place]
  split
  · rename_i ended
    simp [ended]
  · rename_i more
    simp [more]

end VirtualShell.Regex
