import VirtualShell.Proofs.Regex.Matching
import VirtualShell.Proofs.Regex.Renumbering
import VirtualShell.Regex.Alternation

/-!
Contract: what condensing the alternatives of a pattern keeps.

Owns:
- `branches_inOrder`, the one alternative of patterns in order;
- `branches_raise`: condensing does not depend on the numbers that groups have;
- `MergesAsIs`, that alternatives do not become a set that holds something else than they do:
  where letters are told apart by case they never do (`mergesAsIs_of_exact`), nor where they end
  with an anchor (`mergesAsIs_of_anchored`);
- `matchesAt_condensed`: unless they do, a condensed pattern matches where an alternative matches.

What all alternatives start with is a set, an anchor or a reference, which leads to one place at
most. That is why it can be looked for once, before the alternatives part.
-/

namespace VirtualShell.Regex

variable {offset : Nat} {rule : CaseRule} {place : Place}

/-! ## Patterns in order -/

namespace Pattern

/-- The pattern is a piece as it stands. -/
def IsPiece (pattern : Pattern) : Prop :=
  pattern.branches = [[pattern]]

theorem branches_inOrder (patterns : List Pattern) :
    (inOrder patterns).branches = [patterns.flatMap fun pattern => joined pattern.branches] := by
  induction patterns with
  | nil => rfl
  | cons pattern patterns inductionHypothesis =>
      show [joined pattern.branches ++ joined (inOrder patterns).branches] = _
      rw [inductionHypothesis]
      rfl

theorem joined_branches_inOrder {pieces : List Pattern} (whole : ∀ piece ∈ pieces, piece.IsPiece) :
    joined (inOrder pieces).branches = pieces := by
  rw [branches_inOrder]
  show pieces.flatMap _ = pieces
  induction pieces with
  | nil => rfl
  | cons piece pieces inductionHypothesis =>
      obtain ⟨first, others⟩ := List.forall_mem_cons.1 whole
      rw [List.flatMap_cons, first, inductionHypothesis others]
      rfl

/-- Pieces in order are condensed as they are. -/
theorem condensed_inOrder {pieces : List Pattern} (whole : ∀ piece ∈ pieces, piece.IsPiece) :
    (inOrder pieces).condensed = inOrder pieces := by
  rw [condensed, joined_branches_inOrder whole]

theorem branches_ne_nil (pattern : Pattern) : pattern.branches ≠ [] := by
  cases pattern <;> simp [branches]

end Pattern

theorem joined_cons_cons (first second : List Pattern) (others : List (List Pattern)) :
    joined (first :: second :: others) =
      (splitCommon first (second :: others)).1 ++
        [oneOf (splitCommon first (second :: others)).2] :=
  rfl

/-! ## Numbers of groups -/

theorem isSame_raise (piece other : Pattern) :
    (piece.raise offset).isSame (other.raise offset) = piece.isSame other := by
  cases piece with
  | reference number width caseRule =>
      cases other with
      | reference other =>
          have counted : (offset + number == offset + other) = (number == other) := by
            rw [Bool.eq_iff_iff, beq_iff_eq, beq_iff_eq, Nat.add_left_cancel_iff]
          simp only [Pattern.raise, Pattern.isSame, counted]
      | _ => rfl
  | _ => cases other <;> rfl

theorem splitCommon_raise (first : List Pattern) (others : List (List Pattern)) :
    splitCommon (first.map (·.raise offset)) (others.map (·.map (·.raise offset))) =
      ((splitCommon first others).1.map (·.raise offset),
        (splitCommon first others).2.map (·.map (·.raise offset))) := by
  induction first generalizing others with
  | nil => rfl
  | cons piece rest inductionHypothesis =>
      have heads : (others.map (·.map (·.raise offset))).all
            (fun other => other.head?.any (piece.raise offset).isSame) =
          others.all fun other => other.head?.any piece.isSame := by
        rw [List.all_map]
        refine congrArg others.all (funext fun other => ?_)
        cases other with
        | nil => rfl
        | cons head _ => exact isSame_raise piece head
      have tails : (others.map (·.map (·.raise offset))).map List.tail =
          (others.map List.tail).map (·.map (·.raise offset)) := by
        simp [List.map_tail]
      rw [List.map_cons, splitCommon, heads, splitCommon]
      split
      · rw [tails, inductionHypothesis]
        rfl
      · rfl

theorem onlySet?_raise (pieces : List Pattern) :
    onlySet? (pieces.map (·.raise offset)) = onlySet? pieces := by
  match pieces with
  | [] => rfl
  | [piece] => cases piece <;> rfl
  | first :: second :: others => cases first <;> rfl

theorem raise_choice (patterns : List Pattern) :
    (Pattern.choice patterns).raise offset = Pattern.choice (patterns.map (·.raise offset)) := by
  fun_induction Pattern.choice patterns with
  | case1 => rfl
  | case2 => rfl
  | case3 first others several inductionHypothesis =>
      obtain ⟨second, others, rfl⟩ := List.exists_cons_of_ne_nil several
      exact congrArg (Pattern.either (first.raise offset)) inductionHypothesis

theorem oneOf_raise (alternatives : List (List Pattern)) :
    oneOf (alternatives.map (·.map (·.raise offset))) = (oneOf alternatives).raise offset := by
  have sets : (alternatives.map (·.map (·.raise offset))).mapM onlySet? =
      alternatives.mapM onlySet? := by
    rw [List.mapM_map]
    exact congrArg alternatives.mapM (funext onlySet?_raise)
  have ordered : (alternatives.map (·.map (·.raise offset))).map Pattern.inOrder =
      (alternatives.map Pattern.inOrder).map (·.raise offset) := by
    simp [Pattern.raise_inOrder]
  unfold oneOf
  rw [sets, ordered]
  cases alternatives.mapM onlySet? with
  | none => exact (raise_choice _).symm
  | some found => rfl

theorem joined_raise (alternatives : List (List Pattern)) :
    joined (alternatives.map (·.map (·.raise offset))) =
      (joined alternatives).map (·.raise offset) := by
  match alternatives with
  | [] => rfl
  | [_] => rfl
  | first :: second :: others =>
      have split := @splitCommon_raise offset first (second :: others)
      rw [List.map_cons, List.map_cons, joined_cons_cons, ← List.map_cons, split, oneOf_raise,
        joined_cons_cons, List.map_append]
      rfl

theorem branches_raise (pattern : Pattern) :
    (pattern.raise offset).branches = pattern.branches.map (·.map (·.raise offset)) := by
  induction pattern with
  | empty | one | span | anchor | reference => rfl
  | both first second former latter =>
      simp [Pattern.raise, Pattern.branches, former, latter, joined_raise]
  | either left right former latter =>
      simp [Pattern.raise, Pattern.branches, former, latter, joined_raise]
  | repeated body repetition inside =>
      simp [Pattern.raise, Pattern.branches, inside, joined_raise, Pattern.raise_inOrder]
  | group number body inside =>
      simp [Pattern.raise, Pattern.branches, inside, joined_raise, Pattern.raise_inOrder]
  | atomic body inside =>
      simp [Pattern.raise, Pattern.branches, inside, joined_raise, Pattern.raise_inOrder]
  | lookAhead negated body inside =>
      simp [Pattern.raise, Pattern.branches, inside, joined_raise, Pattern.raise_inOrder]
  | lookBehind negated distance body inside =>
      simp [Pattern.raise, Pattern.branches, inside, joined_raise, Pattern.raise_inOrder]
  | conditional number set unset former latter =>
      simp [Pattern.raise, Pattern.branches, former, latter, joined_raise, Pattern.raise_inOrder]

/-! ## Matches -/

namespace Pattern

/-- The pattern matches at a place. -/
def matchesAt (pattern : Pattern) (place : Place) : Bool :=
  (pattern.run some place).isSome

/-- One of the alternatives of the pattern, whose insides are condensed, matches at a place. -/
def branchMatchesAt (pattern : Pattern) (place : Place) : Bool :=
  pattern.branches.any fun branch => (inOrder branch).matchesAt place

theorem matchesAt_either (left right : Pattern) :
    (either left right).matchesAt place = (left.matchesAt place || right.matchesAt place) := by
  unfold matchesAt
  rw [run]
  cases left.run some place <;> rfl

theorem matchesAt_choice {patterns : List Pattern} (present : patterns ≠ []) :
    (choice patterns).matchesAt place = patterns.any fun pattern => pattern.matchesAt place := by
  fun_induction choice patterns with
  | case1 => exact absurd rfl present
  | case2 only => exact (Bool.or_false _).symm
  | case3 first others several inductionHypothesis =>
      rw [matchesAt_either, inductionHypothesis several, List.any_cons]

theorem matchesAt_one (set : CharSet) :
    (one set).matchesAt place = place.next?.any fun next => set.contains next.1 := by
  unfold matchesAt
  rw [run]
  cases place.next? with
  | none => rfl
  | some next =>
      dsimp only [Option.any_some]
      cases set.contains next.1 <;> rfl

end Pattern

/-- The search leads from a place to one place at most, from which it goes on. -/
def IsStraight (search : Follow → Place → Option Place) : Prop :=
  ∃ step : Place → Option Place, ∀ follow place, search follow place = (step place).bind follow

theorem IsStraight.both {first second : Pattern} (former : IsStraight first.run)
    (latter : IsStraight second.run) : IsStraight (Pattern.both first second).run := by
  obtain ⟨step, straight⟩ := former
  obtain ⟨next, further⟩ := latter
  refine ⟨fun place => (step place).bind next, fun follow place => ?_⟩
  rw [Pattern.run, straight, Option.bind_assoc]
  exact congrArg (step place).bind (funext (further follow))

theorem isStraight_one (set : CharSet) : IsStraight (Pattern.one set).run := by
  refine ⟨fun place => place.next?.bind fun next =>
    if set.contains next.1 then some next.2 else none, fun follow place => ?_⟩
  rw [Pattern.run]
  dsimp only
  cases place.next? with
  | none => rfl
  | some next =>
      dsimp only [Option.bind_some]
      cases set.contains next.1 <;> rfl

theorem isStraight_anchor (condition : Anchor) : IsStraight (Pattern.anchor condition).run := by
  refine ⟨fun place => if place.satisfies condition then some place else none,
    fun follow place => ?_⟩
  rw [Pattern.run]
  dsimp only
  cases place.satisfies condition <;> rfl

theorem isStraight_reference (number : Nat) (width : Width) (rule : CaseRule) :
    IsStraight (Pattern.reference number width rule).run :=
  ⟨fun place => (place.captured? number).bind fun text => Place.skip? rule text place,
    fun _ _ => rfl⟩

/-- What is the same as another piece is equal to it, and leads to one place at most. -/
theorem isStraight_of_isSame {piece other : Pattern} (same : piece.isSame other = true) :
    piece = other ∧ IsStraight piece.run := by
  cases piece with
  | one set =>
      cases other with
      | one other => exact ⟨congrArg Pattern.one (beq_iff_eq.1 same), isStraight_one set⟩
      | _ => cases same
  | anchor condition =>
      cases other with
      | anchor other =>
          exact ⟨congrArg Pattern.anchor (beq_iff_eq.1 same), isStraight_anchor condition⟩
      | _ => cases same
  | reference number width caseRule =>
      cases other with
      | reference other otherWidth otherRule =>
          have equal : (number = other ∧ width = otherWidth) ∧ caseRule = otherRule := by
            simpa [Pattern.isSame] using same
          obtain ⟨⟨rfl, rfl⟩, rfl⟩ := equal
          exact ⟨rfl, isStraight_reference number width caseRule⟩
      | _ => cases same
  | _ => cases same

/-- Where the others all start with a piece, it leads to one place at most. -/
theorem eq_map_cons_of_shared {piece : Pattern} {others : List (List Pattern)}
    (several : others ≠ [])
    (shared : others.all (fun other => other.head?.any piece.isSame) = true) :
    IsStraight piece.run ∧ others = (others.map List.tail).map (piece :: ·) := by
  have each : ∀ other ∈ others, IsStraight piece.run ∧ other = piece :: other.tail := by
    intro other member
    have same := List.all_eq_true.1 shared other member
    cases other with
    | nil => cases same
    | cons head tail =>
        obtain ⟨rfl, straight⟩ := isStraight_of_isSame same
        exact ⟨straight, rfl⟩
  obtain ⟨first, member⟩ := List.exists_mem_of_ne_nil others several
  refine ⟨(each first member).1, ?_⟩
  rw [List.map_map]
  exact (List.map_id others).symm.trans
    (List.map_congr_left fun other inside => (each other inside).2)

/-- What alternatives start with leads to one place at most, and each of them is that and what is
left of it. -/
theorem splitCommon_spec (first : List Pattern) {others : List (List Pattern)}
    (several : others ≠ []) :
    IsStraight (Pattern.inOrder (splitCommon first others).1).run ∧
      first :: others =
        (splitCommon first others).2.map ((splitCommon first others).1 ++ ·) := by
  have nothing : IsStraight (Pattern.inOrder []).run := ⟨some, fun _ _ => rfl⟩
  induction first generalizing others with
  | nil => exact ⟨nothing, (List.map_id _).symm⟩
  | cons piece rest inductionHypothesis =>
      rw [splitCommon]
      split
      · rename_i shared
        obtain ⟨straight, rebuilt⟩ := eq_map_cons_of_shared several shared
        obtain ⟨further, whole⟩ :=
          @inductionHypothesis (others.map List.tail) (by simpa using several)
        refine ⟨straight.both further, ?_⟩
        have grown := congrArg (List.map (piece :: ·)) whole
        rw [List.map_cons, ← rebuilt, List.map_map] at grown
        exact grown
      · exact ⟨nothing, (List.map_id _).symm⟩

theorem splitCommon_ne_nil (first : List Pattern) {others : List (List Pattern)}
    (several : others ≠ []) : (splitCommon first others).2 ≠ [] := by
  intro none
  have whole := (splitCommon_spec first several).2
  rw [none] at whole
  cases whole

/-- Behind what leads to one place at most, alternatives match where one of them does with all that
stands in front. -/
theorem matchesAt_append_choice {common : List Pattern} {behind : List (List Pattern)}
    {piece : Pattern} (straight : IsStraight (Pattern.inOrder common).run)
    (same : ∀ place, piece.matchesAt place =
      behind.any fun rest => (Pattern.inOrder rest).matchesAt place) :
    (Pattern.inOrder (common ++ [piece])).matchesAt place =
      (behind.map (common ++ ·)).any fun branch => (Pattern.inOrder branch).matchesAt place := by
  obtain ⟨step, leads⟩ := straight
  have opened (rest : List Pattern) : (Pattern.inOrder (common ++ rest)).matchesAt place =
      (step place).any fun next => (Pattern.inOrder rest).matchesAt next := by
    unfold Pattern.matchesAt
    rw [run_inOrder_append, leads]
    cases step place <;> rfl
  rw [opened, List.any_map]
  simp only [Function.comp_def, opened]
  cases step place with
  | none => simp
  | some next => exact same next

/-! ## Sets that become one -/

/-- The sets that alternatives become one set of, if they do. -/
def mergedSets? : List (List Pattern) → Option (List CharSet)
  | first :: second :: others => (splitCommon first (second :: others)).2.mapM onlySet?
  | _ => none

/-- If the alternatives become one set, it holds what one of their sets holds. -/
def MergesAsIs (alternatives : List (List Pattern)) : Prop :=
  ∀ sets, mergedSets? alternatives = some sets →
    ∀ c, (CharSet.union sets).contains c = sets.any fun set => set.contains c

theorem eq_of_onlySet? {pieces : List Pattern} {set : CharSet}
    (only : onlySet? pieces = some set) : pieces = [.one set] ∧ set.negated = false := by
  unfold onlySet? at only
  split at only
  · split at only
    · cases only
    · rename_i positive
      cases only
      exact ⟨rfl, by simpa using positive⟩
  · cases only

/-- Alternatives that are sets are the sets, each for itself. -/
theorem eq_map_of_mapM_onlySet? {alternatives : List (List Pattern)} {sets : List CharSet}
    (each : alternatives.mapM onlySet? = some sets) :
    alternatives = sets.map (fun set => [.one set]) ∧ ∀ set ∈ sets, set.negated = false := by
  induction alternatives generalizing sets with
  | nil =>
      cases each
      exact ⟨rfl, nofun⟩
  | cons pieces others inductionHypothesis =>
      rw [List.mapM_cons] at each
      obtain ⟨set, only, each⟩ := Option.bind_eq_some_iff.1 each
      obtain ⟨rest, others, each⟩ := Option.bind_eq_some_iff.1 each
      cases each
      obtain ⟨rfl, positive⟩ := eq_of_onlySet? only
      obtain ⟨alone, further⟩ := inductionHypothesis others
      exact ⟨congrArg (_ :: ·) alone, List.forall_mem_cons.2 ⟨positive, further⟩⟩

/-- The piece for some alternatives matches where one of them does. -/
theorem matchesAt_oneOf {alternatives : List (List Pattern)} (present : alternatives ≠ [])
    (faithful : ∀ sets, alternatives.mapM onlySet? = some sets →
      ∀ c, (CharSet.union sets).contains c = sets.any fun set => set.contains c) :
    (oneOf alternatives).matchesAt place =
      alternatives.any fun branch => (Pattern.inOrder branch).matchesAt place := by
  unfold oneOf
  cases each : alternatives.mapM onlySet? with
  | none =>
      dsimp only
      rw [Pattern.matchesAt_choice (by simpa using present), List.any_map]
      rfl
  | some sets =>
      have single (set : CharSet) : (Pattern.inOrder [.one set]).matchesAt place =
          (Pattern.one set).matchesAt place := rfl
      dsimp only
      rw [(eq_map_of_mapM_onlySet? each).1, List.any_map, Pattern.matchesAt_one]
      simp only [Function.comp_def, single, Pattern.matchesAt_one]
      cases place.next? with
      | none => simp
      | some next => exact faithful sets each next.1

/-- A condensed pattern matches where an alternative does, unless sets become one that holds
something else. -/
theorem matchesAt_condensed {pattern : Pattern} (faithful : MergesAsIs pattern.branches) :
    pattern.condensed.matchesAt place = pattern.branchMatchesAt place := by
  unfold Pattern.condensed Pattern.branchMatchesAt
  match alternatives : pattern.branches with
  | [] => exact absurd alternatives pattern.branches_ne_nil
  | [only] => exact (Bool.or_false _).symm
  | first :: second :: others =>
      rw [alternatives] at faithful
      have several := List.cons_ne_nil second others
      obtain ⟨straight, whole⟩ := splitCommon_spec first several
      rw [joined_cons_cons, whole]
      exact matchesAt_append_choice straight fun _ =>
        matchesAt_oneOf (splitCommon_ne_nil first several) faithful

/-! ## Case rules -/

/-- The sets among the pieces that are not of all characters but some have the case rule. -/
def KeepRule (rule : CaseRule) (pieces : List Pattern) : Prop :=
  ∀ set, .one set ∈ pieces → set.negated = false → set.caseRule = rule

theorem KeepRule.append {pieces others : List Pattern} (first : KeepRule rule pieces)
    (second : KeepRule rule others) : KeepRule rule (pieces ++ others) :=
  fun set member => (List.mem_append.1 member).elim (first set) (second set)

theorem KeepRule.subset {pieces others : List Pattern} (kept : KeepRule rule pieces)
    (fewer : others ⊆ pieces) : KeepRule rule others :=
  fun set member => kept set (fewer member)

theorem keepRule_raise (offset : Nat) (pieces : List Pattern) :
    KeepRule rule (pieces.map (·.raise offset)) ↔ KeepRule rule pieces := by
  have same (set : CharSet) : .one set ∈ pieces.map (·.raise offset) ↔ .one set ∈ pieces := by
    have only (piece : Pattern) : piece.raise offset = .one set ↔ piece = .one set := by
      cases piece <;> simp [Pattern.raise]
    simp only [List.mem_map, only, exists_eq_right]
  unfold KeepRule
  simp only [same]

/-- Only a set that is made of sets stands for several alternatives as a set. -/
theorem keepRule_oneOf {alternatives : List (List Pattern)} (several : 1 < alternatives.length)
    (each : ∀ branch ∈ alternatives, KeepRule rule branch) :
    KeepRule rule [oneOf alternatives] := by
  intro set member _
  have piece := List.mem_singleton.1 member
  unfold oneOf at piece
  cases sets : alternatives.mapM onlySet? with
  | none =>
      rw [sets] at piece
      match alternatives, several with
      | first :: second :: others, _ => cases piece
  | some found =>
      rw [sets] at piece
      cases piece
      obtain ⟨rfl, positive⟩ := eq_map_of_mapM_onlySet? sets
      match found with
      | [] => cases several
      | first :: others =>
          exact each _ List.mem_cons_self first List.mem_cons_self
            (positive first List.mem_cons_self)

theorem keepRule_joined {alternatives : List (List Pattern)}
    (each : ∀ branch ∈ alternatives, KeepRule rule branch) :
    KeepRule rule (joined alternatives) := by
  match alternatives with
  | [] => exact fun _ => nofun
  | [only] => exact each only List.mem_cons_self
  | first :: second :: others =>
      have several := List.cons_ne_nil second others
      have whole := (splitCommon_spec first several).2
      have inside : ∀ rest ∈ (splitCommon first (second :: others)).2,
          KeepRule rule ((splitCommon first (second :: others)).1 ++ rest) := fun rest member =>
        each _ (whole ▸ List.mem_map_of_mem member)
      obtain ⟨rest, member⟩ := List.exists_mem_of_ne_nil _ (splitCommon_ne_nil first several)
      have counted := congrArg List.length whole
      rw [List.length_map, List.length_cons, List.length_cons] at counted
      rw [joined_cons_cons]
      exact ((inside rest member).subset (List.subset_append_left _ _)).append
        (keepRule_oneOf (by omega) fun rest member =>
          (inside rest member).subset (List.subset_append_right _ _))

namespace Pattern

/-- The sets among the pieces of its alternatives have the case rule. -/
def HasRule (rule : CaseRule) (pattern : Pattern) : Prop :=
  ∀ branch ∈ pattern.branches, KeepRule rule branch

/-- A piece that is no set has no set among its pieces. -/
theorem hasRule_of_branches {pattern piece : Pattern} (single : pattern.branches = [[piece]])
    (other : ∀ set, piece ≠ one set) : pattern.HasRule rule := by
  unfold HasRule
  rw [single, List.forall_mem_singleton]
  intro set member
  exact absurd (List.mem_singleton.1 member).symm (other set)

theorem hasRule_one {set : CharSet} (suits : set.negated = false → set.caseRule = rule) :
    (one set).HasRule rule := by
  refine List.forall_mem_singleton.2 fun other member => ?_
  cases List.mem_singleton.1 member
  exact suits

theorem hasRule_empty : empty.HasRule rule :=
  List.forall_mem_singleton.2 fun _ => nofun

theorem HasRule.both {first second : Pattern} (former : first.HasRule rule)
    (latter : second.HasRule rule) : (both first second).HasRule rule :=
  List.forall_mem_singleton.2 ((keepRule_joined former).append (keepRule_joined latter))

theorem HasRule.either {left right : Pattern} (former : left.HasRule rule)
    (latter : right.HasRule rule) : (either left right).HasRule rule :=
  List.forall_mem_cons.2 ⟨keepRule_joined former, latter⟩

theorem hasRule_inOrder {patterns : List Pattern}
    (each : ∀ pattern ∈ patterns, pattern.HasRule rule) : (inOrder patterns).HasRule rule := by
  induction patterns with
  | nil => exact hasRule_empty
  | cons pattern patterns inductionHypothesis =>
      obtain ⟨first, others⟩ := List.forall_mem_cons.1 each
      exact first.both (inductionHypothesis others)

end Pattern

/-! ## Sets that are merged as they are -/

/-- Sets that become one are each the last piece of an alternative. -/
theorem exists_branch_of_mergedSets? {alternatives : List (List Pattern)} {sets : List CharSet}
    (merged : mergedSets? alternatives = some sets) :
    sets ≠ [] ∧ ∀ set ∈ sets, set.negated = false ∧
      ∃ branch ∈ alternatives, branch.getLast? = some (.one set) := by
  match alternatives with
  | [] => cases merged
  | [_] => cases merged
  | first :: second :: others =>
      have several := List.cons_ne_nil second others
      have whole := (splitCommon_spec first several).2
      obtain ⟨alone, positive⟩ := eq_map_of_mapM_onlySet? merged
      refine ⟨?_, fun set member => ⟨positive set member, ?_⟩⟩
      · rintro rfl
        exact splitCommon_ne_nil first several alone
      · have inside : [.one set] ∈ (splitCommon first (second :: others)).2 :=
          alone ▸ List.mem_map_of_mem member
        exact ⟨_, whole ▸ List.mem_map_of_mem inside, List.getLast?_concat⟩

/-- Alternatives that end with an anchor become no set. -/
theorem mergesAsIs_of_anchored {alternatives : List (List Pattern)} {condition : Anchor}
    (anchored : ∀ branch ∈ alternatives, branch.getLast? = some (.anchor condition)) :
    MergesAsIs alternatives := by
  intro sets merged
  obtain ⟨present, each⟩ := exists_branch_of_mergedSets? merged
  obtain ⟨set, member⟩ := List.exists_mem_of_ne_nil sets present
  obtain ⟨-, branch, inside, last⟩ := each set member
  exact nomatch (anchored branch inside).symm.trans last

theorem caseRule_union {sets : List CharSet} (present : sets ≠ [])
    (ruled : ∀ set ∈ sets, set.caseRule = rule) : (CharSet.union sets).caseRule = rule := by
  obtain ⟨first, others, rfl⟩ := List.exists_cons_of_ne_nil present
  exact ruled first List.mem_cons_self

/-- If of all sets the same way of asking their items tells what they hold, the one set holds what
they hold. -/
theorem contains_union {sets : List CharSet} {c : Char} {describes : SetItem → Bool}
    (each : ∀ set ∈ sets, set.contains c = set.items.any describes)
    (whole : (CharSet.union sets).contains c = (CharSet.union sets).items.any describes) :
    (CharSet.union sets).contains c = sets.any fun set => set.contains c := by
  rw [whole, Bool.eq_iff_iff, List.any_eq_true, List.any_eq_true]
  constructor
  · rintro ⟨item, member, holds⟩
    obtain ⟨set, among, inside⟩ := List.mem_flatMap.1 (List.mem_eraseDups.1 member)
    exact ⟨set, among, (each set among).trans (List.any_eq_true.2 ⟨item, inside, holds⟩)⟩
  · rintro ⟨set, among, holds⟩
    obtain ⟨item, inside, holds⟩ := List.any_eq_true.1 ((each set among).symm.trans holds)
    exact ⟨item, List.mem_eraseDups.2 (List.mem_flatMap.2 ⟨set, among, inside⟩), holds⟩

theorem contains_of_exact {set : CharSet} (exact : set.caseRule = .exact)
    (positive : set.negated = false) (c : Char) :
    set.contains c = set.items.any (SetItem.contains c) := by
  unfold CharSet.contains
  rw [exact, positive, Bool.bne_false]
  rfl

/-- Where letters are told apart by case, one set holds what the sets hold that it is made of. -/
theorem mergesAsIs_of_exact {alternatives : List (List Pattern)}
    (told : ∀ branch ∈ alternatives, KeepRule .exact branch) : MergesAsIs alternatives := by
  intro sets merged c
  obtain ⟨present, each⟩ := exists_branch_of_mergedSets? merged
  have exact : ∀ set ∈ sets, set.caseRule = .exact := fun set member =>
    let ⟨positive, branch, inside, last⟩ := each set member
    told branch inside set (List.mem_of_getLast? last) positive
  exact contains_union
    (fun set member => contains_of_exact (exact set member) (each set member).1 c)
    (contains_of_exact (caseRule_union present exact) rfl c)

end VirtualShell.Regex
