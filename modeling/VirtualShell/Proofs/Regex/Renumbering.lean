import VirtualShell.Regex.Match

/-!
Contract: a pattern whose groups have other numbers finds the same places.

Owns:
- `Pattern.raise` and `Place.raise`, a pattern and the captures at a place with all groups counted
  from a later number on;
- `Mirrors`, two continuations that reach the same places but for these numbers;
- `run_raise`: a raised pattern reaches the raised place just if the pattern reaches the place;
- `isSome_run_raise`: where nothing has been captured a pattern and the raised one both match or
  both fail.
-/

namespace VirtualShell.Regex

/-- The pattern with every group counted `offset` numbers later. -/
def Pattern.raise (offset : Nat) : Pattern → Pattern
  | .empty => .empty
  | .one set => .one set
  | .span set repetition => .span set repetition
  | .anchor condition => .anchor condition
  | .both first second => .both (first.raise offset) (second.raise offset)
  | .either left right => .either (left.raise offset) (right.raise offset)
  | .repeated body repetition => .repeated (body.raise offset) repetition
  | .group number body => .group (number.map (offset + ·)) (body.raise offset)
  | .atomic body => .atomic (body.raise offset)
  | .lookAhead negated body => .lookAhead negated (body.raise offset)
  | .lookBehind negated distance body => .lookBehind negated distance (body.raise offset)
  | .reference number width rule => .reference (offset + number) width rule
  | .conditional number set unset =>
      .conditional (offset + number) (set.raise offset) (unset.raise offset)

variable {offset : Nat}

/-! ## The shape of a raised pattern -/

namespace Pattern

@[simp] theorem width_raise (pattern : Pattern) : (pattern.raise offset).width = pattern.width := by
  induction pattern with
  | empty | one | span | anchor | lookAhead | lookBehind | reference => rfl
  | both _ _ first second => simp only [raise, width, first, second]
  | either _ _ left right => simp only [raise, width, left, right]
  | conditional _ _ _ set unset => simp only [raise, width, set, unset]
  | repeated _ _ body => simp only [raise, width, body]
  | group _ _ body => simp only [raise, width, body]
  | atomic _ body => simp only [raise, width, body]

@[simp] theorem isAnchor_raise (pattern : Pattern) :
    (pattern.raise offset).isAnchor = pattern.isAnchor := by
  cases pattern <;> rfl

@[simp] theorem isRepetition_raise (pattern : Pattern) :
    (pattern.raise offset).isRepetition = pattern.isRepetition := by
  cases pattern <;> rfl

theorem raise_repeatedBy (pattern : Pattern) (repetition : Repetition) :
    (pattern.repeatedBy repetition).raise offset =
      (pattern.raise offset).repeatedBy repetition := by
  cases pattern <;> rfl

theorem raise_inOrder (patterns : List Pattern) :
    (inOrder patterns).raise offset = inOrder (patterns.map (·.raise offset)) := by
  induction patterns with
  | nil => rfl
  | cons pattern patterns inductionHypothesis =>
      exact congrArg (both (pattern.raise offset)) inductionHypothesis

end Pattern

/-! ## Raised places -/

namespace Place

/-- The place with every capture counted `offset` numbers later. -/
def raise (offset : Nat) (place : Place) : Place :=
  { place with captures := place.captures.map fun capture => (offset + capture.1, capture.2) }

variable {place : Place}

@[simp] theorem after_raise : (place.raise offset).after = place.after :=
  rfl

@[simp] theorem position_raise : (place.raise offset).position = place.position :=
  rfl

theorem next?_raise :
    (place.raise offset).next? = place.next?.map fun next => (next.1, next.2.raise offset) := by
  unfold next? raise
  cases place.after <;> rfl

theorem back?_raise (distance : Nat) (place : Place) :
    (place.raise offset).back? distance = (place.back? distance).map (raise offset) := by
  induction distance generalizing place with
  | zero => rfl
  | succ distance inductionHypothesis =>
      obtain ⟨position, before, after, captures⟩ := place
      cases before with
      | nil => rfl
      | cons c rest => exact inductionHypothesis ⟨position - 1, rest, c :: after, captures⟩

theorem captured?_raise (group : Nat) :
    (place.raise offset).captured? (offset + group) = place.captured? group := by
  have same : (fun capture : Nat × List Char => offset + capture.1 == offset + group) =
      fun capture => capture.1 == group := by
    funext capture
    rw [Bool.eq_iff_iff, beq_iff_eq, beq_iff_eq]
    omega
  unfold captured? raise
  rw [List.find?_map, Option.map_map]
  exact congrArg (fun find => ((place.captures.find? find).map Prod.snd)) same

theorem satisfies_raise (anchor : Anchor) :
    (place.raise offset).satisfies anchor = place.satisfies anchor := by
  cases anchor <;> rfl

theorem run_raise (set : CharSet) (most : Option Nat) (place : Place) (text : List Char) :
    (place.raise offset).run set most text = (place.run set most text).map (raise offset) := by
  induction text generalizing place most with
  | nil => rfl
  | cons c rest inductionHypothesis =>
      unfold run
      split
      · exact congrArg (place.raise offset :: ·) (inductionHypothesis _
          ⟨place.position + 1, c :: place.before, rest, place.captures⟩)
      · rfl

theorem skip?_raise (rule : CaseRule) (text : List Char) :
    skip? rule text (place.raise offset) = (skip? rule text place).map (raise offset) := by
  induction text generalizing place with
  | nil => rfl
  | cons expected others inductionHypothesis =>
      unfold skip?
      rw [next?_raise]
      cases place.next? with
      | none => rfl
      | some next =>
          dsimp only [Option.map_some]
          split
          · exact inductionHypothesis
          · rfl

/-- A place without captures is as it is. -/
theorem raise_of_captures_eq_nil (none : place.captures = []) : place.raise offset = place := by
  obtain ⟨position, before, after, captures⟩ := place
  cases none
  rfl

end Place

/-! ## Raised searches -/

/-- From a raised place the second reaches the raised place that the first reaches. -/
def Mirrors (offset : Nat) (follow further : Follow) : Prop :=
  ∀ place, further (place.raise offset) = (follow place).map (Place.raise offset)

/-- What mirrors what follows is mirrored as a body that is repeated. -/
def MirrorsBody (offset : Nat) (body raised : Follow → Place → Option Place) : Prop :=
  ∀ ⦃follow further : Follow⦄, Mirrors offset follow further →
    Mirrors offset (body follow) (raised further)

section

variable {follow further : Follow} {body raised : Follow → Place → Option Place}

theorem mirrors_some : Mirrors offset some some :=
  fun _ => rfl

theorem Mirrors.orElse {others more : Follow} (first : Mirrors offset follow further)
    (second : Mirrors offset others more) :
    Mirrors offset
      (fun place => match follow place with
        | some reached => some reached
        | none => others place)
      (fun place => match further place with
        | some reached => some reached
        | none => more place) := by
  intro place
  dsimp only
  rw [first place]
  cases follow place with
  | none => exact second place
  | some reached => rfl

theorem Mirrors.bind {others more : Follow} (first : Mirrors offset follow further)
    (second : Mirrors offset others more) :
    Mirrors offset (fun place => (follow place).bind others)
      (fun place => (further place).bind more) := by
  intro place
  dsimp only
  rw [first place]
  cases follow place with
  | none => rfl
  | some reached => exact second reached

theorem Mirrors.ite {others more : Follow} {test raisedTest : Place → Bool}
    (same : ∀ place, raisedTest (place.raise offset) = test place)
    (first : Mirrors offset follow further) (second : Mirrors offset others more) :
    Mirrors offset (fun place => if test place then follow place else others place)
      (fun place => if raisedTest place then further place else more place) := by
  intro place
  dsimp only
  rw [same place]
  split
  · exact first place
  · exact second place

theorem mirrors_none : Mirrors offset (fun _ => none) fun _ => none :=
  fun _ => rfl

theorem Mirrors.runTimes (mirrored : MirrorsBody offset body raised) (count : Nat)
    (mirrors : Mirrors offset follow further) :
    Mirrors offset (runTimes body count follow) (Regex.runTimes raised count further) := by
  induction count with
  | zero => exact mirrors
  | succ count inductionHypothesis => exact mirrored inductionHypothesis

theorem Mirrors.runGreedy (mirrored : MirrorsBody offset body raised)
    (mirrors : Mirrors offset follow further) (fuel : Nat) (most last : Option Nat) :
    Mirrors offset (runGreedy body follow fuel most last)
      (Regex.runGreedy raised further fuel most last) := by
  induction fuel generalizing most last with
  | zero => exact mirrors
  | succ fuel inductionHypothesis =>
      intro place
      unfold Regex.runGreedy
      rw [Place.position_raise]
      by_cases spent : (most == some 0 || last == some place.position) = true
      · rw [if_pos spent, if_pos spent]
        exact mirrors place
      · rw [if_neg spent, if_neg spent]
        exact (mirrored (inductionHypothesis _ _)).orElse mirrors place

theorem Mirrors.runLazy (mirrored : MirrorsBody offset body raised)
    (mirrors : Mirrors offset follow further) (fuel : Nat) (most last : Option Nat) :
    Mirrors offset (runLazy body follow fuel most last)
      (Regex.runLazy raised further fuel most last) := by
  induction fuel generalizing most last with
  | zero => exact mirrors
  | succ fuel inductionHypothesis =>
      refine mirrors.orElse fun place => ?_
      rw [Place.position_raise]
      by_cases spent : (most == some 0 || last == some place.position) = true
      · rw [if_pos spent, if_pos spent]
        rfl
      · rw [if_neg spent, if_neg spent]
        exact mirrored (inductionHypothesis _ _) place

theorem runPossessive_raise (mirrored : MirrorsBody offset body raised) (fuel : Nat)
    (most last : Option Nat) (place : Place) :
    runPossessive raised fuel most last (place.raise offset) =
      (runPossessive body fuel most last place).raise offset := by
  induction fuel generalizing most last place with
  | zero => rfl
  | succ fuel inductionHypothesis =>
      unfold runPossessive
      rw [Place.position_raise, mirrored mirrors_some place]
      split
      · rfl
      · cases body some place with
        | none => rfl
        | some reached => exact inductionHypothesis _ _ _

theorem MirrorsBody.runRepeated (mirrored : MirrorsBody offset body raised)
    (repetition : Repetition) :
    MirrorsBody offset (runRepeated body repetition) (Regex.runRepeated raised repetition) := by
  intro follow further mirrors place
  unfold Regex.runRepeated
  cases repetition.greed with
  | greedy =>
      exact Mirrors.runTimes mirrored repetition.least
        (fun here => mirrors.runGreedy mirrored (here.after.length + 2) _ none here) place
  | lazy =>
      exact Mirrors.runTimes mirrored repetition.least
        (fun here => mirrors.runLazy mirrored (here.after.length + 2) _ none here) place
  | possessive =>
      have whole : MirrorsBody offset (fun next here => (body some here).bind next)
          fun next here => (raised some here).bind next :=
        fun _ _ next => (mirrored mirrors_some).bind next
      dsimp only
      rw [Mirrors.runTimes whole repetition.least mirrors_some place]
      cases Regex.runTimes (fun next here => (body some here).bind next) repetition.least some
        place with
      | none => rfl
      | some here =>
          dsimp only [Option.map_some]
          rw [Place.after_raise, runPossessive_raise mirrored]
          exact mirrors _

theorem mirrorsBody_runSpan (set : CharSet) (repetition : Repetition) :
    MirrorsBody offset (runSpan set repetition) (runSpan set repetition) := by
  intro follow further mirrors place
  have found (places : List Place) : (places.map (Place.raise offset)).findSome? further =
      (places.findSome? follow).map (Place.raise offset) := by
    rw [List.findSome?_map]
    induction places with
    | nil => rfl
    | cons here places inductionHypothesis =>
        rw [List.findSome?_cons, List.findSome?_cons, Function.comp_apply, mirrors here]
        cases follow here with
        | none => exact inductionHypothesis
        | some reached => rfl
  unfold runSpan
  rw [Place.after_raise, Place.run_raise, ← List.map_drop]
  dsimp only
  cases repetition.greed with
  | greedy =>
      dsimp only
      rw [← List.map_reverse, found]
  | lazy => exact found _
  | possessive =>
      dsimp only
      rw [List.getLast?_map]
      cases ((place.run set repetition.most place.after).drop repetition.least).getLast? with
      | none => rfl
      | some last => exact mirrors last

end

namespace Pattern

theorem mirrorsBody_run (pattern : Pattern) :
    MirrorsBody offset pattern.run (pattern.raise offset).run := by
  induction pattern with
  | empty => exact fun _ _ mirrors => mirrors
  | one set =>
      intro follow further mirrors place
      simp only [raise, run, Place.next?_raise]
      cases place.next? with
      | none => rfl
      | some next =>
          dsimp only [Option.map_some]
          split
          · exact mirrors next.2
          · rfl
  | span set repetition => exact mirrorsBody_runSpan set repetition
  | anchor condition =>
      exact fun _ _ mirrors =>
        Mirrors.ite (fun _ => Place.satisfies_raise condition) mirrors mirrors_none
  | both first second former latter => exact fun _ _ mirrors => former (latter mirrors)
  | either left right former latter =>
      exact fun _ _ mirrors => (former mirrors).orElse (latter mirrors)
  | repeated body repetition inductionHypothesis =>
      exact inductionHypothesis.runRepeated repetition
  | group number body inductionHypothesis =>
      intro follow further mirrors place
      cases number with
      | none => exact inductionHypothesis mirrors place
      | some number =>
          have capturing : Mirrors offset (fun reached => follow (reached.capture place number))
              fun reached => further (reached.capture (place.raise offset) (offset + number)) :=
            fun reached => mirrors (reached.capture place number)
          exact inductionHypothesis capturing place
  | atomic body inductionHypothesis =>
      exact fun _ _ mirrors => (inductionHypothesis mirrors_some).bind mirrors
  | lookAhead negated body inductionHypothesis =>
      intro follow further mirrors place
      have inside := inductionHypothesis mirrors_some place
      cases negated with
      | false =>
          simp only [raise, run, inside]
          cases body.run some place with
          | none => rfl
          | some reached => exact mirrors { place with captures := reached.captures }
      | true =>
          simp only [raise, run, inside, Option.isSome_map]
          split
          · rfl
          · exact mirrors place
  | lookBehind negated distance body inductionHypothesis =>
      intro follow further mirrors place
      have inside : ((place.raise offset).back? distance).bind ((body.raise offset).run some) =
          ((place.back? distance).bind (body.run some)).map (Place.raise offset) := by
        rw [Place.back?_raise]
        cases place.back? distance with
        | none => rfl
        | some start => exact inductionHypothesis mirrors_some start
      simp only [raise, run, inside]
      cases (place.back? distance).bind (body.run some) with
      | none =>
          cases negated with
          | false => rfl
          | true => exact mirrors place
      | some reached =>
          cases negated with
          | false => exact mirrors { place with captures := reached.captures }
          | true => rfl
  | reference group width rule =>
      intro follow further mirrors place
      simp only [raise, run, Place.captured?_raise]
      cases place.captured? group with
      | none => rfl
      | some text =>
          dsimp only [Option.bind_some]
          rw [Place.skip?_raise]
          cases Place.skip? rule text place with
          | none => rfl
          | some reached => exact mirrors reached
  | conditional group set unset former latter =>
      intro follow further mirrors
      refine Mirrors.ite (fun place => ?_) (former mirrors) (latter mirrors)
      rw [Place.captured?_raise]

/-- A raised pattern reaches the raised places. -/
theorem run_raise (pattern : Pattern) (place : Place) :
    (pattern.raise offset).run some (place.raise offset) =
      (pattern.run some place).map (Place.raise offset) :=
  pattern.mirrorsBody_run mirrors_some place

theorem isSome_run_raise (pattern : Pattern) {place : Place} (fresh : place.captures = []) :
    ((pattern.raise offset).run some place).isSome = (pattern.run some place).isSome := by
  have reached := @run_raise offset pattern place
  rw [Place.raise_of_captures_eq_nil fresh] at reached
  rw [reached, Option.isSome_map]

end Pattern

end VirtualShell.Regex
