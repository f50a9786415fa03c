import VirtualShell.Proofs.Regex.Site

/-!
Contract: an alternative is read in a larger expression as it is read alone.

Owns:
- `Progress.setsFlags` and `Progress.refersByNumber`, the two ways in which an alternative would
  depend on what stands around it;
- `Carries`, a step that takes an embedded progress to the embedded result;
- `step_embed`: every other step is such a step.
-/

namespace VirtualShell.Regex

variable {α : Type} {site : Site} {signs behind tail : List Sign}

namespace Progress

variable {progress : Progress}

/-! ## What depends on the surroundings -/

/-- Flags are set here for the whole of an expression. -/
def setsFlags : List Sign → Bool
  | .plain '(' :: .plain '?' :: rest =>
      match readLetters true .none rest with
      | .ok (_, .plain ')' :: _) => true
      | _ => false
  | _ => false

/-- The digit and the signs behind it are an octal code point of three digits. -/
def isOctalCode (c : Char) : List Sign → Bool
  | .plain second :: .plain third :: _ => isOctal c && isOctal second && isOctal third
  | _ => false

/-- A group is referred to by its number here. -/
def refersByNumber : List Sign → Bool
  | .escaped c :: rest => c.isDigit && c != '0' && !isOctalCode c rest
  | .plain '(' :: .plain '?' :: .plain '(' :: rest =>
      match readName ')' rest with
      | .ok (name, _) => !Text.isIdentifier name
      | .error _ => false
  | _ => false

end Progress

open Progress

/-! ## Steps of an embedded progress -/

/-- What is read from a progress is also read from the embedded one with `tail` behind it, which is
left over then. -/
def Carries (site : Site) (tail signs : List Sign) (progress : Progress)
    (alone joint : Except Defect (Progress × List Sign)) : Prop :=
  ∀ next behind, alone = .ok (next, behind) → site.IsFresh next →
    joint = .ok (site.embed next, behind ++ tail) ∧ progress.StaysRooted next ∧
      Leaves signs behind

namespace Carries

variable {progress : Progress} {alone joint : Except Defect (Progress × List Sign)}

theorem error {defect : Defect} : Carries site tail signs progress (.error defect) joint := by
  intro _ _ read
  cases read

theorem ok {next result : Progress} (same : site.embed next = result)
    (stays : progress.StaysRooted next) (left : Leaves signs behind) :
    Carries site tail signs progress (.ok (next, behind)) (.ok (result, behind ++ tail)) := by
  intro _ _ read _
  cases read
  exact ⟨by rw [same], stays, left⟩

theorem within {further : List Sign} (part : Carries site tail further progress alone joint)
    (left : Leaves signs further) : Carries site tail signs progress alone joint := by
  intro next behind read fresh
  obtain ⟨same, stays, further⟩ := part next behind read fresh
  exact ⟨same, stays, left.trans further⟩

/-- A progress that is checked and changed in the same way whatever is around it. -/
theorem of_embed {change changed : Except Defect Progress}
    (each : ∀ next, change = .ok next →
      changed = .ok (site.embed next) ∧ progress.StaysRooted next)
    (left : Leaves signs behind) :
    Carries site tail signs progress (do return (← change, behind))
      (do return (← changed, behind ++ tail)) := by
  cases change with
  | error defect => exact .error
  | ok next =>
      obtain ⟨rfl, stays⟩ := each next rfl
      exact .ok rfl stays left

end Carries

section

variable {progress : Progress}

theorem Extends.carries {alone joint : Except Defect (α × List Sign)}
    {next further : α × List Sign → Except Defect (Progress × List Sign)}
    (first : Extends tail signs alone joint)
    (others : ∀ value behind, alone = .ok (value, behind) → Leaves signs behind →
      Carries site tail signs progress (next (value, behind)) (further (value, behind ++ tail))) :
    Carries site tail signs progress (alone >>= next) (joint >>= further) := by
  rcases alone with defect | ⟨value, behind⟩
  · exact .error
  · obtain ⟨rfl, left⟩ := first value behind rfl
    exact others value behind rfl left

/-- An item is read and added. -/
theorem Extends.carries_add {alone joint : Except Defect (α × List Sign)}
    (part : Extends tail signs alone joint) (item : α → Pattern)
    (fixed : ∀ value behind, alone = .ok (value, behind) →
      (item value).raise site.groups = item value ∧
        (item value).HasRule progress.level.flags.caseRule) :
    Carries site tail signs progress
      (alone.map fun (value, behind) => (progress.add (item value), behind))
      (joint.map fun (value, behind) => ((site.embed progress).add (item value), behind)) := by
  rcases alone with defect | ⟨value, behind⟩
  · exact .error
  · obtain ⟨rfl, left⟩ := part value behind rfl
    obtain ⟨same, ruled⟩ := fixed value behind rfl
    exact .ok (by rw [Site.embed_add, same]) (staysRooted_add ruled) left

theorem hasRule_single (flags : Flags) (code : Nat) : (single flags code).HasRule flags.caseRule :=
  Pattern.hasRule_one fun _ => rfl

theorem hasRule_repeatedBy {rule : CaseRule} (item : Pattern) (repetition : Repetition) :
    (item.repeatedBy repetition).HasRule rule := by
  unfold Pattern.repeatedBy
  split <;> exact Pattern.hasRule_of_branches rfl nofun

/-! ## References -/

theorem widthOf?_embed {group : Nat} {width : Width}
    (known : progress.widthOf? group = some width) :
    (site.embed progress).widthOf? (site.groups + group) = some width := by
  have same : (fun entry : Nat × Width => site.groups + entry.1 == site.groups + group) =
      fun entry => entry.1 == group := by
    funext entry
    rw [Bool.eq_iff_iff, beq_iff_eq, beq_iff_eq]
    omega
  obtain ⟨entry, found, rfl⟩ := Option.map_eq_some_iff.1 known
  unfold widthOf? Site.embed
  rw [List.find?_append, List.find?_map]
  show (((progress.widths.find? fun entry => site.groups + entry.1 == site.groups + group).map
    _).or _).map _ = _
  rw [same, found]
  rfl

theorem checkReference_embed {group : Nat} {width : Width}
    (checked : progress.checkReference group = .ok width) :
    (site.embed progress).checkReference (site.groups + group) = .ok width := by
  unfold checkReference at checked ⊢
  split at checked
  · cases checked
  · rename_i known
    rw [widthOf?_embed known]
    dsimp only [Site.embed]
    split at checked
    · rename_i first counted
      rw [counted]
      split at checked
      · cases checked
      · rename_i before
        dsimp only [Option.map_some]
        rw [if_neg (by omega)]
        exact checked
    · rename_i uncounted
      rw [uncounted]
      exact checked

theorem addReference_embed (site : Site) {group : Nat} {next : Progress}
    (added : progress.addReference group = .ok next) :
    (site.embed progress).addReference (site.groups + group) = .ok (site.embed next) ∧
      progress.StaysRooted next := by
  unfold addReference at added ⊢
  cases checked : progress.checkReference group with
  | error defect =>
      rw [checked] at added
      cases added
  | ok width =>
      rw [checked] at added
      cases added
      rw [checkReference_embed checked, Site.embed_add, Site.flags_embed]
      exact ⟨rfl, staysRooted_add (Pattern.hasRule_of_branches rfl nofun)⟩

theorem carries_reference (group : Nat) (left : Leaves signs behind) :
    Carries site tail signs progress
      (do return (← progress.addReference group, behind))
      (do return (← (site.embed progress).addReference (site.groups + group), behind ++ tail)) :=
  .of_embed (fun _ added => addReference_embed site added) left

theorem find?_names_embed {test : String → Bool} {name : String} {group : Nat}
    (found : progress.names.find? (fun entry => test entry.1) = some (name, group)) :
    (site.embed progress).names.find? (fun entry => test entry.1) =
      some (name, site.groups + group) := by
  unfold Site.embed
  rw [List.find?_append, List.find?_map]
  show ((progress.names.find? fun entry => test entry.1).map _).or _ = _
  rw [found]
  rfl

/-! ## Bars and parentheses -/

theorem alternate_embed (site : Site) {next : Progress} {flags : Flags}
    (rooted : progress.IsRooted flags) (read : progress.alternate = .ok next) :
    (site.embed progress).alternate = .ok (site.embed next) ∧ progress.StaysRooted next := by
  have reversed (items : List Pattern) := raise_inOrder_reverse site.groups items
  obtain ⟨⟨opener, inside, alternatives, items⟩, outer, _⟩ := progress
  have ended {kind : Opener} (uniform : Level.IsUniform ⟨kind, inside, alternatives, items⟩) :
      Level.IsUniform ⟨kind, inside, Pattern.inOrder items.reverse :: alternatives, []⟩ :=
    List.forall_mem_append.2 ⟨List.forall_mem_cons.2
      ⟨uniform.hasRule_items, (List.forall_mem_append.1 uniform).1⟩, nofun⟩
  cases outer with
  | nil =>
      -- Alone the bar stands outside of all parentheses, here in the one around the alternative.
      obtain ⟨whole, -⟩ := rooted.level_eq rfl
      cases whole
      cases read
      refine ⟨?_, staysRooted_of_level rfl (.inl rfl) ended⟩
      simp only [alternate, Site.embed, Site.stack, Site.ground, ← reversed]
      split
      · rename_i opened
        exact absurd opened (site.unconditional _ _)
      · rename_i opened
        exact absurd opened (site.unconditional _ _)
      · rfl
  | cons below outer =>
      cases opener with
      | condition group set =>
          cases set with
          | none =>
              cases read
              refine ⟨?_, staysRooted_of_level rfl (.inr ⟨_, _, _, rfl, rfl⟩) fun _ => nofun⟩
              simp only [alternate, Site.embed, Site.stack, Level.raise, Opener.raise,
                Option.map_none, ← reversed]
              rfl
          | some set => cases read
      | _ =>
          cases read
          refine ⟨?_, staysRooted_of_level rfl (.inl rfl) ended⟩
          simp only [alternate, Site.embed, Site.stack, Level.raise, Opener.raise, ← reversed]
          rfl

theorem close_embed (site : Site) {next : Progress} (read : progress.close = .ok next) :
    (site.embed progress).close = .ok (site.embed next) ∧ progress.StaysRooted next := by
  by_cases ended : progress.outer = []
  · unfold close at read
    rw [ended] at read
    cases read
  obtain ⟨around, ⟨opener, flags, alternatives, items⟩, rfl⟩ := exists_inside ended
  have added (item : Pattern) : (.ok ((site.embed around).add (item.raise site.groups)) :
      Except Defect Progress) = .ok (site.embed (around.add item)) := by rw [Site.embed_add]
  unfold close at read ⊢
  rw [Site.embed_inside]
  dsimp only [Progress.inside] at read ⊢
  rw [content_raise]
  have grouped (uniform : Level.IsUniform ⟨opener, flags, alternatives, items⟩) :
      (content ⟨opener, flags, alternatives, items⟩).HasRule flags.caseRule :=
    uniform.hasRule_content
  -- Of what is inside only its pattern counts from here on, and what the parenthesis is for.
  generalize content ⟨opener, flags, alternatives, items⟩ = body at read grouped ⊢
  have plain (other : ∀ negated, opener ≠ .lookBehind negated true) {item : Pattern}
      (ruled : item.HasRule around.level.flags.caseRule) :
      (around.inside ⟨opener, flags, alternatives, items⟩).StaysRooted (around.add item) :=
    staysRooted_close rfl rfl rfl (.inr ⟨rfl, other⟩) fun _ _ => ruled
  cases opener with
  | whole => cases read
  | plain =>
      cases read
      refine ⟨added body,
        staysRooted_close rfl rfl rfl (.inr ⟨rfl, nofun⟩) fun uniform within => ?_⟩
      rw [← within rfl]
      exact grouped uniform
  | group number =>
      cases number with
      | none =>
          cases read
          exact ⟨added (.group none body), plain nofun (Pattern.hasRule_of_branches rfl nofun)⟩
      | some number =>
          cases read
          refine ⟨?_, staysRooted_close rfl rfl rfl (.inr ⟨rfl, nofun⟩) fun _ _ =>
            Pattern.hasRule_of_branches rfl nofun⟩
          rw [Site.embed_add, Pattern.width_raise]
          rfl
  | atomic =>
      cases read
      exact ⟨added (.atomic body), plain nofun (Pattern.hasRule_of_branches rfl nofun)⟩
  | lookAhead negated =>
      cases read
      exact ⟨added (.lookAhead negated body), plain nofun (Pattern.hasRule_of_branches rfl nofun)⟩
  | lookBehind negated isOutermost =>
      cases read
      cases isOutermost with
      | true =>
          refine ⟨?_, staysRooted_close rfl rfl rfl (.inl rfl) fun _ _ =>
            Pattern.hasRule_of_branches rfl nofun⟩
          dsimp only [Level.raise, Opener.raise]
          rw [Site.embed_add, Pattern.width_raise]
          rfl
      | false =>
          refine ⟨?_, staysRooted_close rfl rfl rfl (.inr ⟨rfl, nofun⟩) fun _ _ =>
            Pattern.hasRule_of_branches rfl nofun⟩
          dsimp only [Level.raise, Opener.raise]
          rw [Site.embed_add, Pattern.width_raise]
          rfl
  | condition group set =>
      cases set with
      | none =>
          cases read
          exact ⟨added (.conditional group body .empty),
            plain nofun (Pattern.hasRule_of_branches rfl nofun)⟩
      | some set =>
          cases read
          exact ⟨added (.conditional group set body),
            plain nofun (Pattern.hasRule_of_branches rfl nofun)⟩

/-! ## Repetitions -/

/-- How the sign behind a repetition says that the numbers of repetitions are tried. -/
def greedOf : List Sign → Greed × List Sign
  | .plain '?' :: rest => (.lazy, rest)
  | .plain '+' :: rest => (.possessive, rest)
  | other => (.greedy, other)

theorem greedOf_append (closed : IsClosed tail) (signs : List Sign) :
    greedOf (signs ++ tail) = ((greedOf signs).1, (greedOf signs).2 ++ tail) := by
  fun_cases greedOf signs with
  | case1 rest => rfl
  | case2 rest => rfl
  | case3 _ notLazy notPossessive =>
      unfold greedOf
      split
      · exact absurd ‹_› (closed.not_append (by decide) notLazy)
      · exact absurd ‹_› (closed.not_append (by decide) notPossessive)
      · rfl

theorem leaves_greedOf (signs : List Sign) : Leaves signs (greedOf signs).2 := by
  fun_cases greedOf signs with
  | case1 rest => exact leaves_plain _ _
  | case2 rest => exact leaves_plain _ _
  | case3 => exact .refl _

theorem repeatLast_eq (progress : Progress) (least : Nat) (most : Option Nat) (signs : List Sign) :
    progress.repeatLast least most signs =
      match progress.level.items with
      | [] => .error .malformed
      | item :: others =>
          if item.isAnchor || item.isRepetition then .error .malformed
          else
            .ok ({ progress with
              level := { progress.level with
                items := item.repeatedBy ⟨least, most, (greedOf signs).1⟩ :: others }
              isFaulty := progress.isFaulty || progress.level.flags.fixedOnly },
              (greedOf signs).2) :=
  rfl

theorem carries_repeatLast (closed : IsClosed tail) (least : Nat) (most : Option Nat)
    (signs : List Sign) :
    Carries site tail signs progress (progress.repeatLast least most signs)
      ((site.embed progress).repeatLast least most (signs ++ tail)) := by
  have repeated (item : Pattern) (others : List Pattern) (repetition : Repetition) (faulty : Bool) :
      site.embed { progress with
        level := { progress.level with items := item.repeatedBy repetition :: others }
        isFaulty := faulty } =
      { site.embed progress with
        level := { (site.embed progress).level with
          items := (item.raise site.groups).repeatedBy repetition ::
            others.map (·.raise site.groups) }
        isFaulty := faulty } := by
    rw [← Pattern.raise_repeatedBy, ← List.map_cons]
    exact @Site.embed_withItems site { progress with isFaulty := faulty } _
  have stays {item : Pattern} {others : List Pattern} (repetition : Repetition) (faulty : Bool)
      (last : progress.level.items = item :: others) : progress.StaysRooted { progress with
        level := { progress.level with items := item.repeatedBy repetition :: others }
        isFaulty := faulty } := by
    have judged : progress.StaysRooted { progress with isFaulty := faulty } :=
      staysRooted_of_eq rfl rfl rfl rfl
    refine judged.trans (staysRooted_of_level rfl (.inl rfl) fun uniform => ?_)
    obtain ⟨alternatives, items⟩ := List.forall_mem_append.1 uniform
    exact List.forall_mem_append.2 ⟨alternatives, List.forall_mem_cons.2
      ⟨hasRule_repeatedBy item repetition, (List.forall_mem_cons.1 (last ▸ items)).2⟩⟩
  rw [repeatLast_eq, repeatLast_eq, Site.items_embed, Site.flags_embed, greedOf_append closed]
  cases last : progress.level.items with
  | nil => exact .error
  | cons item others =>
      rw [List.map_cons]
      dsimp only
      rw [Pattern.isAnchor_raise, Pattern.isRepetition_raise]
      split
      · exact .error
      · exact .ok (repeated _ _ _ _) (stays _ _ last) (leaves_greedOf signs)

/-- The digits of the least and the greatest number between braces, and the signs behind them. -/
def countsIn (signs : List Sign) : List Char × List Char × List Sign :=
  let (low, behindLow) := takePlain Char.isDigit none signs
  let (high, behind) := match behindLow with
    | .plain ',' :: rest => takePlain Char.isDigit none rest
    | other => (low, other)
  (low, high, behind)

theorem countsIn_append (closed : IsClosed tail) (signs : List Sign) :
    countsIn (signs ++ tail) =
      ((countsIn signs).1, (countsIn signs).2.1, (countsIn signs).2.2 ++ tail) := by
  have digits := @IsClosed.takePlain tail closed Char.isDigit (by decide) (by decide) none
  unfold countsIn
  rw [digits]
  dsimp only
  generalize takePlain Char.isDigit none signs = taken
  obtain ⟨low, behindLow⟩ := taken
  dsimp only
  split
  · rename_i same
    obtain ⟨rest, rfl, rfl⟩ := closed.cons_of_append (by decide) same
    rw [digits]
    rfl
  · rename_i single
    split
    · exact absurd rfl (single _)
    · rfl

theorem leaves_countsIn (signs : List Sign) : Leaves signs (countsIn signs).2.2 := by
  have left := leaves_takePlain Char.isDigit none signs
  unfold countsIn
  dsimp only
  split
  · rename_i same
    rw [same] at left
    exact (left.trans (leaves_plain _ _)).trans (leaves_takePlain _ _ _)
  · exact left

/-- The last item is repeated as often as the digits between braces say. -/
def Progress.repeatCounted (progress : Progress) (low high : List Char) (rest : List Sign) :
    Except Defect (Progress × List Sign) := do
  if rest.head? = some .broken then throw .malformed
  let least := (← repetitionNumber low).getD 0
  let most ← repetitionNumber high
  if most.any (· < least) then throw .malformed
  progress.repeatLast least most rest

theorem readBraces_eq (unended : ∀ rest, signs = .plain '}' :: rest → False) :
    progress.readBraces signs =
      match (countsIn signs).2.2 with
      | .plain '}' :: rest => progress.repeatCounted (countsIn signs).1 (countsIn signs).2.1 rest
      | _ => .ok (progress.add (single progress.level.flags '{'.toNat), signs) := by
  unfold readBraces
  dsimp only
  split
  · exact absurd rfl (unended _)
  · rfl

theorem carries_repeatCounted (closed : IsClosed tail) (low high : List Char) (signs : List Sign) :
    Carries site tail signs progress (progress.repeatCounted low high signs)
      ((site.embed progress).repeatCounted low high (signs ++ tail)) := by
  have head : signs.head? ≠ some .broken → (signs ++ tail).head? ≠ some .broken := by
    intro whole
    cases signs with
    | nil =>
        cases tail with
        | nil => exact whole
        | cons sign rest => rcases closed _ _ rfl with rfl | rfl <;> simp
    | cons sign rest => exact whole
  unfold repeatCounted
  by_cases broken : signs.head? = some .broken
  · rw [if_pos broken]
    exact .error
  · rw [if_neg broken, if_neg (head broken)]
    cases repetitionNumber low with
    | error defect => exact .error
    | ok least =>
        cases repetitionNumber high with
        | error defect => exact .error
        | ok most =>
            simp only [bind, Except.bind]
            split
            · exact .error
            · exact carries_repeatLast closed _ _ _

theorem carries_readBraces (closed : IsClosed tail) (signs : List Sign) :
    Carries site tail signs progress (progress.readBraces signs)
      ((site.embed progress).readBraces (signs ++ tail)) := by
  have literal : Carries site tail signs progress
      (.ok (progress.add (single progress.level.flags '{'.toNat), signs))
      (.ok ((site.embed progress).add (single progress.level.flags '{'.toNat), signs ++ tail)) :=
    .ok (Site.embed_add _) (staysRooted_add (hasRule_single _ _)) (.refl _)
  by_cases ended : ∃ rest, signs = .plain '}' :: rest
  · obtain ⟨rest, rfl⟩ := ended
    show Carries site tail _ progress
      (.ok (progress.add (single progress.level.flags '{'.toNat), _))
      (.ok ((site.embed progress).add (single (site.embed progress).level.flags '{'.toNat), _))
    rw [Site.flags_embed]
    exact literal
  · have unended (rest : List Sign) (same : signs = .plain '}' :: rest) : False :=
      ended ⟨rest, same⟩
    rw [readBraces_eq unended, readBraces_eq fun _ => closed.not_append (by decide) unended,
      countsIn_append closed, Site.flags_embed]
    have left := leaves_countsIn signs
    generalize countsIn signs = counts at left
    obtain ⟨low, high, behind⟩ := counts
    dsimp only at left ⊢
    split
    · rename_i rest
      exact (carries_repeatCounted closed low high rest).within (left.trans (leaves_plain _ _))
    · rename_i open_
      split
      · exact absurd ‹_› (closed.not_append (by decide) open_)
      · exact literal

/-! ## Groups -/

theorem carries_readNamed (signs : List Sign) :
    Carries site tail signs progress (progress.readNamed signs)
      ((site.embed progress).readNamed (signs ++ tail)) := by
  unfold readNamed
  split
  · refine ((extends_readName '>' _).within (leaves_plain _ _)).carries fun name behind _ left => ?_
    dsimp only
    split
    · exact .error
    · rename_i named
      rw [Bool.not_eq_true, Bool.or_eq_false_iff] at named
      intro next _ read fresh
      cases read
      have unknown : (site.embed progress).names.any
          (fun entry => entry.1 == String.ofList name) = false := by
        have others : site.names.any (fun entry => entry.1 == String.ofList name) = false := by
          rw [List.any_eq_false]
          intro known member same
          exact fresh _ List.mem_cons_self known member (beq_iff_eq.1 same).symm
        unfold Site.embed
        rw [List.any_append, List.any_map, others, Bool.or_false]
        exact named.2
      rw [named.1, unknown]
      refine ⟨?_, ?_, left⟩
      · rw [Site.embed_openGroup]
        rfl
      · have counted : progress.StaysRooted { progress with
            groups := progress.groups + 1
            names := (String.ofList name, progress.groups + 1) :: progress.names } :=
          staysRooted_of_eq rfl rfl rfl rfl
        exact counted.trans (staysRooted_push nofun)
  · refine ((extends_readName ')' _).within (leaves_plain _ _)).carries fun name behind _ left => ?_
    dsimp only
    split
    · exact .error
    · rename_i entry group found
      rw [@find?_names_embed site progress (· == String.ofList name) _ _ found]
      exact carries_reference group left
  · exact .error

/-- Behind a condition on a group there is its first branch. -/
theorem carries_condition (group : Nat) (left : Leaves signs behind) :
    Carries site tail signs progress
      (do
        if progress.behindFrom.isSome then
          let _ ← progress.checkReference group
        let noted := { progress with conditions := group :: progress.conditions }
        return (noted.push (.condition group none) progress.level.flags, behind))
      (do
        if (site.embed progress).behindFrom.isSome then
          let _ ← (site.embed progress).checkReference (site.groups + group)
        let noted := { site.embed progress with
          conditions := (site.groups + group) :: (site.embed progress).conditions }
        return (noted.push (.condition (site.groups + group) none)
          (site.embed progress).level.flags, behind ++ tail)) := by
  have noted : progress.StaysRooted { progress with conditions := group :: progress.conditions } :=
    staysRooted_of_eq rfl rfl rfl rfl
  have opened : Carries site tail signs progress
      (.ok ({ progress with conditions := group :: progress.conditions }.push
        (.condition group none) progress.level.flags, behind))
      (.ok ({ site.embed progress with
        conditions := (site.groups + group) :: (site.embed progress).conditions }.push
          (.condition (site.groups + group) none) progress.level.flags, behind ++ tail)) :=
    .ok rfl (noted.trans (staysRooted_push nofun)) left
  have same : (site.embed progress).behindFrom.isSome = progress.behindFrom.isSome :=
    Option.isSome_map
  rw [same, Site.flags_embed]
  dsimp only
  split
  · cases checked : progress.checkReference group with
    | error defect => exact .error
    | ok width =>
        rw [checkReference_embed checked]
        exact opened
  · exact opened

theorem carries_readCondition (signs : List Sign)
    (numberless : site.groups = 0 ∨
      refersByNumber (.plain '(' :: .plain '?' :: .plain '(' :: signs) = false) :
    Carries site tail signs progress (progress.readCondition signs)
      ((site.embed progress).readCondition (signs ++ tail)) := by
  have first : ∀ name rest, readName ')' signs = .ok (name, rest) →
      Text.isIdentifier name = false → site.groups = 0 := by
    intro name rest read unnamed
    rcases numberless with first | other
    · exact first
    · rw [refersByNumber, read] at other
      dsimp only at other
      rw [unnamed] at other
      cases other
  unfold readCondition
  cases read : readName ')' signs with
  | error defect => exact .error
  | ok result =>
      obtain ⟨name, rest⟩ := result
      obtain ⟨joint, left⟩ := extends_readName ')' signs name rest read
      rw [joint]
      simp only [bind, Except.bind]
      split
      · split
        · exact .error
        · rename_i entry group found
          rw [@find?_names_embed site progress (· == String.ofList name) _ _ found]
          exact carries_condition group left
      · rename_i unnamed
        have none : site.groups = 0 := first name rest read (by simpa using unnamed)
        cases Text.readInteger (String.ofList name) with
        | error defect => exact .error
        | ok number =>
            dsimp only
            split
            · have same : number.toNat = site.groups + number.toNat := by omega
              have condition := @carries_condition site signs rest tail progress number.toNat left
              rw [← same] at condition
              exact condition
            · exact .error

theorem carries_openLookBehind (negated : Bool) (left : Leaves signs behind) :
    Carries site tail signs progress (.ok (progress.openLookBehind negated, behind))
      (.ok ((site.embed progress).openLookBehind negated, behind ++ tail)) := by
  refine .ok ?_ ?_ left
  · unfold openLookBehind
    rw [Site.embed_push, Site.flags_embed]
    dsimp only [Site.embed]
    cases progress.behindFrom <;> rfl
  · intro flags rooted
    have base : (progress.openLookBehind negated).base = progress.base := List.getLastD_cons
    refine ⟨rooted.whole, base ▸ rooted.base_opener, base ▸ rooted.base_flags, fun _ => ?_,
      List.forall_mem_cons.2 ⟨nofun, rooted.uniform⟩, .cons_cons nofun rooted.nested⟩
    cases known : progress.behindFrom with
    | none =>
        refine ⟨_, List.mem_cons_self, negated, ?_⟩
        simp only [openLookBehind, push, known]
        rfl
    | some first =>
        obtain ⟨found, member, opened⟩ := rooted.behind (by rw [known]; rfl)
        exact ⟨found, List.mem_cons_of_mem _ member, opened⟩

/-! ## Flags and extensions -/

theorem carries_push {opener : Opener} {flags : Flags}
    (fixed : opener.raise site.groups = opener)
    (grouping : opener = .plain → flags = progress.level.flags) (left : Leaves signs behind) :
    Carries site tail signs progress (.ok (progress.push opener flags, behind))
      (.ok ((site.embed progress).push opener flags, behind ++ tail)) :=
  .ok (by rw [Site.embed_push, fixed]) (staysRooted_push grouping) left

theorem carries_readFlags (closed : IsClosed tail) (signs : List Sign)
    (flagless : setsFlags (.plain '(' :: .plain '?' :: signs) = false) :
    Carries site tail signs progress (progress.readFlags signs)
      ((site.embed progress).readFlags (signs ++ tail)) := by
  by_cases present : signs = []
  · subst present
    exact .error
  have head : (signs ++ tail).head? = signs.head? := by
    obtain ⟨sign, rest, rfl⟩ := List.exists_cons_of_ne_nil present
    rfl
  unfold readFlags
  rw [head, Site.flags_embed]
  split
  · exact .error
  · refine (extends_readLetters closed true .none signs).carries fun added behind read left => ?_
    dsimp only
    split
    · rw [setsFlags, read] at flagless
      cases flagless
    · split
      · exact .error
      · exact carries_push rfl nofun (left.trans (leaves_plain _ _))
    · refine ((extends_readLetters closed false .none _).within
        (left.trans (leaves_plain _ _))).carries fun removed further _ left => ?_
      dsimp only
      split
      · split
        · exact .error
        · exact carries_push rfl nofun (left.trans (leaves_plain _ _))
      · exact .error
    · exact .error

theorem carries_comment :
    Carries site tail signs progress
      ((skipComment signs).map fun behind => (progress, behind))
      ((skipComment (signs ++ tail)).map fun behind => (site.embed progress, behind)) := by
  cases read : skipComment signs with
  | error defect => exact .error
  | ok behind =>
      obtain ⟨joint, left⟩ := skipComment_append tail read
      rw [joint]
      exact .ok rfl (staysRooted_of_eq rfl rfl rfl rfl) left

theorem carries_readExtension (closed : IsClosed tail) (signs : List Sign)
    (flagless : setsFlags (.plain '(' :: .plain '?' :: signs) = false)
    (numberless : site.groups = 0 ∨
      refersByNumber (.plain '(' :: .plain '?' :: signs) = false) :
    Carries site tail signs progress (progress.readExtension signs)
      ((site.embed progress).readExtension (signs ++ tail)) := by
  unfold readExtension
  rw [Site.flags_embed]
  dsimp only
  split
  · exact (carries_readNamed _).within (leaves_plain _ _)
  · exact carries_push rfl (fun _ => rfl) (leaves_plain _ _)
  · exact carries_comment.within (leaves_plain _ _)
  · exact carries_push rfl nofun (leaves_plain _ _)
  · exact carries_push rfl nofun (leaves_plain _ _)
  · exact carries_openLookBehind _ ((leaves_plain _ _).trans (leaves_plain _ _))
  · exact carries_openLookBehind _ ((leaves_plain _ _).trans (leaves_plain _ _))
  · exact (carries_readCondition _ numberless).within (leaves_plain _ _)
  · exact carries_push rfl nofun (leaves_plain _ _)
  · rename_i named plain comment ahead notAhead behind notBehind condition atomic
    split
    · exact absurd ‹_› (closed.not_append (by decide) named)
    · exact absurd ‹_› (closed.not_append (by decide) plain)
    · exact absurd ‹_› (closed.not_append (by decide) comment)
    · exact absurd ‹_› (closed.not_append (by decide) ahead)
    · exact absurd ‹_› (closed.not_append (by decide) notAhead)
    · rename_i same
      obtain ⟨rest, rfl, second⟩ := closed.cons_of_append (by decide) same
      obtain ⟨others, rfl, -⟩ := closed.cons_of_append (by decide) second.symm
      exact absurd rfl (behind others)
    · rename_i same
      obtain ⟨rest, rfl, second⟩ := closed.cons_of_append (by decide) same
      obtain ⟨others, rfl, -⟩ := closed.cons_of_append (by decide) second.symm
      exact absurd rfl (notBehind others)
    · exact absurd ‹_› (closed.not_append (by decide) condition)
    · exact absurd ‹_› (closed.not_append (by decide) atomic)
    · exact carries_readFlags closed signs flagless

/-! ## Escapes -/

theorem exists_of_isOctalCode {c : Char} (octal : isOctalCode c signs = true) :
    ∃ second third further, signs = .plain second :: .plain third :: further ∧
      (isOctal c && isOctal second && isOctal third) = true := by
  unfold isOctalCode at octal
  split at octal
  · exact ⟨_, _, _, rfl, octal⟩
  · cases octal

theorem isOctalCode_append (closed : IsClosed tail) (c : Char) (signs : List Sign) :
    isOctalCode c (signs ++ tail) = isOctalCode c signs := by
  have none : isOctal '|' = false ∧ isOctal ')' = false := by decide
  match signs with
  | [] =>
      cases tail with
      | nil => rfl
      | cons sign rest =>
          cases rest with
          | nil => rcases closed _ _ rfl with rfl | rfl <;> rfl
          | cons next rest =>
            rcases closed _ _ rfl with rfl | rfl <;> cases next <;> simp [isOctalCode, none]
  | [sign] =>
      cases tail with
      | nil => rfl
      | cons next rest =>
          rcases closed _ _ rfl with rfl | rfl <;> cases sign <;> simp [isOctalCode, none]
  | first :: second :: rest =>
      cases first <;> cases second <;> rfl

theorem isDigit_of_isOctal {c : Char} (octal : isOctal c = true) : c.isDigit = true := by
  unfold isOctal at octal
  rw [Bool.and_eq_true, decide_eq_true_iff, decide_eq_true_iff] at octal
  unfold Char.isDigit
  rw [Bool.and_eq_true, decide_eq_true_iff, decide_eq_true_iff]
  exact ⟨octal.1, UInt32.le_trans octal.2 (by decide)⟩

theorem takePlain_one (allowed : Char → Bool) (c : Char) (rest : List Sign) :
    takePlain allowed (some 1) (.plain c :: rest) =
      if allowed c then ([c], rest) else ([], .plain c :: rest) := by
  have last : (some 1).map (· - 1) = some 0 := rfl
  rw [takePlain.eq_2 _ _ _ _ (by simp), last, takePlain.eq_1]

/-- Digits that are no octal code point are the number of a group. -/
theorem readNumberEscape_of_not_isOctalCode {c : Char} (number : isOctalCode c signs = false) :
    progress.readNumberEscape c signs = do
      let (digits, behind) := takePlain Char.isDigit (some 1) signs
      return (← progress.addReference (Text.numberIn 10 (c :: digits)), behind) := by
  unfold readNumberEscape
  dsimp only
  match signs with
  | [] => rfl
  | .escaped _ :: _ => rfl
  | .broken :: _ => rfl
  | .plain second :: behind =>
      rw [takePlain_one]
      dsimp only
      split
      · split
        · rw [isOctalCode] at number
          rw [if_neg (by simp [number])]
        · rfl
      · rfl

theorem carries_readNumberEscape (closed : IsClosed tail) {c : Char} (signs : List Sign)
    (numberless : site.groups = 0 ∨ isOctalCode c signs = true) :
    Carries site tail signs progress (progress.readNumberEscape c signs)
      ((site.embed progress).readNumberEscape c (signs ++ tail)) := by
  cases octal : isOctalCode c signs with
  | false =>
      have joint := (isOctalCode_append closed c signs).trans octal
      rw [readNumberEscape_of_not_isOctalCode octal, readNumberEscape_of_not_isOctalCode joint,
        closed.takePlain (by decide) (by decide)]
      -- Where no groups are counted before, a number means the same group.
      have first : site.groups = 0 := numberless.resolve_right (by simp [octal])
      have same (number : Nat) : number = site.groups + number := by omega
      have carries (number : Nat) {behind : List Sign} (left : Leaves signs behind) :=
        @carries_reference site signs behind tail progress number left
      simp only [← same] at carries
      exact carries _ (leaves_takePlain _ _ _)
  | true =>
      obtain ⟨second, third, further, rfl, digits⟩ := exists_of_isOctalCode octal
      have digit : second.isDigit = true := by
        simp only [Bool.and_eq_true] at digits
        exact isDigit_of_isOctal digits.1.2
      unfold readNumberEscape
      dsimp only [List.cons_append]
      rw [if_pos digit, if_pos digit, if_pos digits, if_pos digits, Site.flags_embed]
      split
      · exact .ok (Site.embed_add _) (staysRooted_add (hasRule_single _ _))
          ((leaves_plain _ _).trans (leaves_plain _ _))
      · exact .error

theorem carries_readEscape (closed : IsClosed tail) (c : Char) (signs : List Sign)
    (numberless : site.groups = 0 ∨ refersByNumber (.escaped c :: signs) = false) :
    Carries site tail signs progress (progress.readEscape c signs)
      ((site.embed progress).readEscape c (signs ++ tail)) := by
  unfold readEscape
  rw [Site.flags_embed]
  dsimp only
  split
  · exact .ok (Site.embed_add _)
      (staysRooted_add (Pattern.hasRule_of_branches rfl nofun)) (.refl _)
  · exact .ok (Site.embed_add _) (staysRooted_add (Pattern.hasRule_one fun _ => rfl)) (.refl _)
  · exact .ok (Site.embed_add _) (staysRooted_add (hasRule_single _ _)) (.refl _)
  · split
    · rw [closed.takePlain (by decide) (by decide)]
      exact .ok (Site.embed_add _) (staysRooted_add (hasRule_single _ _)) (leaves_takePlain _ _ _)
    · rename_i nonzero
      split
      · rename_i digit
        refine carries_readNumberEscape closed signs (numberless.imp_right fun other => ?_)
        simpa [refersByNumber, digit, nonzero] using other
      · exact (extends_readCodeEscape closed c signs).carries_add (single _) fun code _ _ =>
          ⟨rfl, hasRule_single _ code⟩

/-! ## One step -/

theorem exists_of_readSet {flags : Flags} {set : Pattern}
    (read : readSet flags signs = .ok (set, behind)) :
    ∃ members, set = .one members ∧ members.caseRule = flags.caseRule := by
  unfold readSet at read
  dsimp only at read
  generalize readMembers flags _ _ _ = members at read
  cases members with
  | error defect => cases read
  | ok members =>
      cases read
      exact ⟨_, rfl, rfl⟩

theorem carries_readPlain (closed : IsClosed tail) {flags : Flags}
    (rooted : progress.IsRooted flags) (c : Char) (signs : List Sign)
    (flagless : setsFlags (.plain c :: signs) = false)
    (numberless : site.groups = 0 ∨ refersByNumber (.plain c :: signs) = false) :
    Carries site tail signs progress (progress.readPlain c signs)
      ((site.embed progress).readPlain c (signs ++ tail)) := by
  have added (item : Pattern) (fixed : item.raise site.groups = item)
      (ruled : item.HasRule progress.level.flags.caseRule) :
      Carries site tail signs progress (.ok (progress.add item, signs))
        (.ok ((site.embed progress).add item, signs ++ tail)) :=
    .ok (by rw [Site.embed_add, fixed]) (staysRooted_add ruled) (.refl _)
  unfold readPlain
  rw [Site.flags_embed]
  dsimp only
  split
  · refine (extends_readSet closed _ _).carries_add id fun set behind read => ?_
    obtain ⟨members, rfl, ruled⟩ := exists_of_readSet read
    exact ⟨rfl, Pattern.hasRule_one fun _ => ruled⟩
  · exact carries_repeatLast closed _ _ _
  · exact carries_repeatLast closed _ _ _
  · exact carries_repeatLast closed _ _ _
  · exact carries_readBraces closed _
  · exact added _ rfl (Pattern.hasRule_one nofun)
  · split
    · exact (carries_readExtension closed _ flagless numberless).within (leaves_plain _ _)
    · rename_i notExtension
      split
      · exact absurd ‹_› (closed.not_append (by decide) notExtension)
      · have counted : progress.StaysRooted { progress with groups := progress.groups + 1 } :=
          staysRooted_of_eq rfl rfl rfl rfl
        exact .ok Site.embed_openGroup (counted.trans (staysRooted_push nofun)) (.refl _)
  · exact .of_embed (fun _ read => close_embed site read) (.refl _)
  · exact .of_embed (fun _ read => alternate_embed site rooted read) (.refl _)
  · exact added _ rfl (Pattern.hasRule_of_branches rfl nofun)
  · exact added _ rfl (Pattern.hasRule_of_branches rfl nofun)
  · exact added _ rfl (hasRule_single _ _)

/-- A step that neither sets flags for the whole expression nor refers to a group by a number that
changes is the same step in the larger expression. -/
theorem step_embed (closed : IsClosed tail) {flags : Flags} (spaced : flags.verbose = false)
    (rooted : progress.IsRooted flags) {sign : Sign} {next : Progress}
    (flagless : setsFlags (sign :: signs) = false)
    (numberless : site.groups = 0 ∨ refersByNumber (sign :: signs) = false)
    (read : progress.step sign signs = .ok (next, behind)) (fresh : site.IsFresh next)
    (ended : behind = [] → next.outer = []) :
    (site.embed progress).step sign (signs ++ tail) = .ok (site.embed next, behind ++ tail) ∧
      next.IsRooted flags ∧ Leaves (sign :: signs) behind := by
  unfold step at read ⊢
  rw [Site.flags_embed]
  cases sign with
  | broken => cases read
  | escaped c =>
      obtain ⟨joint, stays, left⟩ :=
        carries_readEscape closed c signs numberless next behind read fresh
      exact ⟨joint, stays rooted, (leaves_escaped c signs).trans left⟩
  | plain c =>
      dsimp only at read ⊢
      split at read
      · rename_i spacing
        cases read
        rw [if_pos spacing]
        exact ⟨rfl, rooted, leaves_plain c signs⟩
      · rename_i notSpacing
        rw [if_neg notSpacing]
        split at read
        · rename_i comment
          rw [if_pos comment]
          obtain ⟨verbose, -⟩ := Bool.and_eq_true_iff.1 comment
          have present : signs.dropWhile (· != .plain '\n') ≠ [] := by
            -- At the end of the expression no parenthesis is open, and outside spacing counts.
            intro spent
            rw [spent] at read
            split at read
            · cases read
            · cases read
              rw [(rooted.level_eq (ended rfl)).2, spaced] at verbose
              cases verbose
          obtain ⟨rest, ending, joint, left⟩ := exists_dropWhile tail present
          rw [ending] at read
          cases read
          rw [joint]
          exact ⟨rfl, rooted, (leaves_plain c signs).trans left⟩
        · rename_i notComment
          rw [if_neg notComment]
          obtain ⟨joint, stays, left⟩ := carries_readPlain closed rooted c signs flagless
            numberless next behind read fresh
          exact ⟨joint, stays rooted, (leaves_plain c signs).trans left⟩

end

end VirtualShell.Regex
