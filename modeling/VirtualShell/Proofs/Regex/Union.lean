import Mathlib.Tactic.Choose
import VirtualShell.Proofs.Regex.Alternatives

/-!
Contract: when expressions joined by bars find what they find one by one.

Owns:
- `AreSeparate`, that no expression changes what another one means, and `MergeAsIs`, that no set
  which alternatives become holds something else than they do;
- `exists_read_union`: expressions that are read one by one, are separate and merge as they are, are
  read together, and a text holds a match of the whole just if it holds a match of one of them;
- `isInert_escape`: what is escaped is read, and changes nothing.

Expressions that are not separate can be malformed together, or find more or less than one by one:
flags count for the whole expression, a name may be given once, and groups are numbered through.
Where letters are told apart by case and between word boundaries sets are merged as they are; where
case is ignored this is so of code points and ranges of the basic plane
(`VirtualShell.Proofs.Regex.Folding`).
-/

namespace VirtualShell.Regex

open Progress

variable {ignoreCase : Bool} {text : String} {texts : List String}

/-! ## Matches in a text -/

/-- A pattern that matches at a place where one of some patterns does, matches in a text that one of
them matches in. -/
theorem occursIn_eq_any {α : Type} {pattern : Pattern} {patterns : List α} {each : α → Pattern}
    (same : ∀ place, place.captures = [] →
      pattern.matchesAt place = patterns.any fun item => (each item).matchesAt place)
    (text : String) :
    pattern.occursIn text = patterns.any fun item => (each item).occursIn text := by
  have from_ (position : Nat) (before after : List Char) :
      pattern.occursFrom position before after =
        patterns.any fun item => (each item).occursFrom position before after := by
    induction after generalizing position before with
    | nil => exact same ⟨position, before, [], []⟩ rfl
    | cons c rest inductionHypothesis =>
        have here := same ⟨position, before, c :: rest, []⟩ rfl
        show (pattern.matchesAt _ || pattern.occursFrom _ _ _) = patterns.any fun item =>
          (each item).matchesAt _ || (each item).occursFrom _ _ _
        rw [here, inductionHypothesis, Bool.eq_iff_iff]
        simp only [Bool.or_eq_true, List.any_eq_true, and_or_left, exists_or]
  exact from_ 0 [] text.toList

/-! ## Separate expressions -/

/-- No expression changes what another one means: none sets flags for all, unless it is alone and
nothing is put around it; no two give the same name; and behind one with groups none refers to a
group by its number. -/
structure AreSeparate (ignoreCase words : Bool) (texts : List String) : Prop where
  flagless : words = false ∧ texts.length = 1 ∨
    ∀ text ∈ texts, Expression.setsFlags ignoreCase text = false
  named : texts.Pairwise fun first second =>
    ∀ name ∈ Expression.groupNames ignoreCase first,
      name ∉ Expression.groupNames ignoreCase second
  numbered : texts.Pairwise fun first second =>
    Expression.hasGroups ignoreCase first = true →
      Expression.refersByNumber ignoreCase second = false

/-- The alternatives of an expression as it is written. -/
def Expression.branches (ignoreCase : Bool) (text : String) : List (List Pattern) :=
  match Pattern.parse ignoreCase text with
  | .ok tree => tree.branches
  | .error _ => []

/-- Where case is ignored and no whole words are asked for, the alternatives of each expression and
those of all of them do not become a set that holds something else. -/
def MergeAsIs (ignoreCase words : Bool) (texts : List String) : Prop :=
  ignoreCase = true → words = false → texts.length ≠ 1 →
    ∀ text ∈ String.intercalate "|" texts :: texts,
      MergesAsIs (Expression.branches ignoreCase text)

/-- Beyond the basic plane an upper-case letter is lost in a set with another letter. -/
example : ¬ MergeAsIs true false ["𐐀", "a"] := by
  intro merging
  have merged : mergedSets? (Expression.branches true "𐐀|a") =
      some [⟨false, [.code 0x10400], .unicode⟩, ⟨false, [.code 0x61], .unicode⟩] := by decide
  have same := merging rfl rfl (by decide) _ List.mem_cons_self _ merged '𐐀'
  exact absurd same (by decide)

/-- The expression for whole words. -/
def wordText (words : Bool) (text : String) : String :=
  if words then "\\b(?:" ++ text ++ ")\\b" else text

theorem signsOf_wordText (whole : ¬ EndsBroken (signsOf text.toList)) :
    signsOf (wordText true text).toList = wordSigns (signsOf text.toList) := by
  have chars : (wordText true text).toList =
      '\\' :: 'b' :: '(' :: '?' :: ':' :: (text.toList ++ [')', '\\', 'b']) := by
    simp [wordText]
  rw [chars]
  have opening (rest : List Char) : signsOf ('\\' :: 'b' :: '(' :: '?' :: ':' :: rest) =
      .escaped 'b' :: .plain '(' :: .plain '?' :: .plain ':' :: signsOf rest := by
    simp [signsOf]
  rw [opening, signsOf_append whole]
  rfl

/-- An expression is read to its end for whole words as well, and then each alternative ends with a
word boundary. -/
theorem exists_comesTo_wordText {tree : Pattern} (words : Bool)
    (parsed : Pattern.parse ignoreCase text = .ok tree)
    (flagless : Expression.setsFlags ignoreCase text = false) :
    ∃ final, ComesTo ignoreCase text (signsOf (wordText words text).toList) final ∧
      (words = true → ∀ branch ∈ (content final.level).branches,
        branch.getLast? = some (.anchor (.wordBoundary false))) := by
  obtain ⟨final, comes, -⟩ := exists_comesTo parsed flagless
  cases words with
  | false => exact ⟨final, comes, nofun⟩
  | true =>
      refine ⟨final.inWord, signsOf_wordText comes.whole ▸ comes.word, fun _ branch member => ?_⟩
      have ordered : content final.inWord.level = .inOrder [.anchor (.wordBoundary false),
          content final.level, .anchor (.wordBoundary false)] := rfl
      rw [ordered, Pattern.branches_inOrder] at member
      cases List.mem_singleton.1 member
      rw [List.flatMap_cons, List.flatMap_cons, List.flatMap_singleton, ← List.append_assoc]
      exact List.getLast?_concat

/-! ## Expressions that are read together -/

section

variable {words : Bool} {finals : String → Progress}

/-- What holds of each alternative of the expressions holds of each of those that they have when
they are read together. -/
theorem forall_branches_of_map {tree : Pattern} {P : List Pattern → Prop}
    (same : tree.branches.map P =
      texts.flatMap fun text => (content (finals text).level).branches.map P)
    (each : ∀ text ∈ texts, ∀ branch ∈ (content (finals text).level).branches, P branch) :
    ∀ branch ∈ tree.branches, P branch := by
  intro branch member
  have inside : P branch ∈ tree.branches.map P := List.mem_map_of_mem member
  rw [same] at inside
  obtain ⟨text, among, inside⟩ := List.mem_flatMap.1 inside
  obtain ⟨own, ofText, equal⟩ := List.mem_map.1 inside
  exact equal ▸ each text among own ofText

theorem isSteady_matchesAt {place : Place} (fresh : place.captures = []) :
    IsSteady fun branch => (Pattern.inOrder branch).matchesAt place := by
  intro offset branch
  dsimp only
  rw [← Pattern.raise_inOrder]
  exact Pattern.isSome_run_raise _ fresh

theorem isSteady_keepRule (rule : CaseRule) : IsSteady (KeepRule rule) :=
  fun offset branch => propext (keepRule_raise offset branch)

theorem isSteady_getLast? (condition : Anchor) :
    IsSteady fun branch => branch.getLast? = some (.anchor condition) := by
  intro offset branch
  dsimp only
  rw [List.getLast?_map]
  cases branch.getLast? with
  | none => rfl
  | some piece => cases piece <;> simp [Pattern.raise]

theorem Expression.branches_of_parse {tree : Pattern}
    (parsed : Pattern.parse ignoreCase text = .ok tree) :
    Expression.branches ignoreCase text = tree.branches := by
  unfold Expression.branches
  rw [parsed]

/-- Where case counts, the sets of an expression that stands at the top compare what is written. -/
theorem ComesTo.keepRule_exact {signs : List Sign} {final : Progress}
    (comes : ComesTo false text signs final) :
    ∀ branch ∈ (content final.level).branches, KeepRule .exact branch := by
  obtain ⟨rooted, closed, -⟩ := comes
  have uniform := rooted.uniform _ List.mem_cons_self
  have ruled := uniform.hasRule_content
  rw [(rooted.level_eq closed).2] at ruled
  exact ruled

/-- Expressions are read together, and one of them matches where the whole does, unless sets become
one that holds something else. -/
theorem exists_read_of_comesTo (present : texts ≠ [])
    (comes : ∀ text ∈ texts,
      ComesTo ignoreCase text (signsOf (wordText words text).toList) (finals text))
    (anchored : words = true → ∀ text ∈ texts, ∀ branch ∈ (content (finals text).level).branches,
      branch.getLast? = some (.anchor (.wordBoundary false)))
    (named : texts.Pairwise fun first second =>
      ∀ name ∈ Expression.groupNames ignoreCase first,
        name ∉ Expression.groupNames ignoreCase second)
    (numbered : texts.Pairwise fun first second =>
      Expression.hasGroups ignoreCase first = true →
        Expression.refersByNumber ignoreCase second = false)
    (faithful : ignoreCase = true → words = false →
      MergesAsIs (Expression.branches ignoreCase (String.intercalate "|" texts))) :
    ∃ pattern,
      Pattern.read ignoreCase (String.intercalate "|" (texts.map (wordText words))) = .ok pattern ∧
      ∀ place, place.captures = [] → pattern.matchesAt place =
        texts.any fun text => (content (finals text).level).branchMatchesAt place := by
  obtain ⟨tree, parsed, same⟩ := @exists_read_alternatives ignoreCase Site.front texts present
    (wordText words) finals comes named numbered rfl
    (fun text _ => ⟨.inl rfl, fun _ _ _ => nofun⟩) _ (Nat.le_refl _)
  have merging : MergesAsIs tree.branches := by
    cases words with
    | true =>
        exact mergesAsIs_of_anchored
          (forall_branches_of_map (same (isSteady_getLast? _)) (anchored rfl))
    | false =>
        cases ignoreCase with
        | true =>
            have plain : texts.map (wordText false) = texts := List.map_id' texts
            rw [plain] at parsed
            exact Expression.branches_of_parse parsed ▸ faithful rfl rfl
        | false =>
            exact mergesAsIs_of_exact (forall_branches_of_map (same (isSteady_keepRule _))
              fun text member => (comes text member).keepRule_exact)
  refine ⟨tree.condensed, read_of_parse parsed, fun place fresh => ?_⟩
  rw [matchesAt_condensed merging]
  have matched := congrArg (List.any · id) (same (isSteady_matchesAt fresh))
  simp only [List.any_map, List.any_append, List.any_flatMap, Function.id_comp] at matched
  exact matched

/-- Separate expressions that merge as they are find together what one of them finds. -/
theorem exists_read_union (present : texts ≠ [])
    (compiled : ∀ text ∈ texts, ∃ pattern, Pattern.read ignoreCase text = .ok pattern)
    (separate : AreSeparate ignoreCase words texts)
    (merging : MergeAsIs ignoreCase words texts) :
    ∃ patterns : String → Pattern,
      (∀ text ∈ texts, Pattern.read ignoreCase (wordText words text) = .ok (patterns text)) ∧
      ∃ pattern,
        Pattern.read ignoreCase (String.intercalate "|" (texts.map (wordText words))) =
          .ok pattern ∧
        ∀ line, pattern.occursIn line = texts.any fun text => (patterns text).occursIn line := by
  by_cases alone : words = false ∧ texts.length = 1
  · obtain ⟨rfl, single⟩ := alone
    obtain ⟨text, rfl⟩ := List.length_eq_one_iff.1 single
    obtain ⟨pattern, read⟩ := compiled text List.mem_cons_self
    refine ⟨fun _ => pattern, List.forall_mem_singleton.2 read, pattern, ?_, fun line => ?_⟩
    · exact read
    · exact (Bool.or_false _).symm
  · have flagless := separate.flagless.resolve_left alone
    have faithful (text : String) (among : text ∈ String.intercalate "|" texts :: texts)
        (ignored : ignoreCase = true) (lines : words = false) :
        MergesAsIs (Expression.branches ignoreCase text) :=
      merging ignored lines (fun single => alone ⟨lines, single⟩) text among
    have each : ∀ text ∈ texts, ∃ final,
        ComesTo ignoreCase text (signsOf (wordText words text).toList) final ∧
          (words = true → ∀ branch ∈ (content final.level).branches,
            branch.getLast? = some (.anchor (.wordBoundary false))) := by
      intro text member
      obtain ⟨pattern, read⟩ := compiled text member
      obtain ⟨tree, parsed, -⟩ := exists_parse_of_read read
      exact exists_comesTo_wordText words parsed (flagless text member)
    have : Nonempty Progress := ⟨initial Flags.none⟩
    choose! finals comes anchored using each
    have single : ∀ text ∈ texts, ∃ pattern,
        Pattern.read ignoreCase (wordText words text) = .ok pattern ∧
        ∀ place, place.captures = [] → pattern.matchesAt place =
          (content (finals text).level).branchMatchesAt place := by
      intro text member
      obtain ⟨pattern, read, same⟩ := @exists_read_of_comesTo ignoreCase [text] words finals
        (List.cons_ne_nil _ _) (List.forall_mem_singleton.2 (comes text member))
        (fun asked => List.forall_mem_singleton.2 (anchored text member asked))
        (List.pairwise_singleton _ _) (List.pairwise_singleton _ _)
        (faithful text (List.mem_cons_of_mem _ member))
      exact ⟨pattern, read, fun place fresh => (same place fresh).trans (Bool.or_false _)⟩
    have : Nonempty Pattern := ⟨.empty⟩
    choose! patterns read same using single
    obtain ⟨pattern, joint, matched⟩ := exists_read_of_comesTo present comes
      (fun asked text member => anchored text member asked) separate.named separate.numbered
      (faithful _ List.mem_cons_self)
    refine ⟨patterns, read, pattern, joint, occursIn_eq_any fun place fresh => ?_⟩
    rw [matched place fresh, Bool.eq_iff_iff, List.any_eq_true, List.any_eq_true]
    exact exists_congr fun text => and_congr_right fun member => by
      rw [same text member place fresh]

end

/-! ## Escaped texts -/

/-- The sign of a character in an escaped text. -/
def escapedSign (c : Char) : Sign :=
  if isSpecial c then .escaped c else .plain c

theorem signsOf_escapeChars (chars : List Char) :
    signsOf (escapeChars chars) = chars.map escapedSign := by
  induction chars with
  | nil => rfl
  | cons c chars inductionHypothesis =>
      have split : escapeChars (c :: chars) =
          (if isSpecial c then ['\\', c] else [c]) ++ escapeChars chars := rfl
      rw [split, List.map_cons, escapedSign, ← inductionHypothesis]
      split
      · rfl
      · rename_i ordinary
        refine signsOf_cons ?_ _
        rintro rfl
        exact ordinary rfl

theorem step_escapedSign {progress : Progress} (spaced : progress.level.flags.verbose = false)
    (c : Char) (signs : List Sign) :
    progress.step (escapedSign c) signs =
      .ok (progress.add (single progress.level.flags c.toNat), signs) := by
  unfold escapedSign
  split
  · rename_i special
    exact readEscape_of_not_isAlphanum (not_isAlphanum_of_isSpecial special) signs
  · rename_i ordinary
    unfold step
    rw [spaced]
    exact readPlain_of_not_isSpecial (by simpa using ordinary) signs

/-- A sign of an escaped text neither sets flags nor refers to a group. -/
theorem inert_escapedSign (c : Char) (signs : List Sign) :
    Progress.setsFlags (escapedSign c :: signs) = false ∧
      Progress.refersByNumber (escapedSign c :: signs) = false := by
  unfold escapedSign
  split
  · rename_i special
    have symbol := not_isAlphanum_of_isSpecial special
    have noDigit : c.isDigit = false := (Bool.or_eq_false_iff.1 symbol).2
    exact ⟨rfl, by simp [Progress.refersByNumber, noDigit]⟩
  · rename_i ordinary
    have other : c ≠ '(' := by
      rintro rfl
      exact ordinary rfl
    exact ⟨by simp [Progress.setsFlags, other], by simp [Progress.refersByNumber, other]⟩

theorem escapedSign_ne_closing (c : Char) : escapedSign c ≠ .plain ')' := by
  unfold escapedSign
  split
  · exact nofun
  · rename_i ordinary
    rintro ⟨⟩
    exact ordinary rfl

theorem readAll_escapedSigns {progress : Progress} {chars : List Char} {fuel : Nat}
    (spaced : progress.level.flags.verbose = false) (enough : chars.length ≤ fuel) :
    (∃ items, progress.readAll fuel (chars.map escapedSign) =
        { progress with level := { progress.level with items := items } }.finish true) ∧
      ∀ stage ∈ progress.stages fuel (chars.map escapedSign), stage.1.names = progress.names ∧
        Progress.setsFlags stage.2 = false ∧ Progress.refersByNumber stage.2 = false := by
  induction chars generalizing progress fuel with
  | nil =>
      refine ⟨⟨progress.level.items, readAll_nil fuel progress⟩, fun stage member => ?_⟩
      have single : progress.stages fuel [] = [(progress, [])] := by cases fuel <;> rfl
      rw [List.map_nil, single, List.mem_singleton] at member
      subst member
      exact ⟨rfl, rfl, rfl⟩
  | cons c chars inductionHypothesis =>
      obtain ⟨fuel, rfl⟩ : ∃ less, fuel = less + 1 := ⟨fuel - 1, by simp at enough; omega⟩
      have step := step_escapedSign spaced c (chars.map escapedSign)
      have inside : escapedSign c = .plain ')' → progress.outer ≠ [] := fun closing =>
        absurd closing (escapedSign_ne_closing c)
      have stages : progress.stages (fuel + 1) (escapedSign c :: chars.map escapedSign) =
          (progress, escapedSign c :: chars.map escapedSign) ::
            (progress.add (single progress.level.flags c.toNat)).stages fuel
              (chars.map escapedSign) := by
        rw [Progress.stages, step]
      obtain ⟨⟨items, read⟩, others⟩ := @inductionHypothesis
        (progress.add (single progress.level.flags c.toNat)) fuel spaced
        (Nat.le_of_succ_le_succ enough)
      rw [List.map_cons, readAll_succ step inside, stages]
      exact ⟨⟨items, read⟩, List.forall_mem_cons.2 ⟨⟨rfl, inert_escapedSign c _⟩, others⟩⟩

variable (ignoreCase) in
/-- What is escaped is an expression, which sets no flags and neither names nor numbers a group. -/
theorem isInert_escape (text : String) :
    (∃ pattern, Pattern.read ignoreCase (escape text) = .ok pattern) ∧
      Expression.setsFlags ignoreCase (escape text) = false ∧
      Expression.groupNames ignoreCase (escape text) = [] ∧
      Expression.refersByNumber ignoreCase (escape text) = false := by
  have signs : signsOf (escape text).toList = text.toList.map escapedSign := by
    rw [escape, String.toList_ofList, signsOf_escapeChars]
  obtain ⟨⟨items, read⟩, each⟩ := @readAll_escapedSigns (initial (startFlags ignoreCase))
    text.toList (text.toList.map escapedSign).length rfl (by simp)
  refine ⟨?_, ?_, ?_, ?_⟩
  · have parsed : Pattern.parse ignoreCase (escape text) = .ok (.inOrder items.reverse) := by
      unfold Pattern.parse
      rw [signs]
      exact read
    exact ⟨_, read_of_parse parsed⟩
  · unfold Expression.setsFlags Expression.stages
    rw [signs, List.any_eq_false]
    exact fun stage member => by simp [(each stage member).2.1]
  · unfold Expression.groupNames Expression.stages
    rw [signs, List.flatMap_eq_nil_iff]
    exact fun stage member => by rw [(each stage member).1]; rfl
  · unfold Expression.refersByNumber Expression.stages
    rw [signs, List.any_eq_false]
    exact fun stage member => by simp [(each stage member).2.2]

theorem areSeparate_escape (ignoreCase words : Bool) (texts : List String) :
    AreSeparate ignoreCase words (texts.map escape) := by
  refine ⟨.inr fun text member => ?_, ?_, ?_⟩
  · obtain ⟨given, -, rfl⟩ := List.mem_map.1 member
    exact (isInert_escape ignoreCase given).2.1
  · refine List.pairwise_map.2 (List.pairwise_of_forall fun first _ name member => ?_)
    rw [(isInert_escape ignoreCase first).2.2.1] at member
    exact absurd member List.not_mem_nil
  · exact List.pairwise_map.2 (List.pairwise_of_forall fun _ second _ =>
      (isInert_escape ignoreCase second).2.2.2)

end VirtualShell.Regex
