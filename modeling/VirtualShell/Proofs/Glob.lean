import Mathlib.Data.List.Forall2
import Mathlib.Data.List.Infix
import VirtualShell.Glob
import VirtualShell.Proofs.Regex.Matching
import VirtualShell.Proofs.Regex.Reading
import VirtualShell.Proofs.Text.Pieces

/-!
Contract: what a file name pattern without brackets matches.

Owns:
- `fits` and `fitsComponent`, a matcher of components that makes no use of regular expressions;
- `charPattern` and `componentPatterns`, what the expression of a component is read as;
- `isMatch_iff_of_no_bracket`: a pattern without brackets can be compiled, and matches the paths
  with as many components, each of which fits.

Does not own: brackets, which mean what a regular expression says.
-/

namespace VirtualShell.Glob

open VirtualShell.Regex

/-! ## The reference -/

/-- Whether a text fits a pattern in which `*` stands for any text, `?` for any one character,
and all else for itself. -/
def fits : List Char → List Char → Bool
  | [], text => text.isEmpty
  | c :: rest, text =>
      if c = '*' then text.tails.any (fits rest)
      else text.head?.any (fun first => c == '?' || c == first) && fits rest text.tail

/-- Whether a component of a path fits one of a pattern; a wildcard that comes first does not
stand for a dot that comes first. -/
def fitsComponent (pattern component : List Char) : Bool :=
  fits pattern component &&
    !(pattern.head?.any isWildcard && component.head? == some '.')

theorem fits_nil {text : List Char} : fits [] text = true ↔ text = [] := by
  rw [fits, List.isEmpty_iff]

theorem fits_star {rest text : List Char} :
    fits ('*' :: rest) text = true ↔
      ∃ front back, text = front ++ back ∧ fits rest back = true := by
  rw [fits, if_pos rfl, List.any_eq_true]
  constructor
  · rintro ⟨back, tail, fit⟩
    obtain ⟨front, rfl⟩ := (List.mem_tails _ _).1 tail
    exact ⟨front, back, rfl, fit⟩
  · rintro ⟨front, back, rfl, fit⟩
    exact ⟨back, (List.mem_tails _ _).2 (List.suffix_append front back), fit⟩

theorem fits_question {rest text : List Char} :
    fits ('?' :: rest) text = true ↔ ∃ c others, text = c :: others ∧ fits rest others = true := by
  cases text <;> simp [fits]

theorem fits_other {c : Char} {rest text : List Char} (noStar : c ≠ '*') (noQuestion : c ≠ '?') :
    fits (c :: rest) text = true ↔ ∃ others, text = c :: others ∧ fits rest others = true := by
  cases text with
  | nil => simp [fits, noStar]
  | cons first others =>
      rw [fits, if_neg noStar]
      simp [noQuestion, and_assoc, @eq_comm Char first]

/-- The first character of a pattern stands for a front of the text, and the others for the rest. -/
theorem fits_cons {c : Char} {rest text : List Char} :
    fits (c :: rest) text = true ↔
      ∃ front back, text = front ++ back ∧ fits [c] front = true ∧ fits rest back = true := by
  by_cases star : c = '*'
  · have all : ∀ front, fits ['*'] front = true := fun front =>
      fits_star.2 ⟨front, [], (List.append_nil front).symm, fits_nil.2 rfl⟩
    simp only [star, fits_star, all, true_and]
  · by_cases question : c = '?'
    · simp only [question, fits_question, fits_nil]
      constructor
      · rintro ⟨first, others, rfl, fit⟩
        exact ⟨[first], others, rfl, ⟨first, [], rfl, rfl⟩, fit⟩
      · rintro ⟨_, back, rfl, ⟨first, _, rfl, rfl⟩, fit⟩
        exact ⟨first, back, rfl, fit⟩
    · simp only [fits_other star question, fits_nil]
      constructor
      · rintro ⟨others, rfl, fit⟩
        exact ⟨[c], others, rfl, ⟨[], rfl, rfl⟩, fit⟩
      · rintro ⟨_, back, rfl, ⟨_, rfl, rfl⟩, fit⟩
        exact ⟨back, rfl, fit⟩

theorem fitsComponent_iff {pattern component : List Char}
    (wild : pattern.head?.any isWildcard = true) :
    fitsComponent pattern component = true ↔
      fits pattern component = true ∧ component.head? ≠ some '.' := by
  simp [fitsComponent, wild]

/-! ## What an expression is read as -/

/-- The pattern of a character of a component. -/
def charPattern (c : Char) : Pattern :=
  if c = '*' then .span notSlash ⟨0, none, .greedy⟩
  else if c = '?' then .one notSlash
  else literal c

/-- What is ruled out in front of a component. -/
def guardPatterns (component : List Char) : List Pattern :=
  if component.head?.any isWildcard then [.lookAhead true (Pattern.inOrder [literal '.'])] else []

/-- The patterns of a component. -/
def componentPatterns (component : List Char) : List Pattern :=
  guardPatterns component ++ component.map charPattern

/-- The patterns of the components of a path, with slashes between them. -/
def pathPatterns : List (List Char) → List Pattern
  | [] => []
  | [component] => componentPatterns component
  | component :: next :: others =>
      componentPatterns component ++ literal '/' :: pathPatterns (next :: others)

theorem reads_charsExpression {chars : List Char} (noBracket : '[' ∉ chars) :
    Reads (charsExpression chars) (chars.map charPattern) := by
  induction chars with
  | nil =>
      rw [charsExpression]
      exact .nil
  | cons c chars inductionHypothesis =>
      have further := inductionHypothesis fun member => noBracket (List.mem_cons_of_mem c member)
      have other : c ≠ '[' := fun same => noBracket (same ▸ List.mem_cons_self)
      rw [charsExpression, List.map_cons, charPattern]
      split
      · exact reads_notSlashes.append further
      · split
        · exact reads_notSlash.append further
        · exact (reads_escapeChars c).append further

theorem reads_componentExpression {component : List Char} (noBracket : '[' ∉ component) :
    Reads (componentExpression component) (componentPatterns component) := by
  unfold componentExpression componentPatterns guardPatterns
  split
  · exact (reads_escapeChars '.').notAhead.append (reads_charsExpression noBracket)
  · exact reads_charsExpression noBracket

theorem reads_joinPieces {components : List (List Char)}
    (noBracket : ∀ component ∈ components, '[' ∉ component) :
    Reads (Text.joinPieces '/' (components.map componentExpression)) (pathPatterns components) := by
  induction components with
  | nil => exact .nil
  | cons component others inductionHypothesis =>
      have first := reads_componentExpression (noBracket component List.mem_cons_self)
      have further := inductionHypothesis fun other member =>
        noBracket other (List.mem_cons_of_mem component member)
      cases others with
      | nil => simpa [Text.joinPieces, pathPatterns] using first
      | cons next others =>
          rw [List.map_cons, List.map_cons, Text.joinPieces_cons_cons]
          exact first.append ((reads_escapeChars '/').append further)

/-- No pattern without brackets is malformed. -/
theorem compile_eq {pattern : String} (noBracket : '[' ∉ pattern.toList) :
    compile pattern =
      .ok (Pattern.inOrder
        (pathPatterns (Text.piecesOf '/' pattern.toList) ++ [.anchor .textEnd])) := by
  have parts : ∀ component ∈ Text.piecesOf '/' pattern.toList, '[' ∉ component :=
    fun component member inside => noBracket (Text.mem_of_mem_piecesOf member inside)
  exact read_of_reads ((reads_joinPieces parts).append reads_textEnd)

/-! ## Texts that are cut at slashes -/

section

variable {related : List Char → List Char → Prop} {component next text : List Char}
  {others : List (List Char)}

theorem forall₂_piecesOf_singleton_iff :
    List.Forall₂ related [component] (Text.piecesOf '/' text) ↔
      '/' ∉ text ∧ related component text := by
  constructor
  · intro all
    obtain ⟨clear, whole⟩ | ⟨front, back, -, -, cut⟩ := Text.piecesOf_cases '/' text
    · rw [whole] at all
      cases all with
      | cons fit _ => exact ⟨clear, fit⟩
    · rw [cut] at all
      cases all with
      | cons _ none =>
          exact absurd (List.forall₂_nil_left_iff.1 none) (Text.piecesOf_ne_nil '/' back)
  · rintro ⟨clear, fit⟩
    rw [Text.piecesOf_of_notMem clear]
    exact .cons fit .nil

theorem forall₂_piecesOf_cons_iff :
    List.Forall₂ related (component :: next :: others) (Text.piecesOf '/' text) ↔
      ∃ front back, text = front ++ '/' :: back ∧ ('/' ∉ front ∧ related component front) ∧
        List.Forall₂ related (next :: others) (Text.piecesOf '/' back) := by
  constructor
  · intro all
    obtain ⟨-, whole⟩ | ⟨front, back, rfl, clear, cut⟩ := Text.piecesOf_cases '/' text
    · rw [whole] at all
      cases all with
      | cons _ none => cases none
    · rw [cut] at all
      cases all with
      | cons fit more => exact ⟨front, back, rfl, ⟨clear, fit⟩, more⟩
  · rintro ⟨front, back, rfl, ⟨clear, fit⟩, more⟩
    rw [Text.piecesOf_append_separator, Text.piecesOf_of_notMem clear]
    exact .cons fit more

end

/-! ## What a pattern matches -/

theorem takes_literal (c : Char) : Takes (literal c) fun text => text = [c] := by
  refine (takes_one ⟨false, [.code c.toNat], .exact⟩).congr fun text => ?_
  simp only [contains_code_iff, exists_eq_right]

/-- A character of a component takes a text that fits it and holds no slash. -/
theorem takes_charPattern {c : Char} (noSlash : c ≠ '/') :
    Takes (charPattern c) fun text => '/' ∉ text ∧ fits [c] text = true := by
  unfold charPattern
  by_cases star : c = '*'
  · rw [if_pos star, star]
    refine (takes_span notSlash).congr fun text => ?_
    have all : fits ['*'] text = true :=
      fits_star.2 ⟨text, [], (List.append_nil text).symm, fits_nil.2 rfl⟩
    simp only [notSlash, contains_notCode_iff, all, and_true]
    exact ⟨fun clear slash => clear '/' slash rfl, fun clear d member same => clear (same ▸ member)⟩
  · by_cases question : c = '?'
    · rw [if_neg star, if_pos question, question]
      refine (takes_one notSlash).congr fun text => ?_
      simp only [notSlash, contains_notCode_iff, fits_question, fits_nil]
      constructor
      · rintro ⟨d, rfl, other⟩
        exact ⟨by simpa using other.symm, d, [], rfl, rfl⟩
      · rintro ⟨clear, d, _, rfl, rfl⟩
        exact ⟨d, rfl, fun same => clear (same ▸ List.mem_cons_self)⟩
    · rw [if_neg star, if_neg question]
      refine (takes_literal c).congr fun text => ?_
      simp only [fits_other star question, fits_nil, exists_eq_right]
      constructor
      · rintro rfl
        exact ⟨by simpa using noSlash.symm, rfl⟩
      · exact And.right

/-- A component without a slash takes what fits it and holds none. -/
theorem takes_chars {chars : List Char} (noSlash : '/' ∉ chars) :
    Takes (Pattern.inOrder (chars.map charPattern)) fun text =>
      '/' ∉ text ∧ fits chars text = true := by
  induction chars with
  | nil =>
      refine takes_empty.congr fun text => ?_
      rw [fits_nil]
      constructor
      · rintro rfl
        exact ⟨List.not_mem_nil, rfl⟩
      · exact And.right
  | cons c chars inductionHypothesis =>
      have first := takes_charPattern fun same => noSlash (same ▸ List.mem_cons_self)
      have others := inductionHypothesis fun member => noSlash (List.mem_cons_of_mem c member)
      refine (first.both others).congr fun text => ?_
      rw [fits_cons]
      constructor
      · rintro ⟨front, back, rfl, ⟨clear, fit⟩, also, further⟩
        exact ⟨by simp [clear, also], front, back, rfl, fit, further⟩
      · rintro ⟨clear, front, back, rfl, fit, further⟩
        rw [List.mem_append, not_or] at clear
        exact ⟨front, back, rfl, ⟨clear.1, fit⟩, clear.2, further⟩

section

variable {follow : Follow} {goes : List Char → Prop}

theorem finds_dot : Finds ((Pattern.inOrder [literal '.']).run some) fun text =>
    text.head? = some '.' := by
  refine ((takes_literal '.').both takes_empty finds_some).congr fun text => ?_
  constructor
  · rintro ⟨_, back, rfl, ⟨_, _, rfl, rfl, rfl⟩, -⟩
    rfl
  · intro dot
    obtain ⟨back, rfl⟩ := List.head?_eq_some_iff.1 dot
    exact ⟨['.'], back, rfl, ⟨['.'], [], rfl, rfl, rfl⟩, trivial⟩

/-- Behind a look ahead for a dot, patterns take what does not start with one. The look ahead is
made at a place where they may end at once, so what comes behind must not start with a dot
either. -/
theorem finds_undotted {patterns : List Pattern} {takes : List Char → Prop}
    (plain : Takes (Pattern.inOrder patterns) takes) (finds : Finds follow goes)
    (dotless : ∀ back, goes back → back.head? ≠ some '.') :
    Finds ((Pattern.inOrder ([.lookAhead true (Pattern.inOrder [literal '.'])] ++ patterns)).run
      follow) fun text =>
        ∃ front back, text = front ++ back ∧ (takes front ∧ front.head? ≠ some '.') ∧
          goes back := by
  rw [run_inOrder_append]
  refine ((plain finds).notAhead finds_dot).congr fun text => ?_
  constructor
  · rintro ⟨undotted, front, back, rfl, taken, go⟩
    refine ⟨front, back, rfl, ⟨taken, fun dot => undotted ?_⟩, go⟩
    rw [List.head?_append, dot, Option.some_or]
  · rintro ⟨front, back, rfl, ⟨taken, undotted⟩, go⟩
    refine ⟨fun dot => ?_, front, back, rfl, taken, go⟩
    cases front with
    | nil => exact dotless back go dot
    | cons first front => exact undotted dot

/-- A component takes what fits it. -/
theorem finds_component {component : List Char} (noSlash : '/' ∉ component)
    (finds : Finds follow goes) (dotless : ∀ back, goes back → back.head? ≠ some '.') :
    Finds ((Pattern.inOrder (componentPatterns component)).run follow) fun text =>
      ∃ front back, text = front ++ back ∧
        ('/' ∉ front ∧ fitsComponent component front = true) ∧ goes back := by
  have plain := takes_chars noSlash
  unfold componentPatterns guardPatterns
  split
  · rename_i wild
    refine (finds_undotted plain finds dotless).congr fun text => ?_
    simp only [fitsComponent_iff wild, and_assoc]
  · rename_i tame
    refine (plain finds).congr fun text => ?_
    simp [fitsComponent, tame]

/-- A pattern finds the texts that are cut at slashes into components that fit its own. -/
theorem finds_path {components : List (List Char)} (present : components ≠ [])
    (noSlash : ∀ component ∈ components, '/' ∉ component)
    (finds : Finds follow fun text => text = []) :
    Finds ((Pattern.inOrder (pathPatterns components)).run follow) fun text =>
      List.Forall₂ (fitsComponent · · = true) components (Text.piecesOf '/' text) := by
  induction components with
  | nil => exact absurd rfl present
  | cons component others inductionHypothesis =>
      have alone := noSlash component List.mem_cons_self
      cases others with
      | nil =>
          refine (finds_component alone finds ?_).congr fun text => ?_
          · rintro _ rfl
            simp
          · simp only [forall₂_piecesOf_singleton_iff, exists_eq_right_right, List.append_nil,
              exists_eq_left']
      | cons next others =>
          have further := inductionHypothesis (List.cons_ne_nil next others)
            fun other member => noSlash other (List.mem_cons_of_mem component member)
          rw [pathPatterns, run_inOrder_append]
          refine (finds_component alone (takes_literal '/' further) ?_).congr fun text => ?_
          · rintro _ ⟨_, back, rfl, rfl, -⟩
            simp
          · rw [forall₂_piecesOf_cons_iff]
            constructor
            · rintro ⟨front, _, rfl, fit, _, back, rfl, rfl, more⟩
              exact ⟨front, back, rfl, fit, more⟩
            · rintro ⟨front, back, rfl, fit, more⟩
              exact ⟨front, '/' :: back, rfl, fit, ['/'], back, rfl, rfl, more⟩

end

/-- A pattern without brackets can be compiled, and it matches the paths that are cut at slashes
into as many components as it is, each of which fits its own. -/
theorem isMatch_iff_of_no_bracket {pattern : String} (noBracket : '[' ∉ pattern.toList) :
    ∃ compiled, compile pattern = .ok compiled ∧ ∀ path : String,
      isMatch compiled path = true ↔
        List.Forall₂ (fitsComponent · · = true)
          (Text.piecesOf '/' pattern.toList) (Text.piecesOf '/' path.toList) := by
  have ended : Finds ((Pattern.inOrder [.anchor .textEnd]).run some) fun text => text = [] :=
    finds_some.textEnd.congr fun text => by rw [and_true]
  have found := finds_path (Text.piecesOf_ne_nil '/' pattern.toList)
    (fun _ => Text.separator_notMem_of_mem_piecesOf) ended
  rw [← run_inOrder_append] at found
  exact ⟨_, compile_eq noBracket, fun path => found.matchesAtStart_iff path.toList⟩

theorem isMatch_iff_of_two_wildcards :
    ∃ compiled, compile "/s*/?.b" = .ok compiled ∧ isMatch compiled "/s.+/a.b" = true ∧
      isMatch compiled "/s/..b" = false := by
  have noBracket : '[' ∉ "/s*/?.b".toList := by decide
  obtain ⟨compiled, read, matched⟩ := isMatch_iff_of_no_bracket noBracket
  refine ⟨compiled, read, (matched _).2 ?_, Bool.eq_false_iff.2 (mt (matched _).1 ?_)⟩
  · decide +kernel
  · decide +kernel

end VirtualShell.Glob
