import VirtualShell.Proofs.Glob.Spelling

/-!
Contract: a pattern matches a path component by component.

Owns:
- `isConfined`, patterns in which no set holds the slash and no operator of regular expressions
  gets through;
- `components_of_matches`: a path that such a pattern matches has as many components, each matched
  by its own component of the pattern, and a dot comes first only where the pattern says so.

Without the condition a match can cross a slash: a range runs over it, or a dot gets through
behind a negation that is closed at once.
-/

namespace VirtualShell.Glob

open VirtualShell.Regex

/-! ## Where a slash cannot be -/

/-- Whether a part is known not to stand for a slash. A negated set names the slash itself. -/
def Part.isConfined : Part → Bool
  | .set false chars => !holds false chars '/'
  | part => part.isTame

/-- Whether no part of a pattern stands for a slash. -/
def isConfined (pattern : String) : Bool :=
  (componentsOf pattern).all fun component => component.parts.all Part.isConfined

/-- A negated set does not hold the slash, not even where the slash is the start of a range. -/
theorem not_holds_slash_of_negated {chars : List Char}
    (ordered : Regex.isOrdered ('/' :: chars) = true) : Part.holds true chars '/' = false := by
  have named : (membersOf ('/' :: chars)).any (SetItem.contains '/') = true := by
    by_cases ranged : ∃ high rest, chars = '-' :: high :: rest
    · obtain ⟨high, rest, rfl⟩ := ranged
      rw [Regex.isOrdered, membersOf, List.all_cons, Bool.and_eq_true] at ordered
      have inside : SetItem.contains '/' (.range '/'.toNat high.toNat) = true := by
        simpa [SetItem.contains, SetItem.isOrdered] using ordered.1
      rw [membersOf, List.any_cons, inside, Bool.true_or]
    · rw [membersOf.eq_2 _ _ fun high rest same => ranged ⟨high, rest, same⟩]
      rfl
  unfold Part.holds Part.enclosed
  rw [if_pos rfl, named]
  rfl

theorem Part.Fits.noSlash {part : Part} {text : List Char} (isPart : part.IsPart)
    (confined : part.isConfined = true) (ordered : part.isOrdered = true) (fit : part.Fits text) :
    '/' ∉ text := by
  cases part with
  | sign c => exact fit.1
  | set negated chars =>
      obtain ⟨c, rfl, inside⟩ := fit
      rw [List.mem_singleton]
      rintro rfl
      cases negated with
      | true => exact absurd inside (by simp [not_holds_slash_of_negated ordered])
      | false => exact absurd inside (by simpa [Part.isConfined] using confined)
  | cut rest =>
      obtain ⟨c, other, rfl⟩ := fit
      have clear : '/' ∉ rest := isPart
      simp [clear, Ne.symm other]

theorem FitsParts.noSlash {parts : List Part} {text : List Char}
    (all : ∀ part ∈ parts, part.IsPart ∧ part.isConfined = true ∧ part.isOrdered = true)
    (fit : FitsParts parts text) : '/' ∉ text := by
  induction parts generalizing text with
  | nil =>
      cases fit
      exact List.not_mem_nil
  | cons part parts inductionHypothesis =>
      obtain ⟨front, back, rfl, first, others⟩ := fit
      obtain ⟨isPart, confined, ordered⟩ := all part List.mem_cons_self
      have further := inductionHypothesis
        (fun other member => all other (List.mem_cons_of_mem part member)) others
      rw [List.mem_append, not_or]
      exact ⟨first.noSlash isPart confined ordered, further⟩

theorem Part.isTame_of_isConfined {part : Part} (confined : part.isConfined = true) :
    part.isTame = true := by
  cases part with
  | set negated chars => rfl
  | sign c => rfl
  | cut rest => exact confined

theorem isTame_of_isConfined {pattern : String} (confined : isConfined pattern = true) :
    isTame pattern = true := by
  unfold isConfined at confined
  unfold isTame Component.isTame
  simp only [List.all_eq_true] at confined ⊢
  exact fun component member part inside =>
    Part.isTame_of_isConfined (confined component member part inside)

/-! ## Components that are cut at slashes -/

/-- A component of a pattern stands for a component of a path. -/
theorem spells_iff_forall₂ {pieces : List (List Char)} (present : pieces ≠ [])
    (clear : ∀ piece ∈ pieces, ∀ text, (Component.ofChars piece).Fits text → '/' ∉ text)
    {text : List Char} :
    Spells (pieces.map Component.ofChars) text ↔
      List.Forall₂ (fun piece component => (Component.ofChars piece).Fits component) pieces
        (Text.piecesOf '/' text) := by
  induction pieces generalizing text with
  | nil => exact absurd rfl present
  | cons piece others inductionHypothesis =>
      have alone := clear piece List.mem_cons_self
      cases others with
      | nil =>
          rw [forall₂_piecesOf_singleton_iff]
          exact ⟨fun fit => ⟨alone text fit, fit⟩, And.right⟩
      | cons next others =>
          have further := fun {text} => @inductionHypothesis (List.cons_ne_nil next others)
            (fun other member => clear other (List.mem_cons_of_mem piece member)) text
          rw [forall₂_piecesOf_cons_iff]
          constructor
          · rintro ⟨front, back, rfl, fit, more⟩
            exact ⟨front, back, rfl, ⟨alone front fit, fit⟩, further.1 more⟩
          · rintro ⟨front, back, rfl, ⟨-, fit⟩, more⟩
            exact ⟨front, back, rfl, fit, further.2 more⟩

/-- A dot comes first only where the pattern says so. -/
theorem Component.Fits.dotted {chars text : List Char} (fit : (Component.ofChars chars).Fits text)
    (dot : text.head? = some '.') : chars.head? = some '.' := by
  obtain ⟨fit, guarded⟩ := fit
  cases chars with
  | nil =>
      have none : text = [] := by simpa [Component.ofChars, partsOf, FitsParts] using fit
      rw [none] at dot
      cases dot
  | cons c rest =>
      by_cases wild : isWildcard c = true
      · exact absurd dot (guarded wild)
      · have other : c ≠ '[' ∧ c ≠ '*' ∧ c ≠ '?' := by
          refine ⟨?_, ?_, ?_⟩ <;> exact fun same => wild (by rw [same]; rfl)
        rw [Component.ofChars, partsOf_sign other.1] at fit
        obtain ⟨front, back, rfl, ⟨-, first⟩, -⟩ := fit
        obtain ⟨_, rfl, last⟩ := (fits_other other.2.1 other.2.2).1 first
        cases dot
        rfl

theorem componentsOf_ofList {piece : List Char} (noSlash : '/' ∉ piece) :
    componentsOf (String.ofList piece) = [Component.ofChars piece] := by
  unfold componentsOf
  rw [String.toList_ofList, Text.piecesOf_of_notMem noSlash]
  rfl

/-- A component is a pattern by itself, for the components that it stands for. -/
theorem matches_ofList_iff {piece component : List Char} (noSlash : '/' ∉ piece)
    (tame : (Component.ofChars piece).isTame = true) :
    Matches (String.ofList piece) (String.ofList component) ↔
      (Component.ofChars piece).isOrdered = true ∧ (Component.ofChars piece).Fits component := by
  have alone : isTame (String.ofList piece) = true := by
    simpa [isTame, componentsOf_ofList noSlash] using tame
  rw [matches_iff_spells alone, isOrdered, componentsOf_ofList noSlash, String.toList_ofList]
  simp [Spells]

/-- Where no set holds the slash, a path that is matched has as many components as the pattern.
Each of them is matched by its own component of the pattern, which starts with a dot if it does. -/
theorem components_of_matches {pattern path : String} (confined : isConfined pattern = true)
    (matched : Matches pattern path) :
    path.toList.count '/' = pattern.toList.count '/' ∧
      List.Forall₂
        (fun part component => Matches part component ∧
          (Text.startsWith component "." = true → Text.startsWith part "." = true))
        (Text.pieces '/' pattern) (Text.pieces '/' path) := by
  have tame := isTame_of_isConfined confined
  obtain ⟨ordered, spells⟩ := (matches_iff_spells tame).1 matched
  have given : ∀ piece ∈ Text.piecesOf '/' pattern.toList,
      '/' ∉ piece ∧ (Component.ofChars piece).parts.all Part.isConfined = true ∧
        (Component.ofChars piece).isTame = true ∧ (Component.ofChars piece).isOrdered = true := by
    intro piece member
    have inside := List.mem_map_of_mem (f := Component.ofChars) member
    exact ⟨Text.separator_notMem_of_mem_piecesOf member, List.all_eq_true.1 confined _ inside,
      List.all_eq_true.1 tame _ inside, List.all_eq_true.1 ordered _ inside⟩
  have clear : ∀ piece ∈ Text.piecesOf '/' pattern.toList, ∀ text,
      (Component.ofChars piece).Fits text → '/' ∉ text := by
    intro piece member text fit
    obtain ⟨noSlash, confined, -, ordered⟩ := given piece member
    exact FitsParts.noSlash (fun part inside => ⟨isPart_of_mem_partsOf noSlash inside,
      List.all_eq_true.1 confined part inside, List.all_eq_true.1 ordered part inside⟩) fit.1
  have all := (spells_iff_forall₂ (Text.piecesOf_ne_nil '/' pattern.toList) clear).1 spells
  constructor
  · have lengths := all.length_eq
    rw [Text.length_piecesOf, Text.length_piecesOf] at lengths
    exact (Nat.succ.inj lengths).symm
  · unfold Text.pieces
    rw [List.forall₂_map_left_iff, List.forall₂_map_right_iff]
    refine ((List.forall₂_and_left _ _).2 ⟨given, all⟩).imp ?_
    rintro piece component ⟨⟨noSlash, -, tame, ordered⟩, fit⟩
    refine ⟨(matches_ofList_iff noSlash tame).2 ⟨ordered, fit⟩, fun dot => ?_⟩
    rw [Text.startsWith_iff_head? (c := '.') rfl, String.toList_ofList] at dot ⊢
    exact fit.dotted dot

theorem components_of_matches_sets :
    isConfined "/[!a]*/.[b-d]]" = true ∧ Matches "/[!a]*/.[b-d]]" "/x./.c]" ∧
      "/x./.c]".toList.count '/' = 2 ∧
      List.Forall₂
        (fun part component => Matches part component ∧
          (Text.startsWith component "." = true → Text.startsWith part "." = true))
        ["", "[!a]*", ".[b-d]]"] ["", "x.", ".c]"] := by
  have confined : isConfined "/[!a]*/.[b-d]]" = true := by decide +kernel
  have matched : Matches "/[!a]*/.[b-d]]" "/x./.c]" := by decide +kernel
  exact ⟨confined, matched, (components_of_matches confined matched).1,
    (components_of_matches confined matched).2⟩

/-- A range that runs over the slash stands for it, and so does the dot of a regular expression
that gets through behind a negation that is closed at once. -/
theorem exists_match_across_slash :
    Matches "/a[.-0]b" "/a/b" ∧ Matches "/[!].*]" "/a/b]" ∧
      "/a/b".toList.count '/' ≠ "/a[.-0]b".toList.count '/' ∧
      "/a/b]".toList.count '/' ≠ "/[!].*]".toList.count '/' := by
  refine ⟨?_, ?_, ?_, ?_⟩ <;> decide +kernel

end VirtualShell.Glob
