import VirtualShell.Proofs.Files.Reachable
import VirtualShell.Proofs.Glob.Spelling
import VirtualShell.Proofs.Path.Relative

/-!
Contract: what a relative pattern matches, seen from the working directory.

Owns:
- `isLiteral`, paths that are patterns of nothing but themselves;
- `matches_resolve_iff`: from such a directory a relative pattern matches what is below the
  directory and matched by the pattern below the root.

Without the conditions this fails: the directory is put in front of the pattern as text, so that
a wildcard in its name is one of the pattern, and an operator of regular expressions that the
pattern lets through can undo what stands in front of it.
-/

namespace VirtualShell.Glob

open VirtualShell.Regex

/-! ## Paths that are patterns of themselves -/

/-- Whether a part stands for nothing but itself. -/
def Part.isLiteral : Part → Bool
  | .sign c => c != '*' && c != '?'
  | _ => false

/-- Whether a component stands for nothing but itself. -/
def Component.isLiteral (component : Component) : Bool :=
  component.parts.all Part.isLiteral

/-- Whether a path is a pattern that stands for nothing but itself. A bracket that is never closed
is as literal as a letter. -/
def isLiteral (path : String) : Bool :=
  (componentsOf path).all Component.isLiteral

theorem isLiteral_ofBody (body : List Char) : (Part.ofBody body).isLiteral = false := by
  unfold Part.ofBody
  split
  · rfl
  · split
    · split <;> rfl
    · rfl

theorem partsOf_of_isLiteral {chars : List Char}
    (literal : (partsOf chars).all Part.isLiteral = true) : partsOf chars = chars.map .sign := by
  induction chars using partsOf.induct with
  | case1 =>
      rw [partsOf]
      rfl
  | case2 rest body behind found inductionHypothesis =>
      rw [partsOf_set found, List.all_cons, isLiteral_ofBody] at literal
      cases literal
  | case3 rest unclosed inductionHypothesis =>
      rw [partsOf_unclosed unclosed, List.all_cons, Bool.and_eq_true] at literal
      rw [partsOf_unclosed unclosed, inductionHypothesis literal.2, List.map_cons]
  | case4 c rest other inductionHypothesis =>
      rw [partsOf_sign other, List.all_cons, Bool.and_eq_true] at literal
      rw [partsOf_sign other, inductionHypothesis literal.2, List.map_cons]

theorem fitsParts_of_isLiteral {chars : List Char} (noSlash : '/' ∉ chars)
    (literal : (chars.map Part.sign).all Part.isLiteral = true) {text : List Char} :
    FitsParts (chars.map .sign) text ↔ text = chars := by
  induction chars generalizing text with
  | nil => exact Iff.rfl
  | cons c chars inductionHypothesis =>
      rw [List.mem_cons, not_or] at noSlash
      rw [List.map_cons, List.all_cons, Bool.and_eq_true] at literal
      have plain : c ≠ '*' ∧ c ≠ '?' := by simpa [Part.isLiteral] using literal.1
      have alone : ∀ front, (Part.sign c).Fits front ↔ front = [c] := by
        intro front
        simp only [Part.Fits, fits_other plain.1 plain.2, fits_nil, exists_eq_right]
        exact ⟨And.right, fun same => ⟨by simpa [same] using noSlash.1, same⟩⟩
      simp only [List.map_cons, FitsParts, alone, inductionHypothesis noSlash.2 literal.2]
      constructor
      · rintro ⟨_, _, rfl, rfl, rfl⟩
        rfl
      · rintro rfl
        exact ⟨[c], chars, rfl, rfl, rfl⟩

/-- A literal component stands for itself. -/
theorem Component.fits_of_isLiteral {chars : List Char} (noSlash : '/' ∉ chars)
    (literal : (ofChars chars).isLiteral = true) {text : List Char} :
    (ofChars chars).Fits text ↔ text = chars := by
  have signs : partsOf chars = chars.map .sign := partsOf_of_isLiteral literal
  have spelled : FitsParts (partsOf chars) text ↔ text = chars := by
    unfold Component.isLiteral ofChars at literal
    rw [signs] at literal ⊢
    exact fitsParts_of_isLiteral noSlash literal
  refine ⟨fun fit => spelled.1 fit.1, fun same => ⟨spelled.2 same, fun guarded dot => ?_⟩⟩
  rw [same] at dot
  obtain ⟨rest, rfl⟩ := List.head?_eq_some_iff.1 dot
  cases guarded

/-! ## A pattern behind a directory -/

theorem spells_cons_iff {component : Component} {others : List Component} (present : others ≠ [])
    {text : List Char} :
    Spells (component :: others) text ↔
      ∃ front back, text = front ++ '/' :: back ∧ component.Fits front ∧ Spells others back := by
  obtain ⟨next, more, rfl⟩ := List.exists_cons_of_ne_nil present
  exact Iff.rfl

/-- Literal components take their text, and leave the rest to what stands behind them. -/
theorem spells_append_of_isLiteral {others : List Component} (present : others ≠ [])
    {first : List Char} {names : List String} (noSlash : '/' ∉ first)
    (named : ∀ name ∈ names, Path.IsName name)
    (literal : ((first :: names.map String.toList).map Component.ofChars).all
      Component.isLiteral = true)
    {text : List Char} :
    Spells ((first :: names.map String.toList).map Component.ofChars ++ others) text ↔
      ∃ back, text = first ++ Path.below names ++ '/' :: back ∧ Spells others back := by
  induction names generalizing first text with
  | nil =>
      simp only [List.map_cons, List.all_cons, Bool.and_eq_true] at literal
      simp only [List.map_nil, List.map_cons, List.singleton_append, spells_cons_iff present,
        Component.fits_of_isLiteral noSlash literal.1, Path.below, List.flatMap_nil,
        List.append_nil]
      constructor
      · rintro ⟨_, back, rfl, rfl, spells⟩
        exact ⟨back, rfl, spells⟩
      · rintro ⟨back, rfl, spells⟩
        exact ⟨first, back, rfl, rfl, spells⟩
  | cons name names inductionHypothesis =>
      simp only [List.map_cons, List.all_cons, Bool.and_eq_true] at literal
      have further := fun {text} => @inductionHypothesis name.toList
        (named name List.mem_cons_self).noSlash
        (fun other member => named other (List.mem_cons_of_mem name member))
        (by simpa using literal.2) text
      simp only [List.map_cons, List.cons_append] at further ⊢
      rw [spells_cons_iff (List.cons_ne_nil _ _)]
      simp only [Component.fits_of_isLiteral noSlash literal.1, further]
      have behind : Path.below (name :: names) = '/' :: (name.toList ++ Path.below names) := rfl
      rw [behind]
      constructor
      · rintro ⟨_, _, rfl, rfl, back, rfl, spells⟩
        exact ⟨back, by simp, spells⟩
      · rintro ⟨back, rfl, spells⟩
        exact ⟨first, _, by simp, rfl, back, rfl, spells⟩

/-! ## Seen from the working directory -/

/-- The path that a relative path means below a directory. -/
def inside (cwd path : String) : String :=
  if cwd = "/" then "/" ++ path else cwd ++ "/" ++ path

theorem toList_inside {cwd : String} (rooted : Path.normalize cwd = cwd) (path : String) :
    (inside cwd path).toList = Path.below (Path.parts cwd) ++ '/' :: path.toList := by
  have whole : cwd = Path.text (Path.parts cwd) := rooted.symm
  unfold inside
  by_cases root : cwd = "/"
  · have empty : Path.parts cwd = [] := by
      rw [root]
      rfl
    rw [if_pos root, empty, String.toList_append]
    rfl
  · have present : Path.parts cwd ≠ [] := by
      intro empty
      rw [empty] at whole
      exact root (whole.trans (by decide))
    have chars : cwd.toList = Path.below (Path.parts cwd) := by
      rw [← Path.toList_text_of_ne_nil present, ← whole]
    rw [if_neg root, String.toList_append, String.toList_append, chars, List.append_assoc]
    rfl

theorem componentsOf_text {names : List String} (present : names ≠ [])
    (named : ∀ name ∈ names, Path.IsName name) :
    componentsOf (Path.text names) =
      ([] :: names.map String.toList).map Component.ofChars := by
  unfold componentsOf
  rw [Path.toList_text, Text.piecesOf_cons_separator,
    Text.piecesOf_joinPieces (mt List.map_eq_nil_iff.1 present) (Path.slash_notMem_of_isName named)]

theorem componentsOf_slash (pattern : String) :
    componentsOf ("/" ++ pattern) = Component.ofChars [] :: componentsOf pattern := by
  unfold componentsOf
  rw [String.toList_append]
  show (Text.piecesOf '/' ('/' :: pattern.toList)).map Component.ofChars = _
  rw [Text.piecesOf_cons_separator, List.map_cons]

theorem componentsOf_resolve {cwd pattern : String}
    (named : ∀ component ∈ Text.pieces '/' pattern, Path.IsName component) :
    componentsOf (Path.resolve cwd pattern) =
      ([] :: (Path.parts cwd).map String.toList).map Component.ofChars ++ componentsOf pattern := by
  have present : Text.pieces '/' pattern ≠ [] :=
    mt List.map_eq_nil_iff.1 (Text.piecesOf_ne_nil '/' pattern.toList)
  have relative : Text.startsWith pattern "/" = false := by
    rw [Bool.eq_false_iff, Ne, Text.startsWith_iff_head? (c := '/') rfl]
    intro slash
    obtain ⟨rest, chars⟩ := List.head?_eq_some_iff.1 slash
    refine (named "" ?_).nonempty rfl
    rw [Text.pieces, chars, Text.piecesOf_cons_separator]
    exact List.mem_cons_self
  have joined : Path.resolve cwd pattern =
      Path.text (Path.parts cwd ++ Text.pieces '/' pattern) := by
    unfold Path.resolve
    rw [relative, if_neg (by decide), Path.normalize, Path.parts_append_pieces named]
  have all : ∀ name ∈ Path.parts cwd ++ Text.pieces '/' pattern, Path.IsName name := by
    intro name member
    rcases List.mem_append.1 member with before | behind
    · exact Path.isName_of_mem_parts before
    · exact named name behind
  rw [joined, componentsOf_text (List.append_ne_nil_of_right_ne_nil _ present) all,
    List.map_append, Text.map_toList_pieces, ← List.cons_append, List.map_append]
  rfl

theorem Part.isTame_isOrdered_of_isLiteral {part : Part} (literal : part.isLiteral = true) :
    part.isTame = true ∧ part.isOrdered = true := by
  cases part with
  | sign c => exact ⟨rfl, rfl⟩
  | set negated chars => cases literal
  | cut rest => cases literal

theorem Component.isTame_isOrdered_of_isLiteral {component : Component}
    (literal : component.isLiteral = true) :
    component.isTame = true ∧ component.isOrdered = true := by
  have each := List.all_eq_true.1 literal
  have fit := fun part member => Part.isTame_isOrdered_of_isLiteral (each part member)
  exact ⟨List.all_eq_true.2 fun part member => (fit part member).1,
    List.all_eq_true.2 fun part member => (fit part member).2⟩

/-- The components of a literal path are literal one by one. -/
theorem isLiteral_parts {cwd : String} (rooted : Path.normalize cwd = cwd)
    (literal : isLiteral cwd = true) :
    (([] :: (Path.parts cwd).map String.toList).map Component.ofChars).all Component.isLiteral =
      true := by
  by_cases root : Path.parts cwd = []
  · rw [root]
    decide +kernel
  · have whole := componentsOf_text root fun _ => Path.isName_of_mem_parts
    have same : Path.text (Path.parts cwd) = cwd := rooted
    rw [same] at whole
    rw [← whole]
    exact literal

/-- A pattern behind literal components matches what is behind their text. -/
theorem matches_behind_iff {whole pattern path : String} {names : List String}
    (named : ∀ name ∈ names, Path.IsName name)
    (literals : (([] :: names.map String.toList).map Component.ofChars).all
      Component.isLiteral = true)
    (components : componentsOf whole =
      ([] :: names.map String.toList).map Component.ofChars ++ componentsOf pattern)
    (tame : isTame pattern = true) :
    Matches whole path ↔ isOrdered pattern = true ∧
      ∃ back, path.toList = Path.below names ++ '/' :: back ∧
        Spells (componentsOf pattern) back := by
  have fit := fun component member =>
    Component.isTame_isOrdered_of_isLiteral (List.all_eq_true.1 literals component member)
  have allTame : isTame whole = true := by
    rw [isTame, components, List.all_append, Bool.and_eq_true]
    exact ⟨List.all_eq_true.2 fun component member => (fit component member).1, tame⟩
  have ordered : isOrdered whole = isOrdered pattern := by
    rw [isOrdered, components, List.all_append,
      List.all_eq_true.2 fun component member => (fit component member).2, Bool.true_and]
    rfl
  rw [matches_iff_spells allTame, ordered, components, spells_append_of_isLiteral
    (componentsOf_ne_nil pattern) List.not_mem_nil named literals]
  rfl

/-- From a literal directory, a relative pattern matches what is below the directory and is matched
by the same pattern below the root. -/
theorem matches_resolve_iff {cwd pattern path : String} (rooted : Path.normalize cwd = cwd)
    (literal : isLiteral cwd = true) (tame : isTame pattern = true)
    (named : ∀ component ∈ Text.pieces '/' pattern, Path.IsName component) :
    Matches (Path.resolve cwd pattern) path ↔
      ∃ rest, path = inside cwd rest ∧ Matches ("/" ++ pattern) ("/" ++ rest) := by
  have below := fun rest => @matches_behind_iff ("/" ++ pattern) pattern ("/" ++ rest) [] nofun
    (by decide +kernel) (componentsOf_slash pattern) tame
  rw [matches_behind_iff (fun _ => Path.isName_of_mem_parts) (isLiteral_parts rooted literal)
    (componentsOf_resolve named) tame]
  constructor
  · rintro ⟨ordered, back, chars, spells⟩
    refine ⟨String.ofList back, ?_, (below _).2 ⟨ordered, back, by simp [Path.below], spells⟩⟩
    rw [← String.toList_inj, chars, toList_inside rooted, String.toList_ofList]
  · rintro ⟨rest, rfl, matched⟩
    obtain ⟨ordered, back, chars, spells⟩ := (below rest).1 matched
    have same : back = rest.toList := by simpa [Path.below] using chars.symm
    exact ⟨ordered, back, by rw [toList_inside rooted, same], spells⟩

theorem matches_resolve_iff_unclosed_bracket :
    isLiteral "/b[/c" = true ∧ isTame "[!a]*/.[w-y]" = true ∧
      (∀ component ∈ Text.pieces '/' "[!a]*/.[w-y]", Path.IsName component) ∧
      Matches (Path.resolve "/b[/c" "[!a]*/.[w-y]") "/b[/c/d/.x" ∧
      ¬ Matches (Path.resolve "/b[/c" "[!a]*/.[w-y]") "/b[/c/.d/.x" := by
  have rooted : Path.normalize "/b[/c" = "/b[/c" := by decide +kernel
  have literal : isLiteral "/b[/c" = true := by decide +kernel
  have tame : isTame "[!a]*/.[w-y]" = true := by decide +kernel
  have named : ∀ component ∈ Text.pieces '/' "[!a]*/.[w-y]", Path.IsName component := by
    decide +kernel
  have seen := fun path => @matches_resolve_iff _ _ path rooted literal tame named
  refine ⟨literal, tame, named, (seen _).2 ⟨"d/.x", rfl, by decide +kernel⟩, mt (seen _).1 ?_⟩
  rintro ⟨rest, same, matched⟩
  have chars := congrArg String.toList same
  have behind : rest = ".d/.x" := by
    rw [← String.toList_inj]
    simpa [inside] using chars.symm
  rw [behind] at matched
  exact absurd matched (by decide +kernel)

/-- A tree in which a directory has a wildcard for a name. -/
def starredFiles : Files :=
  (((Files.empty 0).after 1 (.write "/a*/x" "1" true)).after 2 (.write "/ab/y" "2" true)).after 3
    (.write "/b]" "3" true)

/-- A wildcard in the name of the working directory, or an operator that the pattern lets through,
leads to matches outside of the directory. -/
theorem exists_match_outside :
    starredFiles.contains "/a*" = true ∧ starredFiles.contains "/ab/y" = true ∧
      Matches (Path.resolve "/a*" "*") "/ab/y" ∧
      (¬ ∃ rest, "/ab/y" = inside "/a*" rest ∧ Matches "/*" ("/" ++ rest)) ∧
      starredFiles.contains "/ab" = true ∧ starredFiles.contains "/b]" = true ∧
      Matches (Path.resolve "/ab" "[!]|.*]") "/b]" ∧
      ¬ ∃ rest, "/b]" = inside "/ab" rest ∧ Matches "/[!]|.*]" ("/" ++ rest) := by
  refine ⟨by decide +kernel, by decide +kernel, by decide +kernel, ?_, by decide +kernel,
    by decide +kernel, by decide +kernel, ?_⟩
  · rintro ⟨rest, same, -⟩
    have chars := congrArg String.toList same
    simp [inside] at chars
  · rintro ⟨rest, same, -⟩
    have chars := congrArg String.toList same
    simp [inside] at chars

end VirtualShell.Glob
