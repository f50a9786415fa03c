import VirtualShell.Proofs.Glob.Parts
import VirtualShell.Proofs.Regex.Matching

/-!
Contract: what a file name pattern matches, brackets included.

Owns:
- `Part.Fits`, `Component.Fits` and `Spells`, what a part, a component and components with
  slashes between them stand for, said without regular expressions;
- `Matches`, and `matches_iff_spells`: a pattern that lets no operator of regular expressions
  through matches the texts that its components spell.

A set can hold a slash, so the components of a pattern need not be those of the text.
-/

namespace VirtualShell.Glob

open VirtualShell.Regex

/-! ## What a pattern stands for -/

/-- Whether a part stands for a text. -/
def Part.Fits : Part → List Char → Prop
  | .sign c, text => '/' ∉ text ∧ fits [c] text = true
  | .set negated chars, text => ∃ c, text = [c] ∧ Part.holds negated chars c = true
  | .cut rest, text => ∃ c, c ≠ '/' ∧ text = c :: (rest ++ [']'])

/-- Whether parts, one behind the other, stand for a text. -/
def FitsParts : List Part → List Char → Prop
  | [], text => text = []
  | part :: parts, text =>
      ∃ front back, text = front ++ back ∧ part.Fits front ∧ FitsParts parts back

/-- Whether a component stands for a text. -/
def Component.Fits (component : Component) (text : List Char) : Prop :=
  FitsParts component.parts text ∧ (component.guarded = true → text.head? ≠ some '.')

/-- Whether components with slashes between them stand for a text. -/
def Spells : List Component → List Char → Prop
  | [], _ => False
  | [component], text => component.Fits text
  | component :: next :: others, text =>
      ∃ front back, text = front ++ '/' :: back ∧ component.Fits front ∧
        Spells (next :: others) back

/-! ## What its patterns take -/

theorem takes_inOrder_append {first second : List Pattern} {takes more : List Char → Prop}
    (former : Takes (Pattern.inOrder first) takes) (latter : Takes (Pattern.inOrder second) more) :
    Takes (Pattern.inOrder (first ++ second)) fun text =>
      ∃ front back, text = front ++ back ∧ takes front ∧ more back := by
  have both := former.both latter
  intro follow fits finds
  rw [run_inOrder_append]
  exact both finds

theorem takes_inOrder_singleton {pattern : Pattern} {takes : List Char → Prop}
    (given : Takes pattern takes) : Takes (Pattern.inOrder [pattern]) takes := by
  refine (given.both takes_empty).congr fun text => ?_
  simp only [exists_eq_right_right, List.append_nil, exists_eq_left']

theorem takes_literals (chars : List Char) :
    Takes (Pattern.inOrder (chars.map literal)) fun text => text = chars := by
  induction chars with
  | nil => exact takes_empty
  | cons c chars inductionHypothesis =>
      refine ((takes_literal c).both inductionHypothesis).congr fun text => ?_
      constructor
      · rintro ⟨_, _, rfl, rfl, rfl⟩
        rfl
      · rintro rfl
        exact ⟨[c], chars, rfl, rfl, rfl⟩

theorem takes_part {part : Part} (isPart : part.IsPart) :
    Takes (Pattern.inOrder part.patterns) part.Fits := by
  cases part with
  | sign c => exact takes_inOrder_singleton (takes_charPattern isPart)
  | set negated chars =>
      refine (takes_inOrder_singleton (takes_one _)).congr fun text => ?_
      simp only [contains_setOf]
      rfl
  | cut rest =>
      refine ((takes_one notSlash).both (takes_literals (rest ++ [']']))).congr fun text => ?_
      simp only [notSlash, contains_notCode_iff]
      constructor
      · rintro ⟨_, _, rfl, ⟨c, rfl, other⟩, rfl⟩
        exact ⟨c, other, rfl⟩
      · rintro ⟨c, other, rfl⟩
        exact ⟨[c], rest ++ [']'], rfl, ⟨c, rfl, other⟩, rfl⟩

theorem takes_parts {parts : List Part} (all : ∀ part ∈ parts, part.IsPart) :
    Takes (Pattern.inOrder (parts.flatMap Part.patterns)) (FitsParts parts) := by
  induction parts with
  | nil => exact takes_empty
  | cons part parts inductionHypothesis =>
      exact takes_inOrder_append (takes_part (all part List.mem_cons_self))
        (inductionHypothesis fun other member => all other (List.mem_cons_of_mem part member))

section

variable {follow : Follow} {goes : List Char → Prop}

/-- A component takes what fits it. -/
theorem finds_fits {component : Component} (all : ∀ part ∈ component.parts, part.IsPart)
    (finds : Finds follow goes) (dotless : ∀ back, goes back → back.head? ≠ some '.') :
    Finds ((Pattern.inOrder component.patterns).run follow) fun text =>
      ∃ front back, text = front ++ back ∧ component.Fits front ∧ goes back := by
  have plain := takes_parts all
  unfold Component.patterns Component.guard
  split
  · rename_i guarded
    refine (finds_undotted plain finds dotless).congr fun text => ?_
    simp only [Component.Fits, guarded, true_implies]
  · rename_i tame
    refine (plain finds).congr fun text => ?_
    simp [Component.Fits, tame]

/-- The patterns of components find what the components spell. -/
theorem finds_spells {components : List Component} (present : components ≠ [])
    (all : ∀ component ∈ components, ∀ part ∈ component.parts, part.IsPart)
    (finds : Finds follow fun text => text = []) :
    Finds ((Pattern.inOrder (Component.allPatterns components)).run follow)
      (Spells components) := by
  induction components with
  | nil => exact absurd rfl present
  | cons component others inductionHypothesis =>
      have alone := all component List.mem_cons_self
      cases others with
      | nil =>
          refine (finds_fits alone finds ?_).congr fun text => ?_
          · rintro _ rfl
            simp
          · simp only [Spells, exists_eq_right_right, List.append_nil, exists_eq_left']
      | cons next others =>
          have further := inductionHypothesis (List.cons_ne_nil next others)
            fun other member => all other (List.mem_cons_of_mem component member)
          rw [Component.allPatterns, run_inOrder_append]
          refine (finds_fits alone (takes_literal '/' further) ?_).congr fun text => ?_
          · rintro _ ⟨_, back, rfl, rfl, -⟩
            simp
          · constructor
            · rintro ⟨front, _, rfl, fit, _, back, rfl, rfl, more⟩
              exact ⟨front, back, rfl, fit, more⟩
            · rintro ⟨front, back, rfl, fit, more⟩
              exact ⟨front, '/' :: back, rfl, fit, ['/'], back, rfl, rfl, more⟩

end

/-! ## What a pattern matches -/

theorem componentsOf_ne_nil (pattern : String) : componentsOf pattern ≠ [] :=
  mt List.map_eq_nil_iff.1 (Text.piecesOf_ne_nil '/' pattern.toList)

theorem isPart_of_mem_componentsOf {pattern : String} {component : Component}
    (member : component ∈ componentsOf pattern) {part : Part}
    (inside : part ∈ component.parts) : part.IsPart := by
  rcases List.mem_map.1 member with ⟨piece, present, rfl⟩
  exact isPart_of_mem_partsOf (Text.separator_notMem_of_mem_piecesOf present) inside

/-- Whether a pattern can be compiled and then matches a path. -/
def Matches (pattern path : String) : Prop :=
  ∃ compiled, compile pattern = .ok compiled ∧ isMatch compiled path = true

instance (pattern path : String) : Decidable (Matches pattern path) :=
  match read : compile pattern with
  | .ok compiled =>
      decidable_of_iff (isMatch compiled path = true)
        ⟨fun matched => ⟨compiled, read, matched⟩, fun ⟨_, same, matched⟩ => by
          cases read.symm.trans same
          exact matched⟩
  | .error _ => isFalse fun ⟨_, same, _⟩ => by cases read.symm.trans same

/-- A pattern that lets no operator through matches what its components spell, unless one of its
ranges ends before it starts. -/
theorem matches_iff_spells {pattern path : String} (tame : isTame pattern = true) :
    Matches pattern path ↔
      isOrdered pattern = true ∧ Spells (componentsOf pattern) path.toList := by
  have ended : Finds ((Pattern.inOrder [.anchor .textEnd]).run some) fun text => text = [] :=
    finds_some.textEnd.congr fun text => by rw [and_true]
  have found := finds_spells (componentsOf_ne_nil pattern)
    (fun _ member _ => isPart_of_mem_componentsOf member) ended
  rw [← run_inOrder_append] at found
  have spelled := found.matchesAtStart_iff path.toList
  unfold Matches
  rw [compile_of_isTame tame]
  by_cases ordered : isOrdered pattern = true
  · rw [if_pos ordered]
    constructor
    · rintro ⟨_, same, matched⟩
      cases same
      exact ⟨ordered, spelled.1 matched⟩
    · exact fun spells => ⟨_, rfl, spelled.2 spells.2⟩
  · rw [if_neg ordered]
    constructor
    · rintro ⟨_, same, -⟩
      cases same
    · exact fun spells => absurd spells.1 ordered

end VirtualShell.Glob
