import Mathlib.Data.List.TakeWhile
import VirtualShell.Proofs.Glob
import VirtualShell.Proofs.Regex.Sets

/-!
Contract: the parts of a file name pattern, brackets included, and what they are read as.

Owns:
- `Part` and `Component`, what the characters of a pattern are taken for, one by one;
- `charsExpression_eq`: the expression of a component is that of its parts, one behind the other;
- `compile_of_isTame`: where no part lets an operator of regular expressions through, the
  pattern is read part by part, or is malformed because a range in it is upside down.

Does not own: what the parts match (`VirtualShell.Proofs.Glob.Spelling`).
-/

namespace VirtualShell.Glob

open VirtualShell.Regex

/-! ## Parts -/

/-- A part of a component: a character by itself, a set, or a set that its negation and a closing
bracket make up already, with the characters behind them up to the bracket that was meant. -/
inductive Part where
  | sign (c : Char)
  | set (negated : Bool) (chars : List Char)
  | cut (rest : List Char)
deriving DecidableEq, Repr

namespace Part

/-- The part that brackets with the given text between them are. -/
def ofBody : List Char → Part
  | [] => .set false []
  | c :: rest =>
      if isNegation c then
        match rest with
        | ']' :: others => .cut others
        | _ => .set true rest
      else .set false (c :: rest)

/-- The characters that a set is made of; a negated set always names the slash. -/
def enclosed (negated : Bool) (chars : List Char) : List Char :=
  if negated then '/' :: chars else chars

/-- Whether a set holds a character. -/
def holds (negated : Bool) (chars : List Char) (c : Char) : Bool :=
  (membersOf (enclosed negated chars)).any (SetItem.contains c) != negated

/-- The expression of a part. -/
def expression : Part → List Char
  | .sign c =>
      if c = '*' then "[^/]*".toList else if c = '?' then "[^/]".toList else escapeChars [c]
  | .set negated chars => setText negated (enclosed negated chars)
  | .cut rest => "[^/]".toList ++ (setChars rest ++ [']'])

/-- The patterns of a part. -/
def patterns : Part → List Pattern
  | .sign c => [charPattern c]
  | .set negated chars => [.one (setOf negated (enclosed negated chars))]
  | .cut rest => .one notSlash :: (rest ++ [']']).map literal

/-- Whether no range of a part ends before it starts. -/
def isOrdered : Part → Bool
  | .set negated chars => Regex.isOrdered (enclosed negated chars)
  | _ => true

/-- Whether a part lets no operator of regular expressions through. -/
def isTame : Part → Bool
  | .cut rest => rest.all (!isOperator ·)
  | _ => true

/-- What the text between brackets is known to be like. -/
structure IsSet (negated : Bool) (chars : List Char) : Prop where
  present : enclosed negated chars ≠ []
  closed : ']' ∉ (enclosed negated chars).tail
  unsigned : negated = false → (enclosed negated chars).head? ≠ some '^'

/-- What a part of a component is known to be like. -/
def IsPart : Part → Prop
  | .sign c => c ≠ '/'
  | .set negated chars => IsSet negated chars
  | .cut rest => '/' ∉ rest

end Part

/-- The parts of the characters of a component. -/
def partsOf (chars : List Char) : List Part :=
  match chars with
  | [] => []
  | c :: rest =>
      if c = '[' then
        match _found : setAt? rest with
        | some (body, behind) => Part.ofBody body :: partsOf behind
        | none => .sign c :: partsOf rest
      else .sign c :: partsOf rest
termination_by chars.length
decreasing_by
  · exact length_of_setAt? _found
  · simp
  · simp

theorem setExpression_eq (body : List Char) :
    setExpression body = (Part.ofBody body).expression := by
  cases body with
  | nil => rfl
  | cons c rest =>
      unfold setExpression Part.ofBody
      simp only
      split
      · split
        · rename_i others
          show '[' :: '^' :: '/' :: setChars (']' :: others) ++ [']'] = _
          simp [Part.expression, setChars]
        · show '[' :: '^' :: '/' :: setChars rest ++ [']'] = _
          simp [Part.expression, Part.enclosed, setText, setChars]
      · show '[' :: setChars (c :: rest) ++ [']'] = _
        simp [Part.expression, Part.enclosed, setText]

/-! ## Where a set ends -/

theorem cutAt_eq_some {separator : Char} {chars front back : List Char}
    (cut : Text.cutAt separator chars = some (front, back)) :
    chars = front ++ separator :: back ∧ separator ∉ front := by
  unfold Text.cutAt at cut
  split at cut
  · cases cut
  · rename_i first behind dropped
    cases cut
    have found : first = separator := by
      have stopped := List.head?_dropWhile_not (· != separator) chars
      simpa [dropped] using stopped
    refine ⟨?_, fun member => by simpa using List.mem_takeWhile_imp member⟩
    rw [← found, ← dropped, found, List.takeWhile_append_dropWhile]

theorem openingLength_cons (c : Char) (rest : List Char) :
    openingLength (c :: rest) =
      if isNegation c then (if rest.head? = some ']' then 2 else 1)
      else if c = ']' then 1 else 0 := by
  unfold openingLength
  by_cases negation : isNegation c = true
  · simp [negation]
  · simp [negation]

theorem isPart_of_plain {c : Char} {rest : List Char} (plain : ¬ isNegation c = true)
    (closed : ']' ∉ rest) : (Part.ofBody (c :: rest)).IsPart := by
  have part : Part.ofBody (c :: rest) = .set false (c :: rest) := by
    unfold Part.ofBody
    exact if_neg plain
  have noCaret : c ≠ '^' := by
    rintro rfl
    exact plain rfl
  rw [part]
  exact ⟨List.cons_ne_nil c rest, closed, fun _ => by simpa [Part.enclosed] using noCaret⟩

theorem isPart_of_negation {c : Char} {rest : List Char} (negation : isNegation c = true)
    (closed : ']' ∉ rest) : (Part.ofBody (c :: rest)).IsPart := by
  have part : Part.ofBody (c :: rest) = .set true rest := by
    unfold Part.ofBody
    simp only [negation, if_true]
    split
    · exact absurd List.mem_cons_self closed
    · rfl
  rw [part]
  exact ⟨List.cons_ne_nil '/' rest, closed, nofun⟩

theorem setAt?_eq_some {chars body behind : List Char}
    (found : setAt? chars = some (body, behind)) :
    chars = body ++ ']' :: behind ∧ ('/' ∉ body → (Part.ofBody body).IsPart) := by
  unfold setAt? at found
  simp only at found
  split at found
  · rename_i front rest cut
    cases found
    obtain ⟨split, clear⟩ := cutAt_eq_some cut
    refine ⟨?_, ?_⟩
    · rw [List.append_assoc, ← split, List.take_append_drop]
    cases chars with
    | nil => cases cut
    | cons c others =>
        rw [openingLength_cons] at split ⊢
        by_cases negation : isNegation c = true
        · rw [if_pos negation] at split ⊢
          by_cases early : others.head? = some ']'
          · obtain ⟨others, rfl⟩ := List.head?_eq_some_iff.1 early
            rw [if_pos early]
            intro noSlash
            have part : Part.ofBody (c :: ']' :: front) = .cut front := by
              unfold Part.ofBody
              simp only [negation, if_true]
            show (Part.ofBody (c :: ']' :: front)).IsPart
            rw [part]
            exact fun member => noSlash (by simp [member])
          · rw [if_neg early]
            exact fun _ => isPart_of_negation negation clear
        · rw [if_neg negation] at split ⊢
          by_cases bracket : c = ']'
          · rw [if_pos bracket]
            exact fun _ => isPart_of_plain negation clear
          · rw [if_neg bracket] at split ⊢
            cases front with
            | nil => exact absurd (List.cons.inj split).1 bracket
            | cons d front =>
                cases (List.cons.inj split).1
                exact fun _ =>
                  isPart_of_plain negation fun member => clear (List.mem_cons_of_mem c member)
  · cases found

/-! ## Parts of a component -/

section

variable {c : Char} {rest body behind : List Char}

theorem partsOf_set (found : setAt? rest = some (body, behind)) :
    partsOf ('[' :: rest) = Part.ofBody body :: partsOf behind := by
  rw [partsOf, if_pos rfl]
  split
  · rename_i same
    cases found.symm.trans same
    rfl
  · rename_i unclosed
    cases found.symm.trans unclosed

theorem partsOf_unclosed (unclosed : setAt? rest = none) :
    partsOf ('[' :: rest) = .sign '[' :: partsOf rest := by
  rw [partsOf, if_pos rfl]
  split
  · rename_i found
    cases unclosed.symm.trans found
  · rfl

theorem partsOf_sign (other : c ≠ '[') : partsOf (c :: rest) = .sign c :: partsOf rest := by
  rw [partsOf, if_neg other]

theorem charsExpression_set (found : setAt? rest = some (body, behind)) :
    charsExpression ('[' :: rest) = setExpression body ++ charsExpression behind := by
  rw [charsExpression, if_neg (by decide), if_neg (by decide), if_pos rfl]
  split
  · rename_i same
    cases found.symm.trans same
    rfl
  · rename_i unclosed
    cases found.symm.trans unclosed

theorem charsExpression_unclosed (unclosed : setAt? rest = none) :
    charsExpression ('[' :: rest) = escapeChars ['['] ++ charsExpression rest := by
  rw [charsExpression, if_neg (by decide), if_neg (by decide), if_pos rfl]
  split
  · rename_i found
    cases unclosed.symm.trans found
  · rfl

end

/-- The expression of a component is made of those of its parts. -/
theorem charsExpression_eq (chars : List Char) :
    charsExpression chars = (partsOf chars).flatMap Part.expression := by
  induction chars using partsOf.induct with
  | case1 => rw [charsExpression, partsOf, List.flatMap_nil]
  | case2 rest body behind found inductionHypothesis =>
      rw [charsExpression_set found, partsOf_set found, List.flatMap_cons, setExpression_eq,
        inductionHypothesis]
  | case3 rest unclosed inductionHypothesis =>
      rw [charsExpression_unclosed unclosed, partsOf_unclosed unclosed, List.flatMap_cons,
        inductionHypothesis]
      rfl
  | case4 c rest other inductionHypothesis =>
      rw [charsExpression, partsOf_sign other, if_neg other, List.flatMap_cons,
        inductionHypothesis, Part.expression]
      split
      · rfl
      · split <;> rfl

theorem isPart_of_mem_partsOf {chars : List Char} (noSlash : '/' ∉ chars) {part : Part}
    (member : part ∈ partsOf chars) : part.IsPart := by
  induction chars using partsOf.induct with
  | case1 =>
      rw [partsOf] at member
      cases member
  | case2 rest body behind found inductionHypothesis =>
      obtain ⟨rfl, isPart⟩ := setAt?_eq_some found
      simp only [List.mem_cons, List.mem_append, not_or] at noSlash
      rw [partsOf_set found] at member
      rcases List.mem_cons.1 member with rfl | later
      · exact isPart noSlash.2.1
      · exact inductionHypothesis noSlash.2.2.2 later
  | case3 rest unclosed inductionHypothesis =>
      rw [partsOf_unclosed unclosed] at member
      rcases List.mem_cons.1 member with rfl | later
      · exact nofun
      · exact inductionHypothesis (fun slash => noSlash (List.mem_cons_of_mem _ slash)) later
  | case4 c rest other inductionHypothesis =>
      rw [partsOf_sign other] at member
      rcases List.mem_cons.1 member with rfl | later
      · exact fun same => noSlash (same ▸ List.mem_cons_self)
      · exact inductionHypothesis (fun slash => noSlash (List.mem_cons_of_mem _ slash)) later

/-! ## What parts are read as -/

theorem readsIf_part {part : Part} (isPart : part.IsPart) (tame : part.isTame = true) :
    ReadsIf part.isOrdered part.expression part.patterns := by
  cases part with
  | sign c =>
      show Reads (if c = '*' then _ else _) [charPattern c]
      rw [charPattern]
      split
      · exact reads_notSlashes
      · split
        · exact reads_notSlash
        · exact reads_escapeChars c
  | set negated chars => exact readsIf_setText isPart.present isPart.closed isPart.unsigned
  | cut rest =>
      have noOperator : ∀ c ∈ rest, isOperator c = false := by
        simpa [Part.isTame] using tame
      have literals : Reads (setChars rest) (rest.map literal) := reads_setChars noOperator
      have last : Reads [']'] [literal ']'] := reads_plain rfl (by decide) (by decide)
      show Reads _ (.one notSlash :: (rest ++ [']']).map literal)
      rw [List.map_append]
      exact reads_notSlash.append (literals.append last)

theorem readsIf_parts {parts : List Part} (all : ∀ part ∈ parts, part.IsPart)
    (tame : parts.all Part.isTame = true) :
    ReadsIf (parts.all Part.isOrdered) (parts.flatMap Part.expression)
      (parts.flatMap Part.patterns) := by
  induction parts with
  | nil => exact Reads.nil
  | cons part parts inductionHypothesis =>
      rw [List.all_cons, Bool.and_eq_true] at tame
      rw [List.all_cons, List.flatMap_cons, List.flatMap_cons]
      exact (readsIf_part (all part List.mem_cons_self) tame.1).append
        (inductionHypothesis (fun other member => all other (List.mem_cons_of_mem part member))
          tame.2)

/-! ## Components -/

/-- The parts of a component, and whether it is barred from a dot that comes first. -/
structure Component where
  guarded : Bool
  parts : List Part
deriving DecidableEq, Repr

namespace Component

/-- A component that starts with a wildcard is barred from a dot that comes first. -/
def ofChars (chars : List Char) : Component :=
  ⟨chars.head?.any isWildcard, partsOf chars⟩

/-- Whether a component lets no operator of regular expressions through. -/
def isTame (component : Component) : Bool :=
  component.parts.all Part.isTame

/-- Whether no range of a component ends before it starts. -/
def isOrdered (component : Component) : Bool :=
  component.parts.all Part.isOrdered

/-- What is ruled out in front of a component. -/
def guard (component : Component) : List Pattern :=
  if component.guarded then [.lookAhead true (Pattern.inOrder [literal '.'])] else []

/-- The patterns of a component. -/
def patterns (component : Component) : List Pattern :=
  component.guard ++ component.parts.flatMap Part.patterns

/-- The patterns of components with slashes between them. -/
def allPatterns : List Component → List Pattern
  | [] => []
  | [component] => component.patterns
  | component :: next :: others =>
      component.patterns ++ literal '/' :: allPatterns (next :: others)

end Component

/-- The components of a pattern. -/
def componentsOf (pattern : String) : List Component :=
  (Text.piecesOf '/' pattern.toList).map Component.ofChars

/-- Whether a pattern lets no operator of regular expressions through. -/
def isTame (pattern : String) : Bool :=
  (componentsOf pattern).all Component.isTame

/-- Whether no range of a pattern ends before it starts. -/
def isOrdered (pattern : String) : Bool :=
  (componentsOf pattern).all Component.isOrdered

theorem readsIf_componentExpression {chars : List Char} (noSlash : '/' ∉ chars)
    (tame : (Component.ofChars chars).isTame = true) :
    ReadsIf (Component.ofChars chars).isOrdered (componentExpression chars)
      (Component.ofChars chars).patterns := by
  have parts := readsIf_parts (fun part member => isPart_of_mem_partsOf noSlash member) tame
  unfold componentExpression Component.patterns Component.guard Component.ofChars
  rw [charsExpression_eq]
  split
  · exact (reads_escapeChars '.').notAhead.readsIf.append parts
  · exact parts

theorem readsIf_joinPieces {pieces : List (List Char)}
    (noSlash : ∀ piece ∈ pieces, '/' ∉ piece)
    (tame : (pieces.map Component.ofChars).all Component.isTame = true) :
    ReadsIf ((pieces.map Component.ofChars).all Component.isOrdered)
      (Text.joinPieces '/' (pieces.map componentExpression))
      (Component.allPatterns (pieces.map Component.ofChars)) := by
  induction pieces with
  | nil => exact Reads.nil
  | cons piece others inductionHypothesis =>
      rw [List.map_cons, List.all_cons, Bool.and_eq_true] at tame
      have first := readsIf_componentExpression (noSlash piece List.mem_cons_self) tame.1
      have further := inductionHypothesis
        (fun other member => noSlash other (List.mem_cons_of_mem piece member)) tame.2
      cases others with
      | nil => simpa [Text.joinPieces, Component.allPatterns] using first
      | cons next others =>
          simp only [List.map_cons] at further ⊢
          rw [List.all_cons, Text.joinPieces_cons_cons, Component.allPatterns]
          exact first.append ((reads_escapeChars '/').readsIf.append further)

/-- A pattern that lets no operator through is malformed just if one of its ranges is. -/
theorem compile_of_isTame {pattern : String} (tame : isTame pattern = true) :
    compile pattern =
      if isOrdered pattern then
        .ok (Pattern.inOrder
          (Component.allPatterns (componentsOf pattern) ++ [.anchor .textEnd]))
      else .error .malformed := by
  have read := (readsIf_joinPieces (fun _ => Text.separator_notMem_of_mem_piecesOf) tame).append
    reads_textEnd.readsIf
  rw [Bool.and_true] at read
  exact read_of_readsIf read

end VirtualShell.Glob
