import Mathlib.Data.Finset.Dedup
import Mathlib.Data.List.TakeWhile
import VirtualShell.Parameter
import VirtualShell.Proofs.Table
import VirtualShell.Proofs.Text.Digit
import VirtualShell.Proofs.Text.Pieces

/-!
Contract: a value that takes the place of a reference is not looked at again.

Owns:
- `Template.ReadsAs`, the parts of a text for the names that have a variable: one rule for each
  form that text and references have, without any value;
- `Template.BehindDollar`, the forms of what can stand behind a dollar;
- `Template.readsAs_iff`, that `Template.ofChars` finds these parts, and that no text has others;
- `exists_parts_expandVariables_eq_meaning`, that a text is expanded to what its parts stand
  for, one behind the other, whatever characters the values consist of.
-/

namespace VirtualShell

/-! ## Names with a value -/

/-- The names that have a variable. -/
def Environment.domain (environment : Environment) : Finset String :=
  environment.keys.toFinset

theorem Environment.mem_domain_iff {environment : Environment} {name : String} :
    name ∈ environment.domain ↔ (environment.get? name).isSome := by
  rw [Environment.domain, List.mem_toFinset, Table.mem_keys_iff]

/-- Whether a parameter has a value when `defined` are the names that have a variable. -/
def HasValue (defined : Finset String) (name : String) : Prop :=
  name = "?" ∨ name ∈ defined ∨ (parameterDefault? name).isSome

instance (defined : Finset String) (name : String) : Decidable (HasValue defined name) := by
  unfold HasValue
  infer_instance

theorem Parameters.isSome_lookup?_iff (parameters : Parameters) (name : String) :
    (parameters.lookup? name).isSome ↔ HasValue parameters.environment.domain name := by
  rw [HasValue, Environment.mem_domain_iff, Parameters.lookup?]
  split
  · simp [*]
  · simp [*, Option.isSome_or]

namespace Template

/-! ## Parts -/

/-- A part of a text when it is known which names have a variable: text that stands for itself,
the value of a name, or the length of this value. -/
inductive Part where
  | literal (text : String)
  | value (name : String)
  | length (name : String)
deriving DecidableEq, Repr

/-- The name that a part refers to. -/
def Part.name? : Part → Option String
  | .literal _ => none
  | .value name => some name
  | .length name => some name

/-- What a part stands for: a value as it is, a length in decimal digits. -/
def Part.meaning (parameters : Parameters) : Part → String
  | .literal text => text
  | .value name => (parameters.lookup? name).getD ""
  | .length name => toString ((parameters.lookup? name).getD "").length

/-- What parts stand for, one behind the other. -/
def meaning (parameters : Parameters) (parts : List Part) : String :=
  String.join (parts.map (Part.meaning parameters))

theorem Part.meaning_congr {part : Part} {first second : Parameters}
    (agree : ∀ name ∈ part.name?, first.lookup? name = second.lookup? name) :
    part.meaning first = part.meaning second := by
  cases part with
  | literal text => rfl
  | value name => simp [Part.meaning, agree name rfl]
  | length name => simp [Part.meaning, agree name rfl]

/-- The names that parts refer to are all that is looked up for them. -/
theorem meaning_congr {parts : List Part} {first second : Parameters}
    (agree : ∀ name ∈ parts.filterMap Part.name?, first.lookup? name = second.lookup? name) :
    meaning first parts = meaning second parts := by
  refine congrArg String.join (List.map_congr_left fun part member => ?_)
  exact Part.meaning_congr fun name refers =>
    agree name (List.mem_filterMap.2 ⟨part, member, refers⟩)

/-! ## How a text reads -/

/-- What stands between braces, as a part. A fallback stands for itself and only for a value that
is not there: it is not read for references, and an empty value is a value. -/
inductive ReadsBraced (defined : Finset String) : List Char → Part → Prop where
  | length (name : String) (filled : name ≠ "") :
      ReadsBraced defined ('#' :: name.toList) (.length name)
  | value (name : String) (unmeasured : ∀ rest, name.toList = '#' :: rest → rest = [])
      (uncut : ¬ [':', '-'] <:+: name.toList) :
      ReadsBraced defined name.toList (.value name)
  | present (name fallback : String) (unmeasured : name.toList.head? ≠ some '#')
      (uncut : ¬ [':', '-'] <:+: name.toList) (present : HasValue defined name) :
      ReadsBraced defined (name.toList ++ ':' :: '-' :: fallback.toList) (.value name)
  | absent (name fallback : String) (unmeasured : name.toList.head? ≠ some '#')
      (uncut : ¬ [':', '-'] <:+: name.toList) (absent : ¬ HasValue defined name) :
      ReadsBraced defined (name.toList ++ ':' :: '-' :: fallback.toList) (.literal fallback)

/-- A character that makes the dollar before it a reference. -/
def opensReference (c : Char) : Bool :=
  c == '{' || isNameStart c || Text.isDigit c || isSpecialParameter c

/-- A text as parts. The rules look at the characters of the text and at the names that have a
variable; no value occurs in them. -/
inductive ReadsAs (defined : Finset String) : List Char → List Part → Prop where
  | nil : ReadsAs defined [] []
  | text (text : String) {rest : List Char} {parts : List Part} (filled : text ≠ "")
      (clear : '$' ∉ text.toList) (ends : ∀ c ∈ rest.head?, c = '$')
      (behind : ReadsAs defined rest parts) :
      ReadsAs defined (text.toList ++ rest) (.literal text :: parts)
  | dollar {rest : List Char} {parts : List Part}
      (lone : ∀ c ∈ rest.head?, opensReference c = false) (behind : ReadsAs defined rest parts) :
      ReadsAs defined ('$' :: rest) (.literal "$" :: parts)
  | name (name : String) {rest : List Char} {parts : List Part} (named : isName name = true)
      (ends : ∀ c ∈ rest.head?, isNameChar c = false) (behind : ReadsAs defined rest parts) :
      ReadsAs defined ('$' :: (name.toList ++ rest)) (.value name :: parts)
  | sign (c : Char) {rest : List Char} {parts : List Part}
      (single : (Text.isDigit c || isSpecialParameter c) = true)
      (behind : ReadsAs defined rest parts) :
      ReadsAs defined ('$' :: c :: rest) (.value (String.singleton c) :: parts)
  | braced {inner rest : List Char} {part : Part} {parts : List Part} (closed : '}' ∉ inner)
      (reads : ReadsBraced defined inner part) (behind : ReadsAs defined rest parts) :
      ReadsAs defined ('$' :: '{' :: (inner ++ '}' :: rest)) (part :: parts)
  | unclosed (rest : String) (unclosed : '}' ∉ rest.toList) :
      ReadsAs defined ('$' :: '{' :: rest.toList) [.literal ("$\x7b" ++ rest)]

/-! ## How a text is taken apart -/

theorem takeWhile_append_of_head? {taken : Char → Bool} {front rest : List Char}
    (all : ∀ c ∈ front, taken c = true) (ends : ∀ c ∈ rest.head?, taken c = false) :
    (front ++ rest).takeWhile taken = front := by
  rw [List.takeWhile_append_of_pos all]
  cases rest with
  | nil => simp
  | cons c rest => simp [ends c rfl]

theorem isNameChar_of_isNameStart {c : Char} (starts : isNameStart c = true) :
    isNameChar c = true := by
  simp only [isNameStart, Bool.or_eq_true] at starts
  simp only [isNameChar, Char.isAlphanum, Bool.or_eq_true]
  exact starts.imp_left .inl

theorem isNameChar_of_mem {name : String} (named : isName name = true) {c : Char}
    (member : c ∈ name.toList) : isNameChar c = true := by
  unfold isName at named
  split at named
  · cases named
  · rename_i first others chars
    rw [Bool.and_eq_true, List.all_eq_true] at named
    rw [chars] at member
    rcases List.mem_cons.1 member with rfl | later
    · exact isNameChar_of_isNameStart named.1
    · exact named.2 c later

/-- No name starts with a digit or a special sign. -/
theorem isNameStart_of_single {c : Char}
    (single : (Text.isDigit c || isSpecialParameter c) = true) : isNameStart c = false := by
  by_contra starts
  rw [Bool.not_eq_false] at starts
  rw [Text.isDigit_of_isNameStart starts, Bool.false_or] at single
  simp only [isSpecialParameter, Bool.or_eq_true, beq_iff_eq] at single
  obtain ((((rfl | rfl) | rfl) | rfl) | rfl) | rfl := single <;> cases starts

theorem ne_brace_of_single {c : Char}
    (single : (Text.isDigit c || isSpecialParameter c) = true) : c ≠ '{' := by
  rintro rfl
  revert single
  decide +kernel

theorem reference_of_lone {rest : List Char}
    (lone : ∀ c ∈ rest.head?, opensReference c = false) : reference rest = (.plain "$", 0) := by
  cases rest with
  | nil => rfl
  | cons c rest =>
      have closed := lone c rfl
      simp only [opensReference, Bool.or_eq_false_iff, beq_eq_false_iff_ne] at closed
      simp [reference, closed]

theorem reference_name {name : String} {rest : List Char} (named : isName name = true)
    (ends : ∀ c ∈ rest.head?, isNameChar c = false) :
    reference (name.toList ++ rest) = (.value name none, name.toList.length) := by
  have whole := takeWhile_append_of_head? (fun c => isNameChar_of_mem named) ends
  unfold isName at named
  split at named
  · cases named
  · rename_i c others chars
    have brace : c ≠ '{' := by
      rintro rfl
      cases named
    have front : name.toList ++ rest = c :: (others ++ rest) := by
      rw [chars, List.cons_append]
    rw [front] at whole ⊢
    simp [reference, (Bool.and_eq_true _ _ ▸ named).1, whole]

theorem reference_single {c : Char} (single : (Text.isDigit c || isSpecialParameter c) = true)
    (rest : List Char) :
    reference (c :: rest) = (.value (String.singleton c) none, 1) := by
  have brace := ne_brace_of_single single
  simp [reference, isNameStart_of_single single, single]

theorem reference_braced {inner : List Char} (closed : '}' ∉ inner) (rest : List Char) :
    reference ('{' :: (inner ++ '}' :: rest)) = (braced inner, inner.length + 2) := by
  have whole : (inner ++ '}' :: rest).takeWhile (· != '}') = inner := by
    refine takeWhile_append_of_head? (fun c member => bne_iff_ne.2 ?_) (by simp)
    rintro rfl
    exact closed member
  simp [reference, whole]

theorem reference_unclosed {rest : List Char} (unclosed : '}' ∉ rest) :
    reference ('{' :: rest) =
      (.plain (String.ofList ('$' :: '{' :: rest)), rest.length + 1) := by
  have whole : rest.takeWhile (· != '}') = rest := by
    refine List.takeWhile_eq_self_iff.2 fun c member => bne_iff_ne.2 ?_
    rintro rfl
    exact unclosed member
  simp [reference, whole]

theorem ofChars_text {text : String} {rest : List Char} (filled : text ≠ "")
    (clear : '$' ∉ text.toList) (ends : ∀ c ∈ rest.head?, c = '$') :
    ofChars (text.toList ++ rest) = .plain text :: ofChars rest := by
  obtain ⟨c, others, chars⟩ := List.exists_cons_of_ne_nil
    (mt String.toList_eq_nil_iff.1 filled)
  rw [chars, List.mem_cons, not_or] at clear
  have whole : (others ++ rest).takeWhile (· != '$') = others := by
    refine takeWhile_append_of_head? (fun d member => bne_iff_ne.2 ?_) fun d first => ?_
    · rintro rfl
      exact clear.2 member
    · simp [ends d first]
  rw [chars, List.cons_append, ofChars, if_neg (Ne.symm clear.1)]
  simp [whole, ← chars]

theorem ofChars_dollar {rest : List Char} {piece : Piece} {width : Nat}
    (refers : reference rest = (piece, width)) :
    ofChars ('$' :: rest) = piece :: ofChars (rest.drop width) := by
  rw [ofChars, if_pos rfl, refers]

/-! ## The reading of a text -/

/-- A piece when it is known which names have a variable. -/
def Piece.resolve (defined : Finset String) : Piece → Part
  | .plain text => .literal text
  | .value name none => .value name
  | .value name (some fallback) =>
      if HasValue defined name then .value name else .literal fallback
  | .length name => .length name

/-- Between braces that do not ask for a length, the first mark parts a name and a fallback. -/
theorem braced_of_unmeasured {inner : List Char}
    (unmeasured : ∀ rest, inner = '#' :: rest → rest = []) :
    braced inner = match Text.cutAtMark [':', '-'] inner with
      | some (name, fallback) => .value (String.ofList name) (some (String.ofList fallback))
      | none => .value (String.ofList inner) none := by
  unfold braced
  split
  · rename_i c rest
    exact absurd (unmeasured _ rfl) (List.cons_ne_nil c rest)
  · rfl

theorem braced_append {name : String} (unmeasured : name.toList.head? ≠ some '#')
    (uncut : ¬ [':', '-'] <:+: name.toList) (fallback : String) :
    braced (name.toList ++ ':' :: '-' :: fallback.toList) = .value name (some fallback) := by
  rw [braced_of_unmeasured, Text.cutAtMark_append (by decide) uncut]
  · simp
  · intro rest same
    cases chars : name.toList with
    | nil =>
        rw [chars, List.nil_append] at same
        cases same
    | cons c others =>
        rw [chars, List.cons_append, List.cons.injEq] at same
        rw [chars, same.1] at unmeasured
        exact absurd rfl unmeasured

variable {defined : Finset String}

theorem ReadsBraced.resolve_braced {inner : List Char} {part : Part}
    (reads : ReadsBraced defined inner part) : (braced inner).resolve defined = part := by
  cases reads with
  | length name filled =>
      obtain ⟨c, rest, chars⟩ := List.exists_cons_of_ne_nil
        (mt String.toList_eq_nil_iff.1 filled)
      rw [chars, braced, ← chars, String.ofList_toList, Piece.resolve]
  | value name unmeasured uncut =>
      rw [braced_of_unmeasured unmeasured,
        (Text.cutAtMark_eq_none_iff (List.cons_ne_nil _ _)).2 uncut]
      simp [Piece.resolve]
  | present name fallback unmeasured uncut present =>
      rw [braced_append unmeasured uncut, Piece.resolve, if_pos present]
  | absent name fallback unmeasured uncut absent =>
      rw [braced_append unmeasured uncut, Piece.resolve, if_neg absent]

/-- Whatever stands between braces can be read. -/
theorem exists_readsBraced (defined : Finset String) (inner : List Char) :
    ∃ part, ReadsBraced defined inner part := by
  by_cases measured : ∃ c rest, inner = '#' :: c :: rest
  · obtain ⟨c, rest, rfl⟩ := measured
    have reads : ReadsBraced defined _ _ := .length (String.ofList (c :: rest)) (by simp)
    rw [String.toList_ofList] at reads
    exact ⟨_, reads⟩
  have unmeasured : ∀ rest, inner = '#' :: rest → rest = [] := by
    rintro (_ | ⟨c, rest⟩) same
    · rfl
    · exact absurd ⟨c, rest, same⟩ measured
  cases cut : Text.cutAtMark [':', '-'] inner with
  | none =>
      have uncut := (Text.cutAtMark_eq_none_iff (List.cons_ne_nil _ _)).1 cut
      rw [← String.toList_ofList (l := inner)] at unmeasured uncut ⊢
      exact ⟨_, .value (String.ofList inner) unmeasured uncut⟩
  | some sides =>
      obtain ⟨name, fallback⟩ := sides
      obtain ⟨rfl, uncut⟩ := (Text.cutAtMark_eq_some_iff (by decide)).1 cut
      have unmarked : name.head? ≠ some '#' := by
        intro mark
        obtain ⟨rest, rfl⟩ := List.head?_eq_some_iff.1 mark
        have none := unmeasured _ rfl
        simp at none
      rw [← String.toList_ofList (l := name)] at unmarked uncut ⊢
      rw [← String.toList_ofList (l := fallback)]
      by_cases present : HasValue defined (String.ofList name)
      · exact ⟨_, .present _ _ unmarked uncut present⟩
      · exact ⟨_, .absent _ _ unmarked uncut present⟩

/-- The reading of a text is what it is taken apart to. -/
theorem ReadsAs.eq_map_resolve {chars : List Char} {parts : List Part}
    (reads : ReadsAs defined chars parts) :
    parts = (ofChars chars).map (Piece.resolve defined) := by
  induction reads with
  | nil => simp [ofChars]
  | text text filled clear ends behind inductionHypothesis =>
      rw [ofChars_text filled clear ends, List.map_cons, inductionHypothesis]
      rfl
  | dollar lone behind inductionHypothesis =>
      rw [ofChars_dollar (reference_of_lone lone), List.drop_zero, List.map_cons,
        inductionHypothesis]
      rfl
  | name name named ends behind inductionHypothesis =>
      rw [ofChars_dollar (reference_name named ends), List.drop_left, List.map_cons,
        inductionHypothesis]
      rfl
  | sign c single behind inductionHypothesis =>
      rw [ofChars_dollar (reference_single single _), List.map_cons, inductionHypothesis]
      rfl
  | braced closed reads behind inductionHypothesis =>
      rw [ofChars_dollar (reference_braced closed _), List.map_cons, reads.resolve_braced,
        inductionHypothesis]
      simp
  | unclosed rest unclosed =>
      have spelled : String.ofList ('$' :: '{' :: rest.toList) = "$\x7b" ++ rest := by
        rw [← String.toList_inj]
        simp
      rw [ofChars_dollar (reference_unclosed unclosed), spelled]
      simp [ofChars, Piece.resolve]

theorem exists_run (taken : Char → Bool) (chars : List Char) :
    ∃ front rest, chars = front ++ rest ∧ (∀ c ∈ front, taken c = true) ∧
      ∀ c ∈ rest.head?, taken c = false := by
  refine ⟨chars.takeWhile taken, chars.dropWhile taken, List.takeWhile_append_dropWhile.symm,
    fun c => List.mem_takeWhile_imp, fun c first => ?_⟩
  have stops := List.head?_dropWhile_not taken chars
  rw [Option.mem_def.1 first] at stops
  exact stops

theorem exists_readsAs_text {chars : List Char} (filled : chars ≠ [])
    (starts : chars.head? ≠ some '$')
    (behind : ∀ shorter : List Char, shorter.length < chars.length →
      ∃ parts, ReadsAs defined shorter parts) : ∃ parts, ReadsAs defined chars parts := by
  obtain ⟨front, rest, rfl, all, ends⟩ := exists_run (· != '$') chars
  have some : front ≠ [] := by
    rintro rfl
    obtain ⟨c, others, rfl⟩ := List.exists_cons_of_ne_nil filled
    exact starts (congrArg some (by simpa using ends c rfl))
  have shorter : rest.length < (front ++ rest).length := by
    have positive := List.length_pos_iff.2 some
    rw [List.length_append]
    omega
  obtain ⟨parts, reads⟩ := behind rest shorter
  rw [← String.toList_ofList (l := front)] at all ⊢
  exact ⟨_, .text (String.ofList front) (by simpa using some)
    (fun member => absurd (all _ member) (by decide)) (by simpa using ends) reads⟩

/-- What can stand behind a dollar: nothing that it refers to, a name, a single sign, or a brace. -/
inductive BehindDollar : List Char → Prop where
  | lone {rest : List Char} (lone : ∀ c ∈ rest.head?, opensReference c = false) :
      BehindDollar rest
  | name {name : String} {rest : List Char} (named : isName name = true)
      (ends : ∀ c ∈ rest.head?, isNameChar c = false) : BehindDollar (name.toList ++ rest)
  | sign {c : Char} {rest : List Char} (single : (Text.isDigit c || isSpecialParameter c) = true) :
      BehindDollar (c :: rest)
  | braced {inner rest : List Char} (closed : '}' ∉ inner) :
      BehindDollar ('{' :: (inner ++ '}' :: rest))
  | unclosed {rest : List Char} (unclosed : '}' ∉ rest) : BehindDollar ('{' :: rest)

theorem behindDollar (chars : List Char) : BehindDollar chars := by
  by_cases lone : ∀ c ∈ chars.head?, opensReference c = false
  · exact .lone lone
  obtain ⟨c, first, opens⟩ : ∃ c ∈ chars.head?, opensReference c = true := by
    simpa using lone
  obtain ⟨others, rfl⟩ := List.head?_eq_some_iff.1 first
  by_cases brace : c = '{'
  · subst brace
    by_cases closed : '}' ∈ others
    · obtain ⟨inner, rest, rfl, clear⟩ := List.eq_append_cons_of_mem closed
      exact .braced clear
    · exact .unclosed closed
  by_cases starts : isNameStart c = true
  · obtain ⟨front, rest, rfl, all, ends⟩ := exists_run isNameChar others
    have named : isName (String.ofList (c :: front)) = true := by
      simpa [isName, starts] using all
    have name := BehindDollar.name named ends
    rwa [String.toList_ofList] at name
  · exact .sign (by simpa [opensReference, brace, starts] using opens)

theorem exists_readsAs_dollar {rest : List Char}
    (behind : ∀ shorter : List Char, shorter.length ≤ rest.length →
      ∃ parts, ReadsAs defined shorter parts) : ∃ parts, ReadsAs defined ('$' :: rest) parts := by
  cases behindDollar rest with
  | lone lone =>
      obtain ⟨parts, reads⟩ := behind rest (Nat.le_refl _)
      exact ⟨_, .dollar lone reads⟩
  | @name name others named ends =>
      obtain ⟨parts, reads⟩ := behind others (by rw [List.length_append]; omega)
      exact ⟨_, .name name named ends reads⟩
  | @sign c others single =>
      obtain ⟨parts, reads⟩ := behind others (Nat.le_succ _)
      exact ⟨_, .sign c single reads⟩
  | @braced inner others closed =>
      have shorter : others.length ≤ ('{' :: (inner ++ '}' :: others)).length := by
        simp only [List.length_cons, List.length_append]
        omega
      obtain ⟨parts, reads⟩ := behind others shorter
      obtain ⟨part, between⟩ := exists_readsBraced defined inner
      exact ⟨_, .braced closed between reads⟩
  | @unclosed others unclosed =>
      rw [← String.toList_ofList (l := others)] at unclosed ⊢
      exact ⟨_, .unclosed (String.ofList others) unclosed⟩

/-- Every text can be read: some rule applies wherever the reading stands. -/
theorem exists_readsAs (defined : Finset String) (chars : List Char) :
    ∃ parts, ReadsAs defined chars parts := by
  -- The rules take different numbers of characters away, so the induction is on the length.
  induction size : chars.length using Nat.strong_induction_on generalizing chars with
  | _ size inductionHypothesis =>
  subst size
  have behind : ∀ shorter : List Char, shorter.length < chars.length →
      ∃ parts, ReadsAs defined shorter parts := fun shorter less =>
    inductionHypothesis shorter.length less shorter rfl
  by_cases filled : chars = []
  · subst filled
    exact ⟨[], .nil⟩
  by_cases starts : chars.head? = some '$'
  · obtain ⟨rest, rfl⟩ := List.head?_eq_some_iff.1 starts
    exact exists_readsAs_dollar fun shorter atMost => behind shorter (Nat.lt_succ_of_le atMost)
  · exact exists_readsAs_text filled starts behind

/-- A text reads as the parts that it is taken apart to, and as nothing else. -/
theorem readsAs_iff {chars : List Char} {parts : List Part} :
    ReadsAs defined chars parts ↔ parts = (ofChars chars).map (Piece.resolve defined) := by
  constructor
  · exact ReadsAs.eq_map_resolve
  · rintro rfl
    obtain ⟨parts, reads⟩ := exists_readsAs defined chars
    rwa [reads.eq_map_resolve] at reads

/-! ## What a text stands for -/

theorem Piece.meaning_resolve (parameters : Parameters) (piece : Piece) :
    (piece.resolve parameters.environment.domain).meaning parameters =
      piece.render parameters := by
  cases piece with
  | plain text => rfl
  | length name => rfl
  | value name fallback =>
      cases fallback with
      | none => simp [Piece.resolve, Part.meaning, Piece.render]
      | some fallback =>
          rw [Piece.resolve, Piece.render]
          split
          · rename_i present
            rw [← Parameters.isSome_lookup?_iff] at present
            obtain ⟨value, found⟩ := Option.isSome_iff_exists.1 present
            simp [Part.meaning, found]
          · rename_i absent
            rw [← Parameters.isSome_lookup?_iff, Option.not_isSome_iff_eq_none] at absent
            simp [Part.meaning, absent]

end Template

theorem expandVariables_eq_meaning {parameters : Parameters} {text : String}
    {parts : List Template.Part}
    (reads : Template.ReadsAs parameters.environment.domain text.toList parts) :
    expandVariables parameters text = Template.meaning parameters parts := by
  rw [Template.readsAs_iff.1 reads, Template.meaning, List.map_map, expandVariables,
    Template.render, Template.ofText]
  refine congrArg String.join (List.map_congr_left fun piece _ => ?_)
  exact (Template.Piece.meaning_resolve parameters piece).symm

/-- A value that takes the place of a reference is not looked at again. For every text and every
set of names there is one list of parts, read off the characters of the text and the names alone.
Whenever these are the names that have a variable, the text is expanded to what the parts stand
for, one behind the other: text as it is, values as they are, and lengths in decimal digits. So
two environments in which the names of the parts have the same values expand the text alike. -/
theorem exists_parts_expandVariables_eq_meaning (defined : Finset String) (text : String) :
    ∃ parts : List Template.Part,
      (∀ others, Template.ReadsAs defined text.toList others ↔ others = parts) ∧
      (∀ parameters : Parameters, parameters.environment.domain = defined →
        expandVariables parameters text = Template.meaning parameters parts) ∧
      ∀ first second : Parameters, first.environment.domain = defined →
        second.environment.domain = defined →
        (∀ name ∈ parts.filterMap Template.Part.name?,
          first.lookup? name = second.lookup? name) →
        expandVariables first text = expandVariables second text := by
  obtain ⟨parts, reads⟩ := Template.exists_readsAs defined text.toList
  have expands : ∀ parameters : Parameters, parameters.environment.domain = defined →
      expandVariables parameters text = Template.meaning parameters parts := by
    rintro parameters rfl
    exact expandVariables_eq_meaning reads
  refine ⟨parts, fun others => ?_, expands, fun first second same same' agree => ?_⟩
  · rw [Template.readsAs_iff, ← Template.readsAs_iff.1 reads]
  · rw [expands first same, expands second same', Template.meaning_congr agree]

/-- A value that looks like a reference, and one that no part of `quaintText` refers to. -/
def quaintParameters (unread : String) : Parameters :=
  ⟨.ofList [("X", "$\x7bZ\x7d\\"), ("Z", unread)], 3⟩

/-- A text with references of all forms, with a fallback that looks like one, and with a dollar
that refers to nothing. -/
def quaintText : String :=
  "$X\x7b$\x7b#X\x7d-$\x7bY:-$X\x7d-$?$"

theorem expandVariables_quaintText :
    expandVariables (quaintParameters "1") quaintText = "$\x7bZ\x7d\\\x7b5-$X-3$" ∧
      expandVariables (quaintParameters "1") quaintText =
        expandVariables (quaintParameters "2") quaintText := by
  obtain ⟨parts, unique, expands, agree⟩ := exists_parts_expandVariables_eq_meaning
    (quaintParameters "1").environment.domain quaintText
  have chars : quaintText.toList =
      ['$', 'X', '{', '$', '{', '#', 'X', '}', '-', '$', '{', 'Y', ':', '-', '$', 'X', '}', '-',
        '$', '?', '$'] := by decide
  rw [chars] at unique
  obtain rfl := (unique
    [.value "X", .literal "\x7b", .length "X", .literal "-", .literal "$X", .literal "-",
      .value "?", .literal "$"]).1 <|
    .name "X" (by decide) (by simp [isNameChar]) <|
      .text "\x7b" (by decide) (by decide) (by simp) <|
      .braced (by decide) (.length "X" (by decide)) <|
      .text "-" (by decide) (by decide) (by simp) <|
      .braced (by decide) (.absent "Y" "$X" (by decide) (by decide) (by decide)) <|
      .text "-" (by decide) (by decide) (by simp) <|
      .sign '?' (by decide) <|
      .dollar (by simp) .nil
  exact ⟨(expands _ rfl).trans (by decide +kernel), agree _ _ rfl rfl (by decide +kernel)⟩

end VirtualShell
