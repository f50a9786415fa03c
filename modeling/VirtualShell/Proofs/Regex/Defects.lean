import VirtualShell.Proofs.Regex.Reading

/-!
Contract: the defects of an expression beyond its form, and where they come from.

Owns:
- `IsTemperate`, that an expression counts no repetitions and sets no flags;
- `malformed_of_read`: such an expression can be malformed, but has no other defect;
- `isGuarded_escapeChars`: what is escaped neither counts nor sets anything, wherever it stands.

Every step of reading leaves the last of the signs over, so that what holds at all places of an
expression holds of what is left as well.
-/

namespace VirtualShell.Regex

variable {α β : Type} {holds : α → Prop} {signs : List Sign}

/-! ## Temperate expressions -/

/-- No flag is set by a letter that comes first. -/
def IsFlagless (signs : List Sign) : Prop :=
  ∀ letter behind, signs = .plain letter :: behind → Flags.none.withLetter letter true = none

/-- No repetitions are counted and no flags are set from here on: no brace is opened, and behind no
parenthesis with a question mark there is a letter that stands for a flag. -/
def IsTemperate (signs : List Sign) : Prop :=
  ∀ c rest, .plain c :: rest <:+ signs →
    c ≠ '{' ∧ (c = '(' → ∀ behind, rest = .plain '?' :: behind → IsFlagless behind)

/-! ## Steps of reading -/

/-- Reading fails for nothing but the form of the expression, or its result is as said and the last
of the signs are left over. -/
def Advances (holds : α → Prop) (signs : List Sign) : Except Defect (α × List Sign) → Prop
  | .error defect => defect = .malformed
  | .ok (value, rest) => holds value ∧ rest <:+ signs

namespace Advances

theorem malformed : Advances holds signs (.error .malformed) :=
  rfl

theorem ok {value : α} {rest : List Sign} (held : holds value) (left : rest <:+ signs) :
    Advances holds signs (.ok (value, rest)) :=
  ⟨held, left⟩

theorem bind {becomes : β → Prop} {read : Except Defect (α × List Sign)}
    {next : α × List Sign → Except Defect (β × List Sign)} (first : Advances holds signs read)
    (others : ∀ value rest, holds value → rest <:+ signs →
      Advances becomes signs (next (value, rest))) :
    Advances becomes signs (read >>= next) := by
  rcases read with defect | ⟨value, rest⟩
  · exact first
  · exact others value rest first.1 first.2

theorem map {becomes : β → Prop} {read : Except Defect (α × List Sign)}
    (first : Advances holds signs read) (convert : α → β)
    (each : ∀ value, holds value → becomes (convert value)) :
    Advances becomes signs (read.map fun (value, rest) => (convert value, rest)) := by
  rcases read with defect | ⟨value, rest⟩
  · exact first
  · exact ⟨each value first.1, first.2⟩

theorem within {read : Except Defect (α × List Sign)} {further : List Sign}
    (first : Advances holds further read) (left : further <:+ signs) :
    Advances holds signs read := by
  rcases read with defect | ⟨value, rest⟩
  · exact first
  · exact ⟨first.1, first.2.trans left⟩

end Advances

/-- Checking fails for nothing but the form of the expression, or its result is as said. -/
def Checks (holds : α → Prop) : Except Defect α → Prop
  | .error defect => defect = .malformed
  | .ok value => holds value

theorem Checks.bind {becomes : β → Prop} {check : Except Defect α}
    {next : α → Except Defect (β × List Sign)} (first : Checks holds check)
    (others : ∀ value, holds value → Advances becomes signs (next value)) :
    Advances becomes signs (check >>= next) := by
  rcases check with defect | value
  · exact first
  · exact others value first

theorem Checks.andThen {becomes : β → Prop} {check : Except Defect α}
    {next : α → Except Defect β} (first : Checks holds check)
    (others : ∀ value, holds value → Checks becomes (next value)) :
    Checks becomes (check >>= next) := by
  rcases check with defect | value
  · exact first
  · exact others value first

theorem Checks.advances {check : Except Defect α} {rest : List Sign} (first : Checks holds check)
    (left : rest <:+ signs) :
    Advances holds signs (check.map fun value => (value, rest)) := by
  rcases check with defect | value
  · exact first
  · exact ⟨first, left⟩

/-! ## Characters and sets -/

theorem takePlain_suffix (allowed : Char → Bool) (most : Option Nat) (signs : List Sign) :
    (takePlain allowed most signs).2 <:+ signs := by
  fun_induction takePlain allowed most signs with
  | case1 => exact List.suffix_refl _
  | case2 most c rest _ _ chars behind read inductionHypothesis =>
      rw [read] at inductionHypothesis
      exact inductionHypothesis.trans (List.suffix_cons _ _)
  | case3 => exact List.suffix_refl _
  | case4 => exact List.suffix_refl _

theorem advances_readHex (count : Nat) (signs : List Sign) :
    Advances (fun _ => True) signs (readHex count signs) := by
  unfold readHex
  dsimp only
  split
  · exact .ok trivial (takePlain_suffix _ _ _)
  · exact .malformed

theorem advances_readName (closing : Char) (signs : List Sign) :
    Advances (fun _ => True) signs (readName closing signs) := by
  unfold readName
  have left := takePlain_suffix (· != closing) none signs
  generalize takePlain (· != closing) none signs = taken at left
  obtain ⟨name, rest⟩ := taken
  dsimp only at left ⊢
  split
  · split
    · exact .malformed
    · exact .ok trivial ((List.suffix_cons _ _).trans left)
  · exact .malformed

theorem advances_readNamedCode (signs : List Sign) :
    Advances (fun _ => True) signs (readNamedCode signs) := by
  unfold readNamedCode
  split
  · refine ((advances_readName _ _).within (List.suffix_cons _ _)).bind fun name behind _ left => ?_
    dsimp only
    split
    · exact .ok trivial left
    · exact .malformed
  · exact .malformed

theorem advances_readCodeEscape (c : Char) (signs : List Sign) :
    Advances (fun _ => True) signs (readCodeEscape c signs) := by
  unfold readCodeEscape
  split
  · exact advances_readHex _ _
  · exact advances_readHex _ _
  · exact advances_readHex _ _
  · exact advances_readNamedCode _
  · split
    · exact .malformed
    · exact .ok trivial (List.suffix_refl _)

theorem advances_readOctal (first : Char) (signs : List Sign) :
    Advances (fun _ => True) signs (readOctal first signs) := by
  unfold readOctal
  dsimp only
  split
  · exact .ok trivial (takePlain_suffix _ _ _)
  · exact .malformed

theorem advances_readSetEscape (flags : Flags) (c : Char) (signs : List Sign) :
    Advances (fun _ => True) signs (readSetEscape flags c signs) := by
  unfold readSetEscape
  split
  · exact .ok trivial (List.suffix_refl _)
  · exact .ok trivial (List.suffix_refl _)
  · have coded : Advances (fun _ => True) signs
        (if isOctal c then readOctal c signs else readCodeEscape c signs) := by
      split
      · exact advances_readOctal _ _
      · exact advances_readCodeEscape _ _
    exact coded.map _ fun _ _ => trivial

theorem advances_readMember (flags : Flags) (signs : List Sign) :
    Advances (fun _ => True) signs (readMember flags signs) := by
  unfold readMember
  split
  · exact .ok trivial (List.suffix_cons _ _)
  · exact (advances_readSetEscape _ _ _).within (List.suffix_cons _ _)
  · exact .malformed

theorem advances_readMembers (flags : Flags) (fuel : Nat) (items : List SetItem)
    (signs : List Sign) : Advances (fun _ => True) signs (readMembers flags fuel items signs) := by
  induction fuel generalizing items signs with
  | zero => exact .malformed
  | succ fuel inductionHypothesis =>
      unfold readMembers
      split
      · exact .ok trivial (List.suffix_cons _ _)
      · refine (advances_readMember flags _).bind fun first behind _ left => ?_
        dsimp only
        split
        · exact .ok trivial (((List.suffix_cons _ _).trans (List.suffix_cons _ _)).trans left)
        · have further := (List.suffix_cons _ _).trans left
          refine ((advances_readMember flags _).within further).bind fun last ending _ left => ?_
          dsimp only
          split
          · split
            · exact .malformed
            · exact (inductionHypothesis _ _).within left
          · exact .malformed
        · exact (inductionHypothesis _ _).within left

theorem advances_readSet (flags : Flags) (signs : List Sign) :
    Advances (fun _ => True) signs (readSet flags signs) := by
  unfold readSet
  dsimp only
  split
  · exact ((advances_readMembers _ _ _ _).within (List.suffix_cons _ _)).bind
      fun _ _ _ left => .ok trivial left
  · exact (advances_readMembers _ _ _ _).bind fun _ _ _ left => .ok trivial left

/-! ## What has been read -/

namespace Progress

variable {progress : Progress}

/-- The flags of the whole expression are those of the progress before. -/
def Keeps (progress next : Progress) : Prop :=
  next.flags = progress.flags

theorem checks_checkReference (group : Nat) :
    Checks (fun _ => True) (progress.checkReference group) := by
  unfold checkReference
  split
  · rfl
  · split
    · split
      · rfl
      · trivial
    · trivial

theorem checks_addReference (group : Nat) :
    Checks progress.Keeps (progress.addReference group) :=
  (checks_checkReference group).andThen fun _ _ => rfl

theorem checks_alternate : Checks progress.Keeps progress.alternate := by
  unfold alternate
  dsimp only
  split <;> rfl

theorem checks_close : Checks progress.Keeps progress.close := by
  unfold close
  split
  · rfl
  · dsimp only
    split <;> rfl

theorem advances_repeatLast (least : Nat) (most : Option Nat) (signs : List Sign) :
    Advances progress.Keeps signs (progress.repeatLast least most signs) := by
  unfold repeatLast
  split
  · exact .malformed
  · split
    · exact .malformed
    · dsimp only
      refine .ok rfl ?_
      split
      · exact List.suffix_cons _ _
      · exact List.suffix_cons _ _
      · exact List.suffix_refl _

theorem advances_readNamed (signs : List Sign) :
    Advances progress.Keeps signs (progress.readNamed signs) := by
  unfold readNamed
  split
  · refine ((advances_readName _ _).within (List.suffix_cons _ _)).bind fun name behind _ left => ?_
    dsimp only
    split
    · exact .malformed
    · exact .ok rfl left
  · refine ((advances_readName _ _).within (List.suffix_cons _ _)).bind fun name behind _ left => ?_
    dsimp only
    split
    · exact .malformed
    · exact (checks_addReference _).bind fun next kept => .ok kept left
  · exact .malformed

theorem advances_readCondition (signs : List Sign) :
    Advances progress.Keeps signs (progress.readCondition signs) := by
  unfold readCondition
  refine (advances_readName _ _).bind fun name rest _ left => ?_
  dsimp only
  split
  · split
    · exact .malformed
    · show Advances progress.Keeps signs (if progress.behindFrom.isSome then _ else _)
      split
      · exact (checks_checkReference _).bind fun _ _ => .ok rfl left
      · exact .ok rfl left
  · split
    · split
      · show Advances progress.Keeps signs (if progress.behindFrom.isSome then _ else _)
        split
        · exact (checks_checkReference _).bind fun _ _ => .ok rfl left
        · exact .ok rfl left
      · exact .malformed
    · exact .malformed

theorem advances_readLetters (adding : Bool) (seen : Flags) (signs : List Sign) :
    Advances (fun _ => True) signs (readLetters adding seen signs) := by
  fun_induction readLetters adding seen signs with
  | case1 => exact .ok trivial (List.suffix_refl _)
  | case2 => exact .malformed
  | case3 _ _ _ _ _ _ inductionHypothesis => exact inductionHypothesis.within (List.suffix_cons _ _)
  | case4 => exact .ok trivial (List.suffix_refl _)

theorem readLetters_of_isFlagless (flagless : IsFlagless signs) (adding : Bool) :
    readLetters adding .none signs = pure (.none, signs) := by
  unfold readLetters
  split
  · rename_i c rest
    rw [flagless c rest rfl]
    rfl
  · rfl

theorem advances_readFlags (flagless : IsFlagless signs) :
    Advances progress.Keeps signs (progress.readFlags signs) := by
  unfold readFlags
  rw [readLetters_of_isFlagless flagless, pure_bind]
  dsimp only
  split
  · exact .malformed
  · rename_i opened
    split
    · exact absurd rfl opened
    · exact .ok rfl (List.suffix_cons _ _)
    · refine ((advances_readLetters _ _ _).within (List.suffix_cons _ _)).bind
        fun removed further _ left => ?_
      dsimp only
      split
      · split
        · exact .malformed
        · exact .ok rfl ((List.suffix_cons _ _).trans left)
      · exact .malformed
    · exact .malformed

theorem advances_skipComment (signs : List Sign) :
    Advances progress.Keeps signs ((skipComment signs).map fun behind => (progress, behind)) := by
  have left := List.dropWhile_suffix (l := signs) (· != .plain ')')
  unfold skipComment
  generalize signs.dropWhile (· != .plain ')') = ending at left
  cases ending with
  | nil => exact .malformed
  | cons sign rest => exact .ok rfl ((List.suffix_cons _ _).trans left)

theorem advances_readExtension (flagless : IsFlagless signs) :
    Advances progress.Keeps signs (progress.readExtension signs) := by
  unfold readExtension
  dsimp only
  split
  · exact (advances_readNamed _).within (List.suffix_cons _ _)
  · exact .ok rfl (List.suffix_cons _ _)
  · exact (advances_skipComment _).within (List.suffix_cons _ _)
  · exact .ok rfl (List.suffix_cons _ _)
  · exact .ok rfl (List.suffix_cons _ _)
  · exact .ok rfl ((List.suffix_cons _ _).trans (List.suffix_cons _ _))
  · exact .ok rfl ((List.suffix_cons _ _).trans (List.suffix_cons _ _))
  · exact (advances_readCondition _).within (List.suffix_cons _ _)
  · exact .ok rfl (List.suffix_cons _ _)
  · exact advances_readFlags flagless

theorem advances_readNumberEscape (c : Char) (signs : List Sign) :
    Advances progress.Keeps signs (progress.readNumberEscape c signs) := by
  have reference (digits : List Char) {behind : List Sign} (left : behind <:+ signs) :
      Advances progress.Keeps signs
        (do return (← progress.addReference (Text.numberIn 10 digits), behind)) :=
    (checks_addReference _).bind fun next kept => .ok kept left
  unfold readNumberEscape
  dsimp only
  split
  · split
    · split
      · split
        · split
          · exact .ok rfl ((List.suffix_cons _ _).trans (List.suffix_cons _ _))
          · exact .malformed
        · exact reference _ (List.suffix_cons _ _)
      · exact reference _ (List.suffix_cons _ _)
    · exact reference _ (List.suffix_refl _)
  · exact reference _ (List.suffix_refl _)

theorem advances_readEscape (c : Char) (signs : List Sign) :
    Advances progress.Keeps signs (progress.readEscape c signs) := by
  unfold readEscape
  dsimp only
  split
  · exact .ok rfl (List.suffix_refl _)
  · exact .ok rfl (List.suffix_refl _)
  · exact .ok rfl (List.suffix_refl _)
  · split
    · exact .ok rfl (takePlain_suffix _ _ _)
    · split
      · exact advances_readNumberEscape _ _
      · exact (advances_readCodeEscape _ _).map
          (fun code => progress.add (single progress.level.flags code)) fun _ _ => rfl

theorem advances_readPlain {c : Char} (temperate : IsTemperate (.plain c :: signs)) :
    Advances progress.Keeps signs (progress.readPlain c signs) := by
  obtain ⟨unbraced, flagless⟩ := temperate c signs (List.suffix_refl _)
  unfold readPlain
  dsimp only
  -- Of all signs only the brace is read with a defect of its own, and only a parenthesis with a
  -- question mark behind it can change the flags.
  split
  · exact (advances_readSet _ _).map (fun set => progress.add set) fun _ _ => rfl
  · exact advances_repeatLast _ _ _
  · exact advances_repeatLast _ _ _
  · exact advances_repeatLast _ _ _
  · exact absurd rfl unbraced
  · exact .ok rfl (List.suffix_refl _)
  · split
    · rename_i behind
      exact (advances_readExtension (flagless rfl behind rfl)).within (List.suffix_cons _ _)
    · exact .ok rfl (List.suffix_refl _)
  · exact checks_close.advances (List.suffix_refl _)
  · exact checks_alternate.advances (List.suffix_refl _)
  · exact .ok rfl (List.suffix_refl _)
  · exact .ok rfl (List.suffix_refl _)
  · exact .ok rfl (List.suffix_refl _)

theorem advances_step {sign : Sign} (temperate : IsTemperate (sign :: signs)) :
    Advances progress.Keeps signs (progress.step sign signs) := by
  unfold step
  split
  · exact .malformed
  · exact advances_readEscape _ _
  · split
    · exact .ok rfl (List.suffix_refl _)
    · split
      · dsimp only
        split
        · exact .malformed
        · exact .ok rfl ((List.tail_suffix _).trans (List.dropWhile_suffix _))
      · exact advances_readPlain temperate

theorem malformed_of_finish {isComplete : Bool} {defect : Defect}
    (single : (progress.flags.ascii && progress.flags.unicode) = false)
    (failed : progress.finish isComplete = .error defect) : defect = .malformed := by
  unfold finish at failed
  rw [single] at failed
  split at failed
  · exact (Except.error.inj failed).symm
  · rw [if_neg Bool.false_ne_true] at failed
    split at failed
    · exact (Except.error.inj failed).symm
    · cases failed

theorem malformed_of_readAll {fuel : Nat} {defect : Defect} (temperate : IsTemperate signs)
    (single : (progress.flags.ascii && progress.flags.unicode) = false)
    (failed : progress.readAll fuel signs = .error defect) : defect = .malformed := by
  -- Every step keeps the flags, so that at the end they still choose no two alphabets.
  induction fuel generalizing progress signs with
  | zero =>
      cases signs with
      | nil => exact malformed_of_finish single failed
      | cons sign rest => exact (Except.error.inj failed).symm
  | succ fuel inductionHypothesis =>
      cases signs with
      | nil => exact malformed_of_finish single failed
      | cons sign rest =>
          unfold readAll at failed
          split at failed
          · exact malformed_of_finish single failed
          · have advanced : Advances progress.Keeps rest (progress.step sign rest) :=
              advances_step temperate
            rcases stepped : progress.step sign rest with other | ⟨next, behind⟩
            · rw [stepped] at failed advanced
              exact (Except.error.inj failed).symm.trans advanced
            · rw [stepped] at failed advanced
              obtain ⟨kept, left⟩ := advanced
              refine inductionHypothesis ?_ ?_ failed
              · exact fun c further inside =>
                  temperate c further ((inside.trans left).trans (List.suffix_cons _ _))
              · rw [kept]
                exact single

end Progress

/-- An expression that counts no repetitions and sets no flags has no defect but in its form. -/
theorem malformed_of_read {ignoreCase : Bool} {text : String} {defect : Defect}
    (temperate : IsTemperate (signsOf text.toList))
    (failed : Pattern.read ignoreCase text = .error defect) : defect = .malformed := by
  have parsed := parse_eq_error_of_read failed
  unfold Pattern.parse at parsed
  exact Progress.malformed_of_readAll temperate rfl parsed

/-! ## Temperate texts -/

theorem IsTemperate.cons {sign : Sign} (temperate : IsTemperate signs)
    (mild : ∀ c, sign = .plain c → c ≠ '{' ∧
      (c = '(' → ∀ behind, signs = .plain '?' :: behind → IsFlagless behind)) :
    IsTemperate (sign :: signs) := by
  intro c rest inside
  rcases List.suffix_cons_iff.1 inside with same | further
  · cases same
    exact mild c rfl
  · exact temperate c rest further

/-- The characters count no repetitions and set no flags, whatever stands behind them. -/
def IsGuarded (chars : List Char) : Prop :=
  ∀ rest, IsTemperate (signsOf rest) → IsTemperate (signsOf (chars ++ rest))

theorem IsGuarded.nil : IsGuarded [] :=
  fun _ temperate => temperate

theorem IsGuarded.append {left right : List Char} (first : IsGuarded left)
    (second : IsGuarded right) : IsGuarded (left ++ right) := by
  intro rest temperate
  rw [List.append_assoc]
  exact first _ (second rest temperate)

theorem isGuarded_plain {c : Char} (unescaped : c ≠ '\\') (unbraced : c ≠ '{')
    (closed : c ≠ '(') : IsGuarded [c] := by
  intro rest temperate
  rw [List.singleton_append, signsOf_cons unescaped]
  refine temperate.cons fun other same => ?_
  cases same
  exact ⟨unbraced, fun opened => absurd opened closed⟩

theorem isGuarded_escaped (c : Char) : IsGuarded ['\\', c] := by
  intro rest temperate
  exact IsTemperate.cons temperate nofun

/-- A parenthesis that only groups. -/
theorem isGuarded_grouping : IsGuarded ['(', '?', ':'] := by
  intro rest temperate
  have behind := (isGuarded_plain (c := '?') (by decide) (by decide) (by decide)).append
    (isGuarded_plain (c := ':') (by decide) (by decide) (by decide)) rest temperate
  refine IsTemperate.cons behind fun c same => ?_
  cases same
  refine ⟨by decide, fun _ further opened letter ending first => ?_⟩
  cases opened
  cases first
  rfl

theorem isGuarded_escapeChars (chars : List Char) : IsGuarded (escapeChars chars) := by
  induction chars with
  | nil => exact .nil
  | cons c rest inductionHypothesis =>
      have single : IsGuarded (if isSpecial c then ['\\', c] else [c]) := by
        split
        · exact isGuarded_escaped c
        · rename_i ordinary
          refine isGuarded_plain ?_ ?_ ?_ <;>
          · rintro rfl
            exact ordinary (by decide)
      exact single.append inductionHypothesis

/-- Alternatives of guarded texts are guarded. -/
theorem isGuarded_intercalate {texts : List String}
    (guarded : ∀ text ∈ texts, IsGuarded text.toList) :
    IsGuarded (String.intercalate "|" texts).toList := by
  induction texts with
  | nil => exact .nil
  | cons first others inductionHypothesis =>
      obtain ⟨firstGuarded, othersGuarded⟩ := List.forall_mem_cons.1 guarded
      cases others with
      | nil => rwa [String.intercalate_singleton]
      | cons second others =>
          have bar : IsGuarded ['|'] := isGuarded_plain (by decide) (by decide) (by decide)
          rw [String.intercalate_cons_cons, String.toList_append, String.toList_append]
          exact (firstGuarded.append bar).append (inductionHypothesis othersGuarded)

theorem IsGuarded.isTemperate {chars : List Char} (guarded : IsGuarded chars) :
    IsTemperate (signsOf chars) := by
  have empty : IsTemperate (signsOf []) := fun c rest inside => by
    cases List.suffix_nil.1 inside
  have held := guarded [] empty
  rwa [List.append_nil] at held

end VirtualShell.Regex
