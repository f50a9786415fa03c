import VirtualShell.Proofs.Regex.Defects

/-!
Contract: reading a part of an expression does not depend on what stands behind it.

Owns:
- `IsClosed`, a rest of an expression that cannot be taken for a part of what is before it;
- `Extends`, a part that is read as it is with such a rest behind it, and its composition;
- the characters, the sets, the names and the letters for flags of an expression are such parts.

A backslash at the very end is a part of nothing that can be read, so whatever is read leaves it
over.
-/

namespace VirtualShell.Regex

variable {α β : Type} {signs behind tail : List Sign}

/-! ## What stands behind a part -/

/-- Nothing follows, or a sign that ends an alternative. -/
def IsClosed (tail : List Sign) : Prop :=
  ∀ sign rest, tail = sign :: rest → sign = .plain '|' ∨ sign = .plain ')'

theorem IsClosed.nil : IsClosed [] :=
  nofun

theorem isClosed_bar (rest : List Sign) : IsClosed (.plain '|' :: rest) := by
  rintro _ _ ⟨rfl, rfl⟩
  exact .inl rfl

theorem isClosed_parenthesis (rest : List Sign) : IsClosed (.plain ')' :: rest) := by
  rintro _ _ ⟨rfl, rfl⟩
  exact .inr rfl

/-- A sign that ends no alternative is no part of what follows. -/
theorem IsClosed.cons_of_append (closed : IsClosed tail) {c : Char} {further : List Sign}
    (inside : c ≠ '|' ∧ c ≠ ')') (same : signs ++ tail = .plain c :: further) :
    ∃ rest, signs = .plain c :: rest ∧ further = rest ++ tail := by
  cases signs with
  | nil =>
      rcases closed _ _ same with bar | parenthesis
      · exact absurd (Sign.plain.inj bar) inside.1
      · exact absurd (Sign.plain.inj parenthesis) inside.2
  | cons sign rest =>
      cases same
      exact ⟨rest, rfl, rfl⟩

/-- What does not start with a sign that ends no alternative does not so with more behind it. -/
theorem IsClosed.not_append (closed : IsClosed tail) {c : Char} {rest : List Sign}
    (inside : c ≠ '|' ∧ c ≠ ')') (other : ∀ rest, signs = .plain c :: rest → False) :
    signs ++ tail ≠ .plain c :: rest := by
  intro same
  obtain ⟨further, first, -⟩ := closed.cons_of_append inside same
  exact other further first

/-- A backslash stands at the very end. -/
def EndsBroken (signs : List Sign) : Prop :=
  signs.getLast? = some .broken

theorem not_endsBroken_nil : ¬ EndsBroken [] := by
  intro broken
  cases broken

theorem EndsBroken.cons (broken : EndsBroken signs) (sign : Sign) : EndsBroken (sign :: signs) := by
  cases signs with
  | nil => exact absurd broken not_endsBroken_nil
  | cons next others => rwa [EndsBroken, List.getLast?_cons_cons]

/-- A backslash at the very end of the signs is left over. -/
def Leaves (signs behind : List Sign) : Prop :=
  EndsBroken signs → EndsBroken behind

theorem Leaves.refl (signs : List Sign) : Leaves signs signs :=
  id

theorem Leaves.trans {further : List Sign} (first : Leaves signs behind)
    (second : Leaves behind further) : Leaves signs further :=
  second ∘ first

theorem leaves_cons {sign : Sign} (whole : sign ≠ .broken) (rest : List Sign) :
    Leaves (sign :: rest) rest := by
  intro broken
  cases rest with
  | nil => exact absurd (Option.some.inj broken) whole
  | cons next others => rwa [EndsBroken, List.getLast?_cons_cons] at broken

theorem leaves_plain (c : Char) (rest : List Sign) : Leaves (.plain c :: rest) rest :=
  leaves_cons (by simp) rest

theorem leaves_escaped (c : Char) (rest : List Sign) : Leaves (.escaped c :: rest) rest :=
  leaves_cons (by simp) rest

/-- What is dropped up to a sign that is there holds no backslash at the very end. -/
theorem leaves_dropWhile {test : Sign → Bool} (present : signs.dropWhile test ≠ []) :
    Leaves signs (signs.dropWhile test) := by
  intro broken
  obtain ⟨front, split⟩ := List.dropWhile_suffix test (l := signs)
  rw [EndsBroken, ← split, List.getLast?_append, List.getLast?_eq_some_getLast present,
    Option.some_or] at broken
  rwa [EndsBroken, List.getLast?_eq_some_getLast present]

/-! ## Parts -/

/-- What is read alone is also read with `tail` behind it, which is left over then. -/
def Extends (tail signs : List Sign) (alone joint : Except Defect (α × List Sign)) : Prop :=
  ∀ value behind, alone = .ok (value, behind) →
    joint = .ok (value, behind ++ tail) ∧ Leaves signs behind

namespace Extends

variable {alone joint : Except Defect (α × List Sign)}

theorem error {defect : Defect} : Extends tail signs (.error defect) joint :=
  nofun

theorem ok {value : α} (left : Leaves signs behind) :
    Extends tail signs (.ok (value, behind)) (.ok (value, behind ++ tail)) := by
  intro _ _ read
  cases read
  exact ⟨rfl, left⟩

theorem within {further : List Sign} (part : Extends tail further alone joint)
    (left : Leaves signs further) : Extends tail signs alone joint :=
  fun value behind read => ⟨(part value behind read).1, left.trans (part value behind read).2⟩

theorem bind {next further : α × List Sign → Except Defect (β × List Sign)}
    (first : Extends tail signs alone joint)
    (others : ∀ value behind, Leaves signs behind →
      Extends tail signs (next (value, behind)) (further (value, behind ++ tail))) :
    Extends tail signs (alone >>= next) (joint >>= further) := by
  rcases alone with defect | ⟨value, behind⟩
  · exact .error
  · obtain ⟨rfl, left⟩ := first value behind rfl
    exact others value behind left

theorem map (part : Extends tail signs alone joint) (convert : α → β) :
    Extends tail signs (alone.map fun (value, behind) => (convert value, behind))
      (joint.map fun (value, behind) => (convert value, behind)) := by
  rcases alone with defect | ⟨value, behind⟩
  · exact .error
  · obtain ⟨rfl, left⟩ := part value behind rfl
    exact .ok left

end Extends

/-! ## Characters -/

theorem leaves_takePlain (allowed : Char → Bool) (most : Option Nat) (signs : List Sign) :
    Leaves signs (takePlain allowed most signs).2 := by
  fun_induction takePlain allowed most signs with
  | case1 => exact .refl _
  | case2 most c rest _ _ chars behind read inductionHypothesis =>
      rw [read] at inductionHypothesis
      exact (leaves_plain c rest).trans inductionHypothesis
  | case3 => exact .refl _
  | case4 => exact .refl _

/-- Where taking characters stops before the end, or could not go on, it stops with more signs
behind as well. -/
theorem takePlain_append {allowed : Char → Bool} {most : Option Nat}
    (stops : (takePlain allowed most signs).2 = [] →
      ∀ c rest, tail = .plain c :: rest → allowed c = false) :
    takePlain allowed most (signs ++ tail) =
      ((takePlain allowed most signs).1, (takePlain allowed most signs).2 ++ tail) := by
  fun_induction takePlain allowed most signs with
  | case1 signs => exact takePlain.eq_1 allowed _
  | case2 most c rest more possible chars behind read inductionHypothesis =>
      rw [read] at inductionHypothesis
      rw [List.cons_append, takePlain.eq_2 _ _ _ _ more, if_pos possible,
        inductionHypothesis stops]
  | case3 most c rest more impossible =>
      rw [List.cons_append, takePlain.eq_2 _ _ _ _ more, if_neg impossible]
  | case4 most signs more none =>
      cases signs with
      | nil =>
          cases tail with
          | nil => rw [List.append_nil, takePlain.eq_3 _ _ _ more none]
          | cons sign further =>
              cases sign with
              | plain c =>
                  rw [List.nil_append, takePlain.eq_2 _ _ _ _ more,
                    if_neg (by simp [stops rfl c further rfl])]
              | escaped c => exact takePlain.eq_3 _ _ _ more fun _ _ same => nomatch same
              | broken => exact takePlain.eq_3 _ _ _ more fun _ _ same => nomatch same
      | cons sign rest =>
          refine takePlain.eq_3 _ _ _ more fun c others same => none c rest ?_
          rw [(List.cons.inj same).1]

/-- Characters that do not end an alternative are taken as far as without what is behind. -/
theorem IsClosed.takePlain (closed : IsClosed tail) {allowed : Char → Bool}
    (bar : allowed '|' = false) (parenthesis : allowed ')' = false) (most : Option Nat)
    (signs : List Sign) :
    takePlain allowed most (signs ++ tail) =
      ((takePlain allowed most signs).1, (takePlain allowed most signs).2 ++ tail) := by
  refine takePlain_append fun _ c rest first => ?_
  rcases closed _ rest first with same | same
  · rw [Sign.plain.inj same, bar]
  · rw [Sign.plain.inj same, parenthesis]

/-! ## Names -/

theorem extends_readName (closing : Char) (signs : List Sign) :
    Extends tail signs (readName closing signs)
      (readName closing (signs ++ tail)) := by
  have left := leaves_takePlain (· != closing) none signs
  intro value behind read
  unfold readName at read ⊢
  dsimp only at read ⊢
  split at read
  · rename_i c rest ending
    rw [takePlain_append fun spent => by rw [spent] at ending; cases ending]
    rw [ending] at left ⊢
    split at read
    · cases read
    · rename_i present
      cases read
      dsimp only [List.cons_append]
      rw [if_neg present]
      exact ⟨rfl, left.trans (leaves_plain _ _)⟩
  · cases read

theorem extends_readNamedCode (signs : List Sign) :
    Extends tail signs (readNamedCode signs) (readNamedCode (signs ++ tail)) := by
  unfold readNamedCode
  split
  · rename_i rest
    rw [List.cons_append]
    refine ((extends_readName '}' rest).within (leaves_plain _ _)).bind fun name behind left => ?_
    dsimp only
    split
    · exact .ok left
    · exact .error
  · exact .error

/-! ## Code points -/

section

variable (closed : IsClosed tail)

include closed

theorem extends_readHex (count : Nat) (signs : List Sign) :
    Extends tail signs (readHex count signs) (readHex count (signs ++ tail)) := by
  unfold readHex
  rw [closed.takePlain (by decide) (by decide)]
  dsimp only
  split
  · exact .ok (leaves_takePlain _ _ _)
  · exact .error

theorem extends_readCodeEscape (c : Char) (signs : List Sign) :
    Extends tail signs (readCodeEscape c signs) (readCodeEscape c (signs ++ tail)) := by
  unfold readCodeEscape
  split
  · exact extends_readHex closed _ _
  · exact extends_readHex closed _ _
  · exact extends_readHex closed _ _
  · exact extends_readNamedCode _
  · split
    · exact .error
    · exact .ok (.refl _)

theorem extends_readOctal (first : Char) (signs : List Sign) :
    Extends tail signs (readOctal first signs) (readOctal first (signs ++ tail)) := by
  unfold readOctal
  rw [closed.takePlain (by decide) (by decide)]
  dsimp only
  split
  · exact .ok (leaves_takePlain _ _ _)
  · exact .error

/-! ## Sets -/

theorem extends_readSetEscape (flags : Flags) (c : Char) (signs : List Sign) :
    Extends tail signs (readSetEscape flags c signs) (readSetEscape flags c (signs ++ tail)) := by
  unfold readSetEscape
  split
  · exact .ok (.refl _)
  · exact .ok (.refl _)
  · have coded : Extends tail signs
        (if isOctal c then readOctal c signs else readCodeEscape c signs)
        (if isOctal c then readOctal c (signs ++ tail) else readCodeEscape c (signs ++ tail)) := by
      split
      · exact extends_readOctal closed _ _
      · exact extends_readCodeEscape closed _ _
    exact coded.map SetItem.code

theorem extends_readMember (flags : Flags) (signs : List Sign) :
    Extends tail signs (readMember flags signs) (readMember flags (signs ++ tail)) := by
  match signs with
  | [] => exact .error
  | .plain c :: rest => exact .ok (leaves_plain c rest)
  | .escaped c :: rest =>
      exact (extends_readSetEscape closed flags c rest).within (leaves_escaped c rest)
  | .broken :: rest => exact .error

/-- A set is as long as it is, however many of the signs behind it there are. -/
theorem extends_readMembers (flags : Flags) {fuel more : Nat} (enough : fuel ≤ more)
    (items : List SetItem) (signs : List Sign) :
    Extends tail signs (readMembers flags fuel items signs)
      (readMembers flags more items (signs ++ tail)) := by
  induction fuel generalizing more items signs with
  | zero => exact .error
  | succ fuel inductionHypothesis =>
      obtain ⟨more, rfl⟩ : ∃ less, more = less + 1 := ⟨more - 1, by omega⟩
      have onward := inductionHypothesis (Nat.le_of_succ_le_succ enough)
      -- With more behind, what follows a member looks the same: neither a minus nor a bracket can
      -- be the first of what closes.
      unfold readMembers
      split
      · exact .ok (leaves_plain _ _)
      · rename_i other
        split
        · rename_i same
          obtain ⟨rest, first, -⟩ := closed.cons_of_append (by decide) same
          exact absurd rfl (other rest _ _ first)
        · refine (extends_readMember closed flags signs).bind fun first behind left => ?_
          dsimp only
          split
          · exact .ok (left.trans ((leaves_plain _ _).trans (leaves_plain _ _)))
          · rename_i rest other
            split
            · rename_i same
              obtain ⟨-, same⟩ := List.cons.inj same
              obtain ⟨_, first, -⟩ := closed.cons_of_append (by decide) same
              exact absurd first (other _)
            · rename_i same
              obtain ⟨-, rfl⟩ := List.cons.inj same
              refine ((extends_readMember closed flags rest).within
                (left.trans (leaves_plain _ _))).bind fun last further left => ?_
              dsimp only
              split
              · split
                · exact .error
                · exact (onward _ _).within left
              · exact .error
            · rename_i other
              exact absurd rfl (other _)
          · rename_i other alone
            split
            · exact absurd ‹_› (closed.not_append (by decide) alone)
            · exact absurd ‹_› (closed.not_append (by decide) alone)
            · exact (onward _ _).within left

theorem extends_readSet (flags : Flags) (signs : List Sign) :
    Extends tail signs (readSet flags signs) (readSet flags (signs ++ tail)) := by
  have members (negated : Bool) {fuel more : Nat} (enough : fuel ≤ more) (signs : List Sign) :
      Extends tail signs
        (do
          let set ← readMembers flags fuel [] signs
          return (Pattern.one ⟨negated, set.1.eraseDups, flags.caseRule⟩, set.2))
        (do
          let set ← readMembers flags more [] (signs ++ tail)
          return (Pattern.one ⟨negated, set.1.eraseDups, flags.caseRule⟩, set.2)) :=
    (extends_readMembers closed flags enough [] signs).bind fun _ _ left => .ok left
  have longer (signs : List Sign) : signs.length + 1 ≤ (signs ++ tail).length + 1 := by
    rw [List.length_append]
    omega
  unfold readSet
  dsimp only
  split
  · exact (members true (longer _) _).within (leaves_plain _ _)
  · rename_i other
    split
    · exact absurd ‹_› (closed.not_append (by decide) other)
    · exact members false (longer signs) signs

/-! ## Letters -/

theorem extends_readLetters (adding : Bool) (seen : Flags) (signs : List Sign) :
    Extends tail signs (Progress.readLetters adding seen signs)
      (Progress.readLetters adding seen (signs ++ tail)) := by
  fun_induction Progress.readLetters adding seen signs with
  | case1 seen c rest unknown =>
      rw [List.cons_append, Progress.readLetters, unknown]
      exact .ok (.refl _)
  | case2 => exact .error
  | case3 seen c rest flags known apart inductionHypothesis =>
      rw [List.cons_append, Progress.readLetters, known]
      dsimp only
      rw [if_neg apart]
      exact inductionHypothesis.within (leaves_plain c rest)
  | case4 signs seen other =>
      have stays :
          Progress.readLetters adding seen (signs ++ tail) = .ok (seen, signs ++ tail) := by
        unfold Progress.readLetters
        split
        · rename_i c rest same
          cases signs with
          | nil =>
              rcases closed _ _ same with bar | parenthesis
              · rw [same, Sign.plain.inj bar]
                rfl
              · rw [same, Sign.plain.inj parenthesis]
                rfl
          | cons sign rest =>
              cases same
              exact absurd rfl (other c rest)
        · rfl
      rw [stays]
      exact .ok (.refl _)

end

/-! ## Comments -/

/-- What is skipped up to a sign that is there is skipped as far with more signs behind it. -/
theorem exists_dropWhile (tail : List Sign) {c : Char}
    (present : signs.dropWhile (· != .plain c) ≠ []) :
    ∃ rest, signs.dropWhile (· != .plain c) = .plain c :: rest ∧
      (signs ++ tail).dropWhile (· != .plain c) = .plain c :: (rest ++ tail) ∧
      Leaves signs rest := by
  obtain ⟨sign, rest, ending⟩ := List.exists_cons_of_ne_nil present
  have last : sign = .plain c := by
    have stopped := List.head?_dropWhile_not (· != Sign.plain c) signs
    rw [ending] at stopped
    simpa using stopped
  have left := leaves_dropWhile present
  rw [ending, last] at left
  refine ⟨rest, by rw [ending, last], ?_, left.trans (leaves_plain c rest)⟩
  rw [List.dropWhile_append, if_neg (by simpa using present), ending, last]
  rfl

theorem skipComment_append (tail : List Sign) (read : Progress.skipComment signs = .ok behind) :
    Progress.skipComment (signs ++ tail) = .ok (behind ++ tail) ∧ Leaves signs behind := by
  unfold Progress.skipComment at read ⊢
  by_cases present : signs.dropWhile (· != .plain ')') = []
  · rw [present] at read
    cases read
  · obtain ⟨rest, ending, joint, left⟩ := exists_dropWhile tail present
    rw [ending] at read
    cases read
    rw [joint]
    exact ⟨rfl, left⟩

end VirtualShell.Regex
