import VirtualShell.Proofs.Regex.Reading

/-!
Contract: reading a set of characters that is written between brackets.

Owns:
- `membersOf`, what the characters between brackets stand for, and `setOf`, the set of these
  characters or of all others;
- `Fails`, a text that makes an expression malformed wherever it stands, and `ReadsIf`, a text
  that either is read or fails;
- `readsIf_setText`: a set is read as what it is written for if no range in it ends before it
  starts;
- `reads_setChars`: outside of brackets the same text stands for itself if no operator is in it.

Does not own: categories and numbers of characters, which no text that is so written has.
-/

namespace VirtualShell.Regex

/-! ## Members -/

/-- The members that the characters between brackets stand for: a range where a minus sign stands
between two characters, and otherwise each character for itself. -/
def membersOf : List Char → List SetItem
  | low :: '-' :: high :: rest => .range low.toNat high.toNat :: membersOf rest
  | c :: rest => .code c.toNat :: membersOf rest
  | [] => []

/-- Whether a range does not end before it starts. -/
def SetItem.isOrdered : SetItem → Bool
  | .range first last => first ≤ last
  | _ => true

/-- The characters between brackets, so written that none of them starts an escape or a set. -/
def setChars (chars : List Char) : List Char :=
  chars.flatMap fun c => if c == '\\' || c == '[' then ['\\', c] else [c]

/-- The sign of a character that is written between brackets. -/
def setSign (c : Char) : Sign :=
  if c == '\\' || c == '[' then .escaped c else .plain c

theorem signsOf_setChars (chars rest : List Char) :
    signsOf (setChars chars ++ rest) = chars.map setSign ++ signsOf rest := by
  induction chars with
  | nil => rfl
  | cons c chars inductionHypothesis =>
      have step : setChars (c :: chars) ++ rest =
          (if c == '\\' || c == '[' then ['\\', c] else [c]) ++ (setChars chars ++ rest) := by
        simp [setChars]
      rw [step, List.map_cons, setSign]
      split
      · rw [List.cons_append, List.cons_append, List.nil_append, signsOf, inductionHypothesis]
        rfl
      · rename_i ordinary
        have unescaped : c ≠ '\\' := by
          rintro rfl
          exact ordinary rfl
        rw [List.singleton_append, signsOf_cons unescaped, inductionHypothesis]
        rfl

theorem readMember_setSign (flags : Flags) (c : Char) (signs : List Sign) :
    readMember flags (setSign c :: signs) = .ok (.code c.toNat, signs) := by
  unfold setSign
  split
  · rename_i escaped
    rw [Bool.or_eq_true, beq_iff_eq, beq_iff_eq] at escaped
    rcases escaped with rfl | rfl <;> rfl
  · rfl

theorem setSign_eq_plain {c d : Char} (same : setSign c = .plain d) : c = d := by
  unfold setSign at same
  split at same
  · cases same
  · exact Sign.plain.inj same

section

variable {flags : Flags} {fuel : Nat} {items : List SetItem} {c high : Char} {signs : List Sign}

/-- A set does not end at its first member, and not at a member that is no closing bracket. -/
theorem not_closing (inside : items = [] ∨ c ≠ ']') (rest : List Sign) (item : SetItem)
    (others : List SetItem) (closing : setSign c :: signs = .plain ']' :: rest)
    (later : items = item :: others) : False := by
  rcases inside with first | other
  · exact List.cons_ne_nil item others (later.symm.trans first)
  · exact other (setSign_eq_plain (List.cons.inj closing).1)

theorem readMembers_range (inside : items = [] ∨ c ≠ ']') (further : high ≠ ']') :
    readMembers flags (fuel + 1) items (setSign c :: .plain '-' :: setSign high :: signs) =
      if high.toNat < c.toNat then .error .malformed
      else readMembers flags fuel (.range c.toNat high.toNat :: items) signs := by
  have notLast : setSign high ≠ .plain ']' := fun same => further (setSign_eq_plain same)
  rw [readMembers, readMember_setSign]
  · simp only [bind, Except.bind]
    split
    · rename_i same
      exact absurd (List.cons.inj (List.cons.inj same).2).1 notLast
    · rename_i same
      cases same
      rw [readMember_setSign]
      show (if _ then _ else _) = _
      split <;> rfl
    · rename_i other
      exact absurd rfl (other _)
  · exact not_closing inside

theorem readMembers_lastMinus (inside : items = [] ∨ c ≠ ']') :
    readMembers flags (fuel + 1) items (setSign c :: .plain '-' :: .plain ']' :: signs) =
      .ok ((.code '-'.toNat :: .code c.toNat :: items).reverse, signs) := by
  rw [readMembers, readMember_setSign]
  · rfl
  · exact not_closing inside

theorem readMembers_code (inside : items = [] ∨ c ≠ ']')
    (alone : signs.head? ≠ some (.plain '-')) :
    readMembers flags (fuel + 1) items (setSign c :: signs) =
      readMembers flags fuel (.code c.toNat :: items) signs := by
  rw [readMembers, readMember_setSign]
  · simp only [bind, Except.bind]
    split
    · exact absurd rfl alone
    · exact absurd rfl alone
    · rfl
  · exact not_closing inside

end

/-- What is between brackets is read as its members, unless a range ends before it starts. Only the
very first character may be a closing bracket. -/
theorem readMembers_setSigns {flags : Flags} {signs : List Sign} {chars : List Char}
    {items : List SetItem} {fuel : Nat} (present : items ≠ [] ∨ chars ≠ [])
    (inside : items = [] ∨ chars.head? ≠ some ']') (clear : ']' ∉ chars.tail)
    (enough : chars.length ≤ fuel) :
    readMembers flags (fuel + 1) items (chars.map setSign ++ .plain ']' :: signs) =
      if (membersOf chars).all SetItem.isOrdered then .ok (items.reverse ++ membersOf chars, signs)
      else .error .malformed := by
  induction chars using membersOf.induct generalizing items fuel with
  | case1 low high rest inductionHypothesis =>
      obtain ⟨less, rfl⟩ : ∃ less, fuel = less + 1 := ⟨fuel - 1, by simp at enough; omega⟩
      simp only [List.tail_cons, List.mem_cons, not_or] at clear
      have further := @inductionHypothesis (.range low.toNat high.toNat :: items) less
        (.inl (List.cons_ne_nil _ _)) (.inr (mt List.mem_of_head? clear.2.2))
        (mt List.mem_of_mem_tail clear.2.2) (by simp at enough; omega)
      show readMembers flags (less + 2) items (setSign low :: .plain '-' :: setSign high ::
        (rest.map setSign ++ .plain ']' :: signs)) = _
      rw [readMembers_range (by simpa using inside) (Ne.symm clear.2.1), further, membersOf,
        List.all_cons]
      by_cases inverted : high.toNat < low.toNat
      · simp [inverted, SetItem.isOrdered, Nat.not_le.2 inverted]
      · simp [inverted, SetItem.isOrdered, Nat.not_lt.1 inverted]
  | case2 c rest notRange inductionHypothesis =>
      have first : items = [] ∨ c ≠ ']' := by simpa using inside
      rw [List.tail_cons] at clear
      show readMembers flags (fuel + 1) items
        (setSign c :: (rest.map setSign ++ .plain ']' :: signs)) = _
      by_cases alone : rest.head? = some '-'
      · obtain ⟨others, rfl⟩ := List.head?_eq_some_iff.1 alone
        have last : others = [] := by
          cases others with
          | nil => rfl
          | cons high others => exact absurd rfl (notRange high others)
        rw [last]
        refine (readMembers_lastMinus first).trans ?_
        simp [membersOf, SetItem.isOrdered]
      · obtain ⟨less, rfl⟩ : ∃ less, fuel = less + 1 :=
          ⟨fuel - 1, by simp at enough; omega⟩
        have further := @inductionHypothesis (.code c.toNat :: items) less
          (.inl (List.cons_ne_nil _ _)) (.inr (mt List.mem_of_head? clear))
          (mt List.mem_of_mem_tail clear) (by simpa using enough)
        have notMinus : (rest.map setSign ++ .plain ']' :: signs).head? ≠ some (.plain '-') := by
          cases rest with
          | nil => simp
          | cons d rest =>
              exact fun same => alone (congrArg some (setSign_eq_plain (Option.some.inj same)))
        rw [readMembers_code first notMinus, further, membersOf.eq_2 c rest notRange]
        simp [SetItem.isOrdered]
  | case3 =>
      obtain ⟨item, others, rfl⟩ :=
        List.exists_cons_of_ne_nil (present.resolve_right fun none => none rfl)
      simp [membersOf, readMembers]

/-! ## A text that cannot be read -/

/-- Where no flags are set, the expression is malformed, whatever stands behind the text. -/
structure Fails (text : List Char) : Prop where
  calm : ∀ rest, IsCalm (text ++ rest)
  read : ∀ (progress : Progress) {rest : List Char} {fuel : Nat},
    progress.level.flags = Flags.none → (signsOf (text ++ rest)).length ≤ fuel →
      progress.readAll fuel (signsOf (text ++ rest)) = .error .malformed

section

variable {left right text : List Char} {items : List Pattern}

theorem Fails.append (fails : Fails left) (right : List Char) : Fails (left ++ right) := by
  constructor
  · intro rest
    rw [List.append_assoc]
    exact fails.calm (right ++ rest)
  · intro progress rest fuel unflagged enough
    rw [List.append_assoc] at enough ⊢
    exact fails.read progress unflagged enough

theorem Reads.append_fails (reads : Reads left items) (fails : Fails right) :
    Fails (left ++ right) := by
  constructor
  · intro rest
    rw [List.append_assoc]
    exact reads.calm (fails.calm rest)
  · intro progress rest fuel unflagged enough
    rw [List.append_assoc] at enough ⊢
    obtain ⟨spare, more, read⟩ := reads.read progress unflagged (fails.calm rest) enough
    rw [read]
    refine fails.read _ ?_ more
    rwa [foldl_add]

/-- The text is read as the items if it is fit, and otherwise makes the expression malformed. -/
def ReadsIf (fit : Bool) (text : List Char) (items : List Pattern) : Prop :=
  if fit then Reads text items else Fails text

theorem Reads.readsIf (reads : Reads text items) : ReadsIf true text items :=
  reads

/-- A text is fit if both of its parts are. -/
theorem ReadsIf.append {fit also : Bool} {others : List Pattern} (first : ReadsIf fit left items)
    (second : ReadsIf also right others) :
    ReadsIf (fit && also) (left ++ right) (items ++ others) := by
  cases fit with
  | false => exact Fails.append first right
  | true =>
      cases also with
      | false => exact Reads.append_fails first second
      | true => exact Reads.append first second

theorem read_of_readsIf {fit : Bool} (reads : ReadsIf fit text items) :
    Pattern.read false (String.ofList text) =
      if fit then .ok (Pattern.inOrder items) else .error .malformed := by
  cases fit with
  | true => exact read_of_reads reads
  | false =>
      have read := @Fails.read _ reads (Progress.initial Flags.none) [] _ rfl (Nat.le_refl _)
      rw [List.append_nil] at read
      have failed : Pattern.parse false (String.ofList text) = .error .malformed := by
        unfold Pattern.parse
        rw [String.toList_ofList]
        exact read
      rw [Pattern.read, failed]
      rfl

end

/-! ## A whole set -/

/-- Whether no range between brackets ends before it starts. -/
def isOrdered (chars : List Char) : Bool :=
  (membersOf chars).all SetItem.isOrdered

/-- The set of the characters between brackets, or of all others. -/
def setOf (negated : Bool) (chars : List Char) : CharSet :=
  ⟨negated, (membersOf chars).eraseDups, .exact⟩

/-- The expression of a set. -/
def setText (negated : Bool) (chars : List Char) : List Char :=
  '[' :: ((if negated then ['^'] else []) ++ setChars chars ++ [']'])

theorem contains_setOf {negated : Bool} {chars : List Char} {c : Char} :
    (setOf negated chars).contains c = ((membersOf chars).any (SetItem.contains c) != negated) := by
  have same : (membersOf chars).eraseDups.any (SetItem.contains c) =
      (membersOf chars).any (SetItem.contains c) := by
    rw [Bool.eq_iff_iff, List.any_eq_true, List.any_eq_true]
    simp only [List.mem_eraseDups]
  show ((membersOf chars).eraseDups.any (SetItem.contains c) != negated) = _
  rw [same]

section

variable {negated : Bool} {chars : List Char}

theorem signsOf_setText (rest : List Char) :
    signsOf (setText negated chars ++ rest) =
      .plain '[' :: ((if negated then [.plain '^'] else []) ++
        (chars.map setSign ++ .plain ']' :: signsOf rest)) := by
  have members : signsOf (setChars chars ++ ']' :: rest) =
      chars.map setSign ++ .plain ']' :: signsOf rest := by
    rw [signsOf_setChars]
    rfl
  cases negated <;> simp [setText, signsOf_cons, members]

theorem readSet_setSigns (present : chars ≠ []) (clear : ']' ∉ chars.tail)
    (unsigned : negated = false → chars.head? ≠ some '^') (signs : List Sign) :
    readSet Flags.none ((if negated then [.plain '^'] else []) ++
        (chars.map setSign ++ .plain ']' :: signs)) =
      if isOrdered chars then .ok (.one (setOf negated chars), signs) else .error .malformed := by
  have enough : chars.length ≤ (chars.map setSign ++ .plain ']' :: signs).length := by simp
  have members := @readMembers_setSigns Flags.none signs chars [] _ (.inr present) (.inl rfl) clear
    enough
  have read : readSet Flags.none ((if negated then [.plain '^'] else []) ++
      (chars.map setSign ++ .plain ']' :: signs)) =
      (readMembers Flags.none ((chars.map setSign ++ .plain ']' :: signs).length + 1) []
        (chars.map setSign ++ .plain ']' :: signs)).map fun members =>
          (.one ⟨negated, members.1.eraseDups, .exact⟩, members.2) := by
    cases negated with
    | true => rfl
    | false =>
        rw [if_neg (by decide), List.nil_append, readSet]
        · rfl
        · intro rest same
          obtain ⟨c, others, rfl⟩ := List.exists_cons_of_ne_nil present
          exact unsigned rfl (congrArg some (setSign_eq_plain (List.cons.inj same).1))
  rw [read, members, isOrdered]
  split <;> rfl

/-- The first step over a set. -/
theorem step_setSigns {progress : Progress} (unflagged : progress.level.flags = Flags.none)
    (present : chars ≠ []) (clear : ']' ∉ chars.tail)
    (unsigned : negated = false → chars.head? ≠ some '^') (signs : List Sign) :
    progress.step (.plain '[') ((if negated then [.plain '^'] else []) ++
        (chars.map setSign ++ .plain ']' :: signs)) =
      if isOrdered chars then .ok (progress.add (.one (setOf negated chars)), signs)
      else .error .malformed := by
  rw [step_plain unflagged]
  simp only [Progress.readPlain, unflagged, readSet_setSigns present clear unsigned]
  split <;> rfl

/-- A set is read as what it is written for, unless a range in it ends before it starts. -/
theorem readsIf_setText (present : chars ≠ []) (clear : ']' ∉ chars.tail)
    (unsigned : negated = false → chars.head? ≠ some '^') :
    ReadsIf (isOrdered chars) (setText negated chars) [.one (setOf negated chars)] := by
  have step (progress : Progress) (unflagged : progress.level.flags = Flags.none)
      (rest : List Char) :=
    step_setSigns unflagged present clear unsigned (signsOf rest)
  cases ordered : isOrdered chars with
  | true =>
      constructor
      · exact List.forall_mem_singleton.2 rfl
      · exact fun _ => ⟨by simp [setText], by simp [setText]⟩
      · intro progress rest fuel unflagged _ enough
        have read := (step progress unflagged rest).trans (if_pos ordered)
        rw [signsOf_setText] at enough ⊢
        refine readAll_cons read (Nat.lt_of_lt_of_le (by simp; omega) enough) fun closing => ?_
        cases closing
  | false =>
      constructor
      · exact fun _ => ⟨by simp [setText], by simp [setText]⟩
      · intro progress rest fuel unflagged enough
        have failed := (step progress unflagged rest).trans (if_neg (by simp [ordered]))
        rw [signsOf_setText] at enough ⊢
        cases fuel with
        | zero => cases enough
        | succ fuel =>
            rw [Progress.readAll, failed, if_neg]
            rintro ⟨closing, -⟩
            cases closing

end

/-! ## Characters that are not escaped -/

/-- Whether a character that is not escaped says how something is matched. Brackets and backslashes
are left out. -/
def isOperator (c : Char) : Bool :=
  "^$*+?.()|\x7b".toList.contains c

theorem reads_plain {c : Char} (tame : isOperator c = false) (noBracket : c ≠ '[')
    (noBackslash : c ≠ '\\') : Reads [c] [literal c] := by
  have other : ∀ {other}, isOperator other = true → c ≠ other := by
    rintro _ operator rfl
    exact absurd tame (by simp [operator])
  constructor
  · exact List.forall_mem_singleton.2 rfl
  · exact fun _ => ⟨by simpa using other (by decide), by simpa using other (by decide)⟩
  · intro progress rest fuel unflagged _ enough
    rw [List.singleton_append, signsOf_cons noBackslash] at enough ⊢
    refine readAll_cons ?_ enough fun closing => ?_
    · rw [step_plain unflagged, literal, ← unflagged]
      unfold Progress.readPlain
      split <;> first | rfl | exact absurd tame (by decide) | exact absurd rfl noBracket
    · exact absurd (Sign.plain.inj closing) (other (by decide))

/-- Where nothing says otherwise, characters that are so written stand for themselves. -/
theorem reads_setChars {chars : List Char} (tame : ∀ c ∈ chars, isOperator c = false) :
    Reads (setChars chars) (chars.map literal) := by
  induction chars with
  | nil => exact .nil
  | cons c chars inductionHypothesis =>
      have further := inductionHypothesis fun d member => tame d (List.mem_cons_of_mem c member)
      show Reads ((if c == '\\' || c == '[' then ['\\', c] else [c]) ++ setChars chars)
        ([literal c] ++ chars.map literal)
      refine Reads.append ?_ further
      split
      · rename_i escaped
        have special : escapeChars [c] = ['\\', c] := by
          rw [Bool.or_eq_true, beq_iff_eq, beq_iff_eq] at escaped
          rcases escaped with rfl | rfl <;> rfl
        exact special ▸ reads_escapeChars c
      · rename_i ordinary
        rw [Bool.or_eq_true, beq_iff_eq, beq_iff_eq, not_or] at ordinary
        exact reads_plain (tame c List.mem_cons_self) ordinary.2 ordinary.1

end VirtualShell.Regex
