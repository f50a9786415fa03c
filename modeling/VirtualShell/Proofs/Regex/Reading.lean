import VirtualShell.Proofs.Regex.Condensing
import VirtualShell.Regex.Read

/-!
Contract: reading a regular expression part by part.

Owns:
- `Reads`, a text that is read as some items wherever it stands, and its composition;
- escaped characters, the set of all characters but the slash, its repetition, look aheads and the
  end of the text are read as what they are written for;
- `read_of_reads`: an expression all of whose parts are read is no malformed expression.

Does not own: what the items match (`VirtualShell.Proofs.Regex.Matching`).
-/

namespace VirtualShell.Regex

variable {text left right : List Char} {items others : List Pattern} {progress : Progress}

/-- No sign comes first that would change how what is before it is repeated. -/
def IsCalm (text : List Char) : Prop :=
  text.head? ≠ some '?' ∧ text.head? ≠ some '+'

/-- Where no flags are set, the text is read as the items, whatever stands behind it, and the items
are pieces, which stay as they are. -/
structure Reads (text : List Char) (items : List Pattern) : Prop where
  whole : ∀ item ∈ items, item.IsPiece
  calm : ∀ {rest}, IsCalm rest → IsCalm (text ++ rest)
  read : ∀ (progress : Progress) {rest : List Char} {fuel : Nat},
    progress.level.flags = Flags.none → IsCalm rest → (signsOf (text ++ rest)).length ≤ fuel →
    ∃ spare, (signsOf rest).length ≤ spare ∧
      progress.readAll fuel (signsOf (text ++ rest)) =
        (items.foldl Progress.add progress).readAll spare (signsOf rest)

/-! ## What is read and what is looked for -/

theorem read_of_parse {ignoreCase : Bool} {source : String} {pattern : Pattern}
    (parsed : Pattern.parse ignoreCase source = .ok pattern) :
    Pattern.read ignoreCase source = .ok pattern.condensed := by
  rw [Pattern.read, parsed]
  rfl

/-- Condensing never fails, so a text that is no expression is none before it. -/
theorem parse_eq_error_of_read {ignoreCase : Bool} {source : String} {defect : Defect}
    (failed : Pattern.read ignoreCase source = .error defect) :
    Pattern.parse ignoreCase source = .error defect := by
  unfold Pattern.read at failed
  cases parsed : Pattern.parse ignoreCase source with
  | ok pattern =>
      rw [parsed] at failed
      cases failed
  | error other =>
      rw [parsed] at failed
      exact failed

theorem exists_parse_of_read {ignoreCase : Bool} {source : String} {pattern : Pattern}
    (read : Pattern.read ignoreCase source = .ok pattern) :
    ∃ tree, Pattern.parse ignoreCase source = .ok tree ∧ tree.condensed = pattern := by
  unfold Pattern.read at read
  cases parsed : Pattern.parse ignoreCase source with
  | error defect =>
      rw [parsed] at read
      cases read
  | ok tree =>
      rw [parsed] at read
      exact ⟨tree, rfl, Except.ok.inj read⟩

/-! ## Composition -/

theorem foldl_add (items : List Pattern) (progress : Progress) :
    items.foldl Progress.add progress =
      { progress with
        level := { progress.level with items := items.reverse ++ progress.level.items } } := by
  induction items generalizing progress with
  | nil => rfl
  | cons item items inductionHypothesis =>
      rw [List.foldl_cons, inductionHypothesis]
      simp [Progress.add]

theorem Reads.nil : Reads [] [] :=
  ⟨nofun, id, fun _ _ _ _ _ enough => ⟨_, enough, rfl⟩⟩

theorem Reads.append (first : Reads left items) (second : Reads right others) :
    Reads (left ++ right) (items ++ others) := by
  constructor
  · exact List.forall_mem_append.2 ⟨first.whole, second.whole⟩
  · intro rest calm
    rw [List.append_assoc]
    exact first.calm (second.calm calm)
  · intro progress rest fuel unflagged calm enough
    rw [List.append_assoc] at enough ⊢
    obtain ⟨middle, more, read⟩ := first.read progress unflagged (second.calm calm) enough
    have still : (items.foldl Progress.add progress).level.flags = Flags.none := by
      rwa [foldl_add]
    obtain ⟨spare, most, further⟩ := second.read _ still calm more
    rw [read, further, ← List.foldl_append]
    exact ⟨spare, most, rfl⟩

/-- An expression all of which is read is the items that it is read as. -/
theorem read_of_reads (reads : Reads text items) :
    Pattern.read false (String.ofList text) = .ok (Pattern.inOrder items) := by
  have calm : IsCalm [] := ⟨nofun, nofun⟩
  obtain ⟨spare, -, read⟩ := reads.read (Progress.initial Flags.none) rfl calm (Nat.le_refl _)
  have parsed : Pattern.parse false (String.ofList text) = .ok (Pattern.inOrder items) := by
    rw [List.append_nil] at read
    unfold Pattern.parse
    rw [String.toList_ofList]
    refine read.trans ?_
    rw [foldl_add]
    cases spare <;> simp [signsOf, Progress.readAll, Progress.finish, Progress.content,
      Progress.initial, Flags.none]
  rw [read_of_parse parsed, Pattern.condensed_inOrder reads.whole]

/-! ## One step -/

/-- A step does not end the expression unless it closes a parenthesis that is not open. -/
theorem readAll_succ {sign : Sign} {signs behind : List Sign} {next : Progress}
    (step : progress.step sign signs = .ok (next, behind))
    (inside : sign = .plain ')' → progress.outer ≠ []) (fuel : Nat) :
    progress.readAll (fuel + 1) (sign :: signs) = next.readAll fuel behind := by
  have going : ¬(sign = .plain ')' ∧ progress.outer.isEmpty = true) := fun closing =>
    inside closing.1 (List.isEmpty_iff.1 closing.2)
  rw [Progress.readAll, if_neg going, step]

theorem readAll_cons {sign : Sign} {signs behind : List Sign} {next : Progress} {fuel : Nat}
    (step : progress.step sign signs = .ok (next, behind)) (enough : behind.length < fuel)
    (inside : sign = .plain ')' → progress.outer ≠ []) :
    ∃ spare, behind.length ≤ spare ∧
      progress.readAll fuel (sign :: signs) = next.readAll spare behind := by
  cases fuel with
  | zero => exact absurd enough (Nat.not_lt_zero _)
  | succ fuel => exact ⟨fuel, Nat.le_of_lt_succ enough, readAll_succ step inside fuel⟩

theorem signsOf_cons {c : Char} (unescaped : c ≠ '\\') (rest : List Char) :
    signsOf (c :: rest) = .plain c :: signsOf rest := by
  rw [signsOf]
  · exact fun same _ => unescaped same
  · exact fun _ _ same => absurd same unescaped

theorem step_plain (unflagged : progress.level.flags = Flags.none) (c : Char) (signs : List Sign) :
    progress.step (.plain c) signs = progress.readPlain c signs := by
  simp [Progress.step, unflagged, Flags.none]

/-! ## Characters -/

/-- A pattern of one certain character. -/
def literal (c : Char) : Pattern :=
  single Flags.none c.toNat

theorem readCodeEscape_of_not_isAlphanum {c : Char} (symbol : c.isAlphanum = false)
    (signs : List Sign) : readCodeEscape c signs = .ok (c.toNat, signs) := by
  unfold readCodeEscape
  split
  · exact absurd symbol (by decide)
  · exact absurd symbol (by decide)
  · exact absurd symbol (by decide)
  · exact absurd symbol (by decide)
  · rw [if_neg (by simp [symbol])]

/-- A backslash takes its meaning away from a sign that is no letter or digit. -/
theorem readEscape_of_not_isAlphanum {c : Char} (symbol : c.isAlphanum = false)
    (signs : List Sign) :
    progress.readEscape c signs =
      .ok (progress.add (single progress.level.flags c.toNat), signs) := by
  by_cases backslash : c = '\\'
  · rw [backslash]
    rfl
  · have noAnchor : ∀ asciiOnly, Progress.anchor? asciiOnly c = none := by
      intro asciiOnly
      unfold Progress.anchor?
      split <;> first | rfl | exact absurd symbol (by decide)
    have noCategory : ∀ asciiOnly, category? asciiOnly c = none := by
      intro asciiOnly
      unfold category?
      split <;> first | rfl | exact absurd symbol (by decide)
    have noControl : controlCode? c = none := by
      unfold controlCode?
      split <;> first | rfl | exact absurd symbol (by decide) | exact absurd rfl backslash
    have noZero : c ≠ '0' := by
      rintro rfl
      exact absurd symbol (by decide)
    have noDigit : c.isDigit = false := (Bool.or_eq_false_iff.1 symbol).2
    simp only [Progress.readEscape, noAnchor, noCategory, noControl, noZero, noDigit, if_false,
      readCodeEscape_of_not_isAlphanum symbol]
    rfl

theorem not_isAlphanum_of_isSpecial {c : Char} (special : isSpecial c = true) :
    c.isAlphanum = false := by
  have symbols : "()[]\x7b\x7d?*+-|^$\\.&~# \t\n\r\x0b\x0c".toList.all (!·.isAlphanum) = true := by
    decide
  simpa using List.all_eq_true.1 symbols c (List.contains_iff_mem.1 special)

theorem readPlain_of_not_isSpecial {c : Char} (ordinary : isSpecial c = false)
    (signs : List Sign) :
    progress.readPlain c signs =
      .ok (progress.add (single progress.level.flags c.toNat), signs) := by
  unfold Progress.readPlain
  split <;> first | rfl | exact absurd ordinary (by decide)

theorem reads_escapeChars (c : Char) : Reads (escapeChars [c]) [literal c] := by
  by_cases special : isSpecial c = true
  · have escaped : escapeChars [c] = ['\\', c] := by simp [escapeChars, special]
    rw [escaped]
    constructor
    · exact List.forall_mem_singleton.2 rfl
    · exact fun _ => ⟨by simp, by simp⟩
    · intro progress rest fuel unflagged _ enough
      refine readAll_cons ?_ enough nofun
      rw [literal, ← unflagged]
      exact readEscape_of_not_isAlphanum (not_isAlphanum_of_isSpecial special) _
  · have ordinary : isSpecial c = false := by simpa using special
    have unescaped : escapeChars [c] = [c] := by simp [escapeChars, ordinary]
    have other : ∀ {other}, isSpecial other = true → c ≠ other := by
      rintro _ special rfl
      exact absurd ordinary (by simp [special])
    rw [unescaped]
    constructor
    · exact List.forall_mem_singleton.2 rfl
    · exact fun _ => ⟨by simpa using other (by decide), by simpa using other (by decide)⟩
    · intro progress rest fuel unflagged _ enough
      rw [List.singleton_append, signsOf_cons (other (by decide))] at enough ⊢
      refine readAll_cons ?_ enough fun closing => ?_
      · rw [step_plain unflagged, literal, ← unflagged]
        exact readPlain_of_not_isSpecial ordinary _
      · exact absurd (Sign.plain.inj closing) (other (by decide))

/-! ## Other parts -/

/-- All characters but the slash. -/
def notSlash : CharSet :=
  ⟨true, [.code '/'.toNat], .exact⟩

theorem step_notSlash (unflagged : progress.level.flags = Flags.none) (signs : List Sign) :
    progress.step (.plain '[') (.plain '^' :: .plain '/' :: .plain ']' :: signs) =
      .ok (progress.add (.one notSlash), signs) := by
  rw [step_plain unflagged]
  simp only [Progress.readPlain, unflagged]
  rfl

theorem reads_notSlash : Reads ['[', '^', '/', ']'] [.one notSlash] := by
  constructor
  · exact List.forall_mem_singleton.2 rfl
  · exact fun _ => ⟨by simp, by simp⟩
  · intro progress rest fuel unflagged _ enough
    exact readAll_cons (step_notSlash unflagged _)
      (Nat.lt_of_lt_of_le (by simp [signsOf]; omega) enough) nofun

theorem head?_of_signsOf {c : Char} {signs : List Sign} (first : signsOf text = .plain c :: signs) :
    text.head? = some c := by
  cases text with
  | nil => cases first
  | cons other rest =>
      by_cases backslash : other = '\\'
      · subst backslash
        cases rest <;> cases first
      · rw [signsOf_cons backslash] at first
        cases first
        rfl

/-- A repetition is greedy unless the sign behind it says otherwise. -/
theorem repeatLast_of_isCalm {set : CharSet} (unflagged : progress.level.flags = Flags.none)
    (calm : IsCalm text) (least : Nat) (most : Option Nat) :
    (progress.add (.one set)).repeatLast least most (signsOf text) =
      .ok (progress.add (.span set ⟨least, most, .greedy⟩), signsOf text) := by
  have faultless : (progress.isFaulty || progress.level.flags.fixedOnly) = progress.isFaulty := by
    rw [unflagged]
    exact Bool.or_false _
  simp only [Progress.repeatLast, Progress.add, Pattern.isAnchor, Pattern.isRepetition,
    Pattern.repeatedBy, faultless, Bool.or_self, Bool.false_eq_true, if_false]
  split
  · rename_i same
    exact absurd (head?_of_signsOf same) calm.1
  · rename_i same
    exact absurd (head?_of_signsOf same) calm.2
  · rfl

theorem reads_notSlashes :
    Reads ['[', '^', '/', ']', '*'] [.span notSlash ⟨0, none, .greedy⟩] := by
  constructor
  · exact List.forall_mem_singleton.2 rfl
  · exact fun _ => ⟨by simp, by simp⟩
  · intro progress rest fuel unflagged calm enough
    obtain ⟨middle, more, first⟩ := readAll_cons
      (step_notSlash unflagged (.plain '*' :: signsOf rest))
      (Nat.lt_of_lt_of_le (by simp [signsOf]) enough) nofun
    have starred : (progress.add (.one notSlash)).step (.plain '*') (signsOf rest) =
        .ok (progress.add (.span notSlash ⟨0, none, .greedy⟩), signsOf rest) := by
      rw [step_plain (by exact unflagged)]
      exact repeatLast_of_isCalm unflagged calm 0 none
    obtain ⟨spare, most, second⟩ := readAll_cons starred more nofun
    exact ⟨spare, most, first.trans second⟩

/-- What is read as some items is read as a condition on them inside a look ahead. -/
theorem Reads.notAhead (reads : Reads text items) :
    Reads ('(' :: '?' :: '!' :: (text ++ [')'])) [.lookAhead true (Pattern.inOrder items)] := by
  constructor
  · refine List.forall_mem_singleton.2 ?_
    show [[Pattern.lookAhead true (Pattern.inOrder (joined (Pattern.inOrder items).branches))]] = _
    rw [Pattern.joined_branches_inOrder reads.whole]
  · exact fun _ => ⟨by simp, by simp⟩
  · intro progress rest fuel unflagged _ enough
    have signs : signsOf ('(' :: '?' :: '!' :: (text ++ [')']) ++ rest) =
        .plain '(' :: .plain '?' :: .plain '!' :: signsOf (text ++ ')' :: rest) := by
      simp [signsOf]
    rw [signs] at enough ⊢
    have opened : progress.step (.plain '(')
        (.plain '?' :: .plain '!' :: signsOf (text ++ ')' :: rest)) =
        .ok (progress.push (.lookAhead true) .none, signsOf (text ++ ')' :: rest)) := by
      rw [step_plain unflagged]
      simp only [Progress.readPlain, Progress.readExtension, unflagged]
    have closed : (items.foldl Progress.add (progress.push (.lookAhead true) .none)).step
        (.plain ')') (signsOf rest) =
        .ok (progress.add (.lookAhead true (Pattern.inOrder items)), signsOf rest) := by
      rw [foldl_add, step_plain rfl]
      simp [Progress.readPlain, Progress.close, Progress.push, Progress.content, Progress.add,
        Except.map]
    obtain ⟨outer, more, first⟩ := readAll_cons opened
      (Nat.lt_of_lt_of_le (by simp; omega) enough) nofun
    obtain ⟨inner, most, second⟩ :=
      reads.read (progress.push (.lookAhead true) .none) rfl ⟨by simp, by simp⟩ more
    obtain ⟨spare, last, third⟩ := readAll_cons closed most fun _ => by
      rw [foldl_add]
      exact List.cons_ne_nil _ _
    exact ⟨spare, last, first.trans (second.trans third)⟩

theorem reads_textEnd : Reads ['\\', 'Z'] [.anchor .textEnd] := by
  constructor
  · exact List.forall_mem_singleton.2 rfl
  · exact fun _ => ⟨by simp, by simp⟩
  · intro progress rest fuel unflagged _ enough
    have ended : progress.step (.escaped 'Z') (signsOf rest) =
        .ok (progress.add (.anchor .textEnd), signsOf rest) := rfl
    exact readAll_cons ended enough nofun

end VirtualShell.Regex
