import Mathlib.Data.List.Chain
import VirtualShell.Name
import VirtualShell.Proofs.Token.Scan

/-!
Contract: a line that is written mark by mark is scanned to the tokens its marks stand for.

Owns:
- `Mark`, a blank, an operator, a bare word or a word between single quotes; `spell`, the
  characters of a list of marks, and `tokensAt`, the tokens that the list stands for;
- `Mark.admits`, which mark may stand behind which;
- `scan_spell`: if every mark admits the next one, the spelled line is scanned to exactly
  the tokens of its marks.

Does not own: what words and operators mean in a statement.
-/

namespace VirtualShell

/-- A character that stands for itself wherever it stands in a bare word. -/
def isPlainChar (c : Char) : Bool :=
  isNameChar c || c == '!' || c == '\x7b' || c == '\x7d'

/-- A word that needs no quotes. It starts with no digit, since a digit may start an
operator. -/
structure BareWord where
  text : String
  starts : text.toList.head?.any (fun c => isPlainChar c && !c.isDigit) = true
  plain : text.toList.all isPlainChar = true

theorem BareWord.exists_cons (word : BareWord) :
    ∃ c others, word.text.toList = c :: others ∧ isPlainChar c = true ∧ c.isDigit = false ∧
      others.all isPlainChar = true := by
  have starts := word.starts
  have plain := word.plain
  cases chars : word.text.toList with
  | nil =>
      rw [chars] at starts
      cases starts
  | cons c others =>
      rw [chars] at starts plain
      simp only [List.head?_cons, Option.any_some, Bool.and_eq_true, Bool.not_eq_true'] at starts
      rw [List.all_cons, Bool.and_eq_true] at plain
      exact ⟨c, others, rfl, starts.1, starts.2, plain.2⟩

/-- A name needs no quotes. -/
def BareWord.ofName (text : String) (named : isName text = true) : BareWord where
  text := text
  starts := by
    unfold isName at named
    split at named
    · cases named
    · rename_i c rest chars
      rw [chars]
      simp only [Bool.and_eq_true, isNameStart, Bool.or_eq_true, beq_iff_eq] at named
      have start := named.1
      simp only [List.head?_cons, Option.any_some, isPlainChar, isNameChar, Char.isAlphanum]
      rcases start with letter | rfl
      · have noDigit : c.isDigit = false := by
          unfold Char.isAlpha Char.isUpper Char.isLower at letter
          simp only [Bool.or_eq_true, Bool.and_eq_true, decide_eq_true_eq] at letter
          simp only [Char.isDigit, Bool.and_eq_false_iff, decide_eq_false_iff_not]
          rcases letter with upper | lower
          · exact .inr fun digit => absurd (UInt32.le_trans upper.1 digit) (by decide)
          · exact .inr fun digit => absurd (UInt32.le_trans lower.1 digit) (by decide)
        simp [letter, noDigit]
      · decide
  plain := by
    unfold isName at named
    split at named
    · cases named
    · rename_i c rest chars
      rw [chars]
      simp only [Bool.and_eq_true] at named
      have first : isNameChar c = true := by
        have start := named.1
        simp only [isNameStart, Bool.or_eq_true] at start
        simp only [isNameChar, Char.isAlphanum, Bool.or_eq_true]
        rcases start with letter | underscore
        · exact .inl (.inl letter)
        · exact .inr underscore
      simp only [List.all_cons, Bool.and_eq_true, List.all_eq_true, isPlainChar, first,
        Bool.true_or, true_and]
      intro d member
      rw [List.all_eq_true.1 named.2 d member]
      rfl

/-- A text that can stand between single quotes. -/
structure Quotable where
  text : String
  closed : '\'' ∉ text.toList

/-- What a line is written with. -/
inductive Mark where
  | blank
  | bare (word : BareWord)
  | quoted (word : Quotable)
  | operator (kind : Operator)

/-- Whether no operator is spelled like this one with more characters behind it. -/
def Operator.isWhole : Operator → Bool
  | .pipe | .writeOut | .writeError => false
  | _ => true

/-- The characters with which a longer operator goes on. -/
def Operator.continuations : List Char := ['>', '|', '&']

/-- Whether a word may end where this operator starts. -/
def Operator.endsWord : Operator → Bool
  | .semicolon | .newline | .openParen => true
  | _ => false

namespace Mark

/-- How a mark is written. -/
def spelling : Mark → List Char
  | blank => [' ']
  | bare word => word.text.toList
  | quoted word => '\'' :: (word.text.toList ++ ['\''])
  | operator kind => kind.text.toList

/-- The token that a mark stands for. -/
def token? (start : Nat) (mark : Mark) : Option Token :=
  let stop := start + mark.spelling.length
  match mark with
  | blank => none
  | bare word => some (.word ⟨[⟨word.text, .unquoted⟩], start, stop⟩)
  | quoted word => some (.word ⟨[⟨word.text, .single⟩], start, stop⟩)
  | operator kind => some (.operator kind start stop)

/-- Whether a word may stand in front of this mark. -/
def endsWord : Mark → Bool
  | blank => true
  | bare _ | quoted _ => false
  | operator kind => kind.endsWord

/-- Whether a mark is a blank. -/
def isBlank : Mark → Bool
  | blank => true
  | _ => false

/-- Whether the second mark may stand behind the first. -/
def admits : Mark → Mark → Bool
  | blank, _ => true
  | bare _, next | quoted _, next => next.endsWord
  | operator kind, next => kind.isWhole || next.isBlank

end Mark

/-- The characters of a list of marks. -/
def spell (marks : List Mark) : List Char :=
  marks.flatMap Mark.spelling

/-- The tokens that a list of marks stands for, the first of which is at `start`. -/
def tokensAt (start : Nat) : List Mark → List Token
  | [] => []
  | mark :: rest => (mark.token? start).toList ++ tokensAt (start + mark.spelling.length) rest

theorem spell_cons (mark : Mark) (rest : List Mark) :
    spell (mark :: rest) = mark.spelling ++ spell rest :=
  List.flatMap_cons

theorem spell_append (left right : List Mark) : spell (left ++ right) = spell left ++ spell right :=
  List.flatMap_append

theorem tokensAt_append (start : Nat) (left right : List Mark) :
    tokensAt start (left ++ right) =
      tokensAt start left ++ tokensAt (start + (spell left).length) right := by
  induction left generalizing start with
  | nil => rfl
  | cons mark left inductionHypothesis =>
      rw [List.cons_append, tokensAt, inductionHypothesis, tokensAt, spell_cons,
        List.length_append, List.append_assoc, Nat.add_assoc]

/-! ## Lexemes -/

namespace Lexeme

theorem operatorAt_of_isPlainChar {inWord : Bool} {c : Char} {rest : List Char}
    (plain : isPlainChar c = true) (inside : inWord = true ∨ c.isDigit = false) :
    operatorAt inWord (c :: rest) = none := by
  have fronts : ∀ entry ∈ operatorSpellings,
      entry.1.head?.all (fun c => !isPlainChar c) = true := by decide
  have digits : ∀ entry ∈ numberedSpellings ++ operatorSpellings,
      entry.1.head?.all (fun c => !isPlainChar c || c.isDigit) = true := by decide
  cases spelled : operatorAt inWord (c :: rest) with
  | none => rfl
  | some entry =>
      have fits := List.find?_some spelled
      have before : entry.1 <+: c :: rest := List.isPrefixOf_iff_prefix.1 fits
      have listed := operatorAt_spelling spelled
      have positive := length_pos_of_spelling listed
      obtain ⟨_ | ⟨d, spelling⟩, kind⟩ := entry
      · exact absurd positive (Nat.lt_irrefl 0)
      · have same : d = c := (List.cons_prefix_cons.1 before).1
        subst same
        rcases inside with inside | noDigit
        · rw [inside, operatorAt_true] at spelled
          have solid := fronts _ (List.mem_of_find?_eq_some spelled)
          simp [plain] at solid
        · have solid := digits _ listed
          simp [plain, noDigit] at solid

theorem read_of_isPlainChar {inWord : Bool} {c : Char} (plain : isPlainChar c = true)
    (inside : inWord = true ∨ c.isDigit = false) (rest : List Char) :
    read inWord c rest = .ok ⟨.plain [c], 1, Nat.one_pos⟩ := by
  cases front inWord c with
  | blank blank => rcases blank with rfl | rfl <;> cases plain
  | backslash => cases plain
  | singleQuote => cases plain
  | doubleQuote => cases plain
  | hash => cases plain
  | dollar => cases plain
  | other whole =>
      rw [whole, readPlain, operatorAt_of_isPlainChar plain inside]

/-- An operator is read where it is spelled, unless what follows makes another one of it. -/
theorem operatorAt_text {kind : Operator} {inWord : Bool} {rest : List Char}
    (outside : inWord = true → kind.endsWord = true)
    (ends : kind.isWhole = true ∨ ∀ c ∈ rest.head?, c ∉ Operator.continuations) :
    operatorAt inWord (kind.text.toList ++ rest) = some (kind.text.toList, kind) := by
  have anywhere : inWord = false ∨ kind.endsWord = true := by
    cases inWord with
    | false => exact .inl rfl
    | true => exact .inr (outside rfl)
  have short : kind.isWhole = false →
      rest = [] ∨ ∃ c others, rest = c :: others ∧ c ≠ '>' ∧ c ≠ '|' ∧ c ≠ '&' := by
    intro partly
    rcases ends with whole | ends
    · rw [whole] at partly
      cases partly
    · cases rest with
      | nil => exact .inl rfl
      | cons c others =>
          exact .inr ⟨c, others, rfl, by simpa [Operator.continuations] using ends c rfl⟩
  cases kind with
  | semicolon | newline | openParen => cases inWord <;> rfl
  | orElse | andThen | closeParen | appendOut | readIn | appendError | errorToOut | outToError =>
      rcases anywhere with rfl | ends
      · rfl
      · cases ends
  | pipe | writeOut | writeError =>
      rcases anywhere with rfl | ends
      · rcases short rfl with rfl | ⟨c, others, rfl, arrow, bar, ampersand⟩
        · rfl
        · simp [operatorAt, numberedSpellings, operatorSpellings, Operator.text, arrow.symm,
            bar.symm, ampersand.symm]
      · cases ends

theorem read_operator {kind : Operator} {inWord : Bool} {rest : List Char}
    (outside : inWord = true → kind.endsWord = true)
    (ends : kind.isWhole = true ∨ ∀ c ∈ rest.head?, c ∉ Operator.continuations) :
    ∃ c others, kind.text.toList = c :: others ∧ ∃ reading : Reading,
      read inWord c (others ++ rest) = .ok reading ∧ reading.lexeme = .operator kind ∧
        reading.width = (c :: others).length := by
  have spelled := operatorAt_text outside ends
  have plain : ∃ c others, kind.text.toList = c :: others ∧
      ∀ rest, read inWord c rest = .ok (readPlain inWord c rest) := by
    cases kind <;> exact ⟨_, _, rfl, fun _ => rfl⟩
  obtain ⟨c, others, text, plain⟩ := plain
  rw [text, List.cons_append] at spelled
  refine ⟨c, others, text, _, plain _, ?_⟩
  rw [readPlain_of_operatorAt spelled]
  exact ⟨rfl, rfl⟩

theorem readSingle_quotable {text : List Char} (closed : '\'' ∉ text) (rest : List Char) :
    ∃ reading : Reading, readSingle (text ++ '\'' :: rest) = .ok reading ∧
      reading.lexeme = .quoted [⟨String.ofList text, .single⟩] ∧
        reading.width = text.length + 2 := by
  have whole : (text ++ '\'' :: rest).takeWhile (· != '\'') = text := by
    have solid : ∀ c ∈ text, (c != '\'') = true := by
      intro c member
      rw [bne_iff_ne]
      exact fun same => closed (same ▸ member)
    rw [List.takeWhile_append_of_pos solid]
    simp
  have shorter : text.length < (text ++ '\'' :: rest).length := by simp
  unfold readSingle
  simp only [whole]
  rw [if_pos shorter]
  exact ⟨_, rfl, rfl, rfl⟩

end Lexeme

/-! ## Scans of marks -/

namespace Scan

variable {scan : Scan}

theorem finish_blank (scan : Scan) (rest : List Char) :
    scan.finish (' ' :: rest) = (⟨scan.position + 1, none, scan.closedTokens⟩ : Scan).finish rest :=
  finish_cons (Lexeme.read_blank _ (.inl rfl) rest)

theorem finish_operator {kind : Operator} {rest : List Char}
    (outside : scan.draft.isSome = true → kind.endsWord = true)
    (ends : kind.isWhole = true ∨ ∀ c ∈ rest.head?, c ∉ Operator.continuations) :
    scan.finish (kind.text.toList ++ rest) =
      (⟨scan.position + kind.text.toList.length, none,
        .operator kind scan.position (scan.position + kind.text.toList.length) ::
          scan.closedTokens⟩ : Scan).finish rest := by
  obtain ⟨c, others, text, reading, found, lexeme, width⟩ := Lexeme.read_operator outside ends
  rw [text, List.cons_append, finish_cons found, width, ← List.cons_append, List.drop_left]
  simp only [advance, lexeme, width]

/-- Plain characters go on with a word. -/
theorem finish_plain {chars : List Char} (plain : chars.all isPlainChar = true) {draft : Draft}
    (opened : scan.draft = some draft) (rest : List Char) :
    scan.finish (chars ++ rest) =
      (⟨scan.position + chars.length, some (draft.addPlain chars), scan.tokens⟩ :
        Scan).finish rest := by
  induction chars generalizing scan draft with
  | nil =>
      obtain ⟨position, _, tokens⟩ := scan
      subst opened
      rfl
  | cons c chars inductionHypothesis =>
      rw [List.all_cons, Bool.and_eq_true] at plain
      have inside : scan.draft.isSome = true ∨ c.isDigit = false := by simp [opened]
      have read := Lexeme.read_of_isPlainChar plain.1 inside (chars ++ rest)
      have longer : scan.advance ⟨.plain [c], 1, Nat.one_pos⟩ =
          ⟨scan.position + 1, some (draft.addPlain [c]), scan.tokens⟩ := by
        simp [advance, openDraft, opened]
      rw [List.cons_append, finish_cons read, longer]
      simp only [List.drop_succ_cons, List.drop_zero]
      rw [inductionHypothesis plain.2 rfl]
      simp only [Draft.addPlain, List.length_cons, List.reverse_cons, List.append_assoc,
        List.reverse_nil, List.nil_append, List.singleton_append]
      rw [Nat.add_assoc, Nat.add_comm 1]

theorem finish_bare (closed : scan.draft = none) (word : BareWord) (rest : List Char) :
    scan.finish (word.text.toList ++ rest) =
      (⟨scan.position + word.text.toList.length,
        some ⟨scan.position, [], word.text.toList.reverse⟩, scan.tokens⟩ : Scan).finish rest := by
  obtain ⟨c, others, chars, plain, noDigit, onward⟩ := word.exists_cons
  have read : Lexeme.read scan.draft.isSome c (others ++ rest) =
      .ok ⟨.plain [c], 1, Nat.one_pos⟩ :=
    Lexeme.read_of_isPlainChar plain (.inr noDigit) (others ++ rest)
  have opened : scan.advance ⟨.plain [c], 1, Nat.one_pos⟩ =
      ⟨scan.position + 1, some ⟨scan.position, [], [c]⟩, scan.tokens⟩ := by
    simp [advance, openDraft, closed, Draft.addPlain]
  rw [chars, List.cons_append, finish_cons read, opened]
  show Scan.finish _ (others ++ rest) = _
  rw [finish_plain onward rfl]
  simp only [Draft.addPlain, List.length_cons, List.reverse_cons]
  rw [Nat.add_assoc, Nat.add_comm 1]

theorem finish_quoted (closed : scan.draft = none) (word : Quotable) (rest : List Char) :
    scan.finish ('\'' :: (word.text.toList ++ '\'' :: rest)) =
      (⟨scan.position + (word.text.toList.length + 2),
        some ⟨scan.position, [⟨word.text, .single⟩], []⟩, scan.tokens⟩ : Scan).finish rest := by
  obtain ⟨reading, found, lexeme, width⟩ := Lexeme.readSingle_quotable word.closed rest
  rw [← Lexeme.read_singleQuote scan.draft.isSome] at found
  have behind : ('\'' :: (word.text.toList ++ '\'' :: rest)).drop reading.width = rest := by
    have split : '\'' :: (word.text.toList ++ '\'' :: rest) =
        ('\'' :: (word.text.toList ++ ['\''])) ++ rest := by simp
    rw [split, width]
    exact List.drop_left' (by simp)
  rw [finish_cons found, behind]
  simp [advance, lexeme, width, openDraft, closed, Draft.addQuoted, Draft.settled]

theorem word_of_bare (word : BareWord) (start stop : Nat) :
    (Draft.mk start [] word.text.toList.reverse).word stop =
      ⟨[⟨word.text, .unquoted⟩], start, stop⟩ := by
  have filled : word.text.toList.reverse.isEmpty = false := by
    obtain ⟨c, others, chars, -⟩ := word.exists_cons
    simp [chars]
  simp [Draft.word, Draft.settled, filled]

theorem draft_eq_none_of_not_endsWord {mark : Mark}
    (ready : scan.draft.isSome = true → mark.endsWord = true) (inner : mark.endsWord = false) :
    scan.draft = none := by
  cases opened : scan.draft with
  | none => rfl
  | some draft =>
      rw [opened, inner] at ready
      cases ready rfl

/-- Marks that admit each other are scanned one by one. -/
theorem finish_spell {marks : List Mark} (chained : marks.IsChain fun mark next => mark.admits next)
    (ready : ∀ mark ∈ marks.head?, scan.draft.isSome = true → mark.endsWord = true) :
    scan.finish (spell marks) =
      .ok (scan.closedTokens.reverse ++ tokensAt scan.position marks) := by
  induction marks generalizing scan with
  | nil => rw [tokensAt, List.append_nil]; exact finish_nil
  | cons mark rest inductionHypothesis =>
      obtain ⟨next, onward⟩ := List.isChain_cons.1 chained
      have outside := ready mark rfl
      rw [spell_cons]
      cases mark with
      | blank =>
          change scan.finish (' ' :: spell rest) = _
          rw [finish_blank, inductionHypothesis onward (by simp)]
          rfl
      | operator kind =>
          have ends : kind.isWhole = true ∨
              ∀ c ∈ (spell rest).head?, c ∉ Operator.continuations := by
            cases rest with
            | nil => exact .inr (by simp [spell])
            | cons following others =>
                have admitted := next following rfl
                simp only [Mark.admits, Bool.or_eq_true] at admitted
                refine admitted.imp id fun blank => ?_
                cases following with
                | blank => simp [spell_cons, Mark.spelling, Operator.continuations]
                | bare | quoted | operator => cases blank
          rw [Mark.spelling, finish_operator outside ends,
            inductionHypothesis onward (by simp), closedTokens, List.reverse_cons,
            List.append_assoc]
          rfl
      | bare word =>
          have closed := draft_eq_none_of_not_endsWord outside rfl
          rw [Mark.spelling, finish_bare closed,
            inductionHypothesis onward fun mark member _ => next mark member,
            reverse_closedTokens rfl, word_of_bare, List.append_assoc, closedTokens, closed]
          rfl
      | quoted word =>
          have closed := draft_eq_none_of_not_endsWord outside rfl
          have spelled : Mark.spelling (.quoted word) ++ spell rest =
              '\'' :: (word.text.toList ++ '\'' :: spell rest) := by simp [Mark.spelling]
          have length : word.text.toList.length + 2 = (Mark.spelling (.quoted word)).length := by
            simp [Mark.spelling]
          rw [spelled, finish_quoted closed,
            inductionHypothesis onward fun mark member _ => next mark member,
            reverse_closedTokens rfl, List.append_assoc, closedTokens, closed, length]
          rfl

end Scan

/-- A line whose marks admit each other is scanned to the tokens of its marks. -/
theorem scan_spell {marks : List Mark}
    (chained : marks.IsChain fun mark next => mark.admits next) :
    Token.scan (String.ofList (spell marks)) = .ok (tokensAt 0 marks) := by
  rw [Token.scan, String.toList_ofList, Scan.finish_spell chained (by simp [Scan.initial])]
  rfl

end VirtualShell
