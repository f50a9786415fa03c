import VirtualShell.Token.Lexeme

/-!
Contract: a lexeme depends on the characters that it takes, and on no others.

Owns:
- `width_le_length`: a lexeme takes characters of the line only;
- `read_append`: what follows a lexeme does not matter for it;
- `Origin`, what each kind of lexeme was read from;
- `read_of_operator`: an operator behind a word is read as the same operator where no word
  is in progress.
-/

namespace VirtualShell.Lexeme

/-- A run that ends among the first characters does not depend on what follows them. -/
theorem takeWhile_append_of_le {p : Char → Bool} {front back : List Char}
    (fits : ((front ++ back).takeWhile p).length ≤ front.length) :
    (front ++ back).takeWhile p = front.takeWhile p := by
  rw [List.takeWhile_append] at fits ⊢
  split
  · rename_i whole
    rw [if_pos whole, List.length_append] at fits
    have none : back.takeWhile p = [] := List.length_eq_zero_iff.1 (by omega)
    rw [none, List.append_nil]
    exact ((List.takeWhile_prefix p).eq_of_length whole).symm
  · rfl

variable {rest behind : List Char} {reading : Reading}

/-! ## Quotes and escapes -/

theorem readEscape_append (fits : (readEscape (rest ++ behind)).width ≤ rest.length + 1) :
    readEscape rest = readEscape (rest ++ behind) := by
  cases rest with
  | nil =>
      cases behind with
      | nil => rfl
      | cons c behind =>
          rw [List.nil_append] at fits
          unfold readEscape at fits
          split at fits
          · contradiction
          · simp at fits
          · simp at fits
  | cons c rest =>
      by_cases joined : c = '\n'
      · rw [joined]
        rfl
      · rw [List.cons_append, readEscape, readEscape]
        · simp [joined]
        · simp [joined]

theorem readSingle_append (found : readSingle (rest ++ behind) = .ok reading)
    (fits : reading.width ≤ rest.length + 1) : readSingle rest = .ok reading := by
  unfold readSingle at found ⊢
  simp only at found ⊢
  split at found
  · cases found
    simp only at fits
    have same : (rest ++ behind).takeWhile (· != '\'') = rest.takeWhile (· != '\'') :=
      takeWhile_append_of_le (by omega)
    simp only [same] at fits ⊢
    rw [if_pos (by omega)]
  · cases found

/-- The closing quote is among the characters read. -/
theorem doubleQuoted_width_pos {buffer chars : List Char} {segments : List Segment} {width : Nat}
    (found : doubleQuoted buffer chars = some (segments, width)) : 0 < width := by
  unfold doubleQuoted at found
  split at found
  · cases found
  · cases found
    exact Nat.one_pos
  · rcases Option.map_eq_some_iff.1 found with ⟨inner, -, same⟩
    cases same
    exact Nat.succ_pos _
  · split at found
    · rcases Option.map_eq_some_iff.1 found with ⟨inner, -, same⟩
      cases same
      exact Nat.succ_pos _
    · rcases Option.map_eq_some_iff.1 found with ⟨inner, -, same⟩
      cases same
      exact Nat.succ_pos _
  · rcases Option.map_eq_some_iff.1 found with ⟨inner, -, same⟩
    cases same
    exact Nat.succ_pos _

theorem doubleQuoted_width_le {buffer chars : List Char} {segments : List Segment} {width : Nat}
    (found : doubleQuoted buffer chars = some (segments, width)) : width ≤ chars.length := by
  fun_induction doubleQuoted buffer chars generalizing segments width with
  | case1 => cases found
  | case2 =>
      cases found
      exact Nat.le_add_left _ _
  | case3 buffer chars inductionHypothesis =>
      rcases Option.map_eq_some_iff.1 found with ⟨inner, present, same⟩
      cases same
      exact Nat.add_le_add_right (inductionHypothesis present) 2
  | case4 buffer c chars notJoint escape inductionHypothesis =>
      rcases Option.map_eq_some_iff.1 found with ⟨inner, present, same⟩
      cases same
      exact Nat.add_le_add_right (inductionHypothesis present) 2
  | case5 buffer c chars notJoint plain inductionHypothesis =>
      rcases Option.map_eq_some_iff.1 found with ⟨inner, present, same⟩
      cases same
      exact Nat.succ_le_succ (inductionHypothesis present)
  | case6 buffer c chars notQuote notJoint notEscape inductionHypothesis =>
      rcases Option.map_eq_some_iff.1 found with ⟨inner, present, same⟩
      cases same
      exact Nat.succ_le_succ (inductionHypothesis present)

theorem doubleQuoted_cons {buffer chars : List Char} {c : Char} (notQuote : c ≠ '"')
    (notEscape : c ≠ '\\') :
    doubleQuoted buffer (c :: chars) =
      (doubleQuoted (c :: buffer) chars).map fun (segments, width) => (segments, width + 1) := by
  rw [doubleQuoted]
  · exact notQuote
  · exact fun _ same => absurd same notEscape
  · exact fun _ _ same => absurd same notEscape

/-- A backslash is read together with the character behind it. -/
theorem two_le_width_of_backslash {buffer chars : List Char} {segments : List Segment}
    {width : Nat} (found : doubleQuoted buffer ('\\' :: chars) = some (segments, width)) :
    2 ≤ width := by
  cases chars with
  | nil =>
      simp [doubleQuoted] at found
  | cons c chars =>
      unfold doubleQuoted at found
      split at found
      · cases found
      · rename_i same
        exact absurd (List.cons.inj same).1 (by decide)
      · rcases Option.map_eq_some_iff.1 found with ⟨inner, -, same⟩
        cases same
        exact Nat.le_add_left _ _
      · split at found
        · rcases Option.map_eq_some_iff.1 found with ⟨inner, -, same⟩
          cases same
          exact Nat.le_add_left _ _
        · rcases Option.map_eq_some_iff.1 found with ⟨⟨inner, innerWidth⟩, present, same⟩
          cases same
          have := doubleQuoted_width_pos present
          omega
      · rcases Option.map_eq_some_iff.1 found with ⟨⟨inner, innerWidth⟩, present, same⟩
        cases same
        have := doubleQuoted_width_pos present
        omega

theorem doubleQuoted_append {buffer : List Char} {segments : List Segment} {width : Nat}
    (found : doubleQuoted buffer (rest ++ behind) = some (segments, width))
    (fits : width ≤ rest.length) : doubleQuoted buffer rest = some (segments, width) := by
  fun_induction doubleQuoted buffer rest generalizing segments width with
  | case1 =>
      have := doubleQuoted_width_pos found
      rw [List.length_nil] at fits
      omega
  | case2 => exact found
  | case3 buffer chars inductionHypothesis =>
      rcases Option.map_eq_some_iff.1 found with ⟨⟨inner, innerWidth⟩, present, same⟩
      cases same
      rw [inductionHypothesis present (by simp only [List.length_cons] at fits; omega)]
      rfl
  | case4 buffer c chars notJoint escape inductionHypothesis =>
      simp only [List.cons_append] at found
      rw [doubleQuoted, if_pos escape] at found
      · rcases Option.map_eq_some_iff.1 found with ⟨⟨inner, innerWidth⟩, present, same⟩
        cases same
        rw [inductionHypothesis present (by simp only [List.length_cons] at fits; omega)]
        rfl
      · exact notJoint
  | case5 buffer c chars notJoint plain inductionHypothesis =>
      simp only [List.cons_append] at found
      rw [doubleQuoted, if_neg plain] at found
      · rcases Option.map_eq_some_iff.1 found with ⟨⟨inner, innerWidth⟩, present, same⟩
        cases same
        rw [inductionHypothesis present (by simp only [List.length_cons] at fits ⊢; omega)]
        rfl
      · exact notJoint
  | case6 buffer c chars notQuote notJoint notEscape inductionHypothesis =>
      by_cases escape : c = '\\'
      · have alone : chars = [] := by
          cases chars with
          | nil => rfl
          | cons d chars => exact absurd rfl (notEscape d chars escape)
        rw [alone, escape] at found
        have := two_le_width_of_backslash found
        rw [alone] at fits
        simp only [List.length_cons, List.length_nil] at fits
        omega
      · rw [List.cons_append, doubleQuoted_cons notQuote escape] at found
        rcases Option.map_eq_some_iff.1 found with ⟨⟨inner, innerWidth⟩, present, same⟩
        cases same
        rw [inductionHypothesis present (by simp only [List.length_cons] at fits; omega)]
        rfl

theorem readDouble_append (found : readDouble (rest ++ behind) = .ok reading)
    (fits : reading.width ≤ rest.length + 1) : readDouble rest = .ok reading := by
  unfold readDouble at found ⊢
  split at found
  · rename_i segments width quoted
    cases found
    rw [doubleQuoted_append quoted (Nat.le_of_succ_le_succ fits)]
  · cases found

/-! ## References and operators -/

theorem three_le_length_of_bracedReference? {chars text : List Char}
    (found : bracedReference? chars = some text) : 3 ≤ text.length := by
  unfold bracedReference? at found
  split at found
  · simp only at found
    split at found
    · cases found
      simp
    · cases found
  · cases found

theorem length_le_of_bracedReference? {chars text : List Char}
    (found : bracedReference? chars = some text) : text.length ≤ chars.length + 1 := by
  unfold bracedReference? at found
  split at found
  · simp only at found
    split at found
    · cases found
      simp only [List.length_append, List.length_cons, List.length_nil]
      omega
    · cases found
  · cases found

/-- Without what follows, a reference is closed where it was, or it is none. -/
theorem bracedReference?_append
    (fits : ∀ text, bracedReference? (rest ++ behind) = some text → text.length ≤ rest.length + 1) :
    bracedReference? rest = bracedReference? (rest ++ behind) := by
  cases rest with
  | nil =>
      rw [List.nil_append] at fits ⊢
      cases found : bracedReference? behind with
      | none => rfl
      | some text =>
          have := three_le_length_of_bracedReference? found
          have := fits text found
          rw [List.length_nil] at this
          omega
  | cons c rest =>
      by_cases opening : c = '\x7b'
      · rw [opening, List.cons_append] at fits ⊢
        unfold bracedReference? at fits ⊢
        simp only at fits ⊢
        split at fits
        · have bound := fits _ rfl
          simp only [List.length_append, List.length_cons, List.length_nil] at bound
          have same : (rest ++ behind).takeWhile (· != '\x7d') = rest.takeWhile (· != '\x7d') :=
            takeWhile_append_of_le (by omega)
          rw [same] at bound ⊢
          rw [if_pos (by omega), if_pos (by rw [List.length_append]; omega)]
        · rename_i unclosed
          rw [if_neg unclosed, if_neg]
          intro closed
          apply unclosed
          rw [List.takeWhile_append, if_neg (Nat.ne_of_lt closed), List.length_append]
          omega
      · rw [List.cons_append, bracedReference?, bracedReference?]
        · exact fun _ same => opening (List.cons.inj same).1
        · exact fun _ same => opening (List.cons.inj same).1

theorem find?_isPrefixOf_append {entries : List (List Char × Operator)} {chars : List Char}
    (fits : ∀ entry, entries.find? (fun entry => entry.1.isPrefixOf (chars ++ behind)) =
      some entry → entry.1.length ≤ chars.length) :
    entries.find? (fun entry => entry.1.isPrefixOf chars) =
      entries.find? fun entry => entry.1.isPrefixOf (chars ++ behind) := by
  induction entries with
  | nil => rfl
  | cons entry entries inductionHypothesis =>
      rw [List.find?_cons, List.find?_cons] 
      rw [List.find?_cons] at fits
      cases whole : entry.1.isPrefixOf (chars ++ behind) with
      | true =>
          rw [whole] at fits
          have within : entry.1 <+: chars := List.prefix_of_prefix_length_le
            (List.isPrefixOf_iff_prefix.1 whole) (List.prefix_append chars behind)
            (fits entry rfl)
          rw [List.isPrefixOf_iff_prefix.2 within]
      | false =>
          rw [whole] at fits
          have apart : entry.1.isPrefixOf chars = false := by
            rw [Bool.eq_false_iff] at whole ⊢
            exact fun within => whole (List.isPrefixOf_iff_prefix.2
              ((List.isPrefixOf_iff_prefix.1 within).trans (List.prefix_append chars behind)))
          rw [apart]
          exact inductionHypothesis fits

theorem operatorAt_spelling {inWord : Bool} {chars spelling : List Char} {kind : Operator}
    (found : operatorAt inWord chars = some (spelling, kind)) :
    (spelling, kind) ∈ numberedSpellings ++ operatorSpellings := by
  have member := List.mem_of_find?_eq_some found
  cases inWord with
  | true => exact List.mem_append_right _ member
  | false => exact member

theorem length_pos_of_spelling {entry : List Char × Operator}
    (member : entry ∈ numberedSpellings ++ operatorSpellings) : 0 < entry.1.length := by
  have positive : ∀ entry ∈ numberedSpellings ++ operatorSpellings, 0 < entry.1.length := by decide
  exact positive entry member

theorem readPlain_of_operatorAt {inWord : Bool} {c : Char} {chars spelling : List Char}
    {kind : Operator} (found : operatorAt inWord (c :: chars) = some (spelling, kind)) :
    readPlain inWord c chars =
      ⟨.operator kind, spelling.length, length_pos_of_spelling (operatorAt_spelling found)⟩ := by
  have positive := length_pos_of_spelling (operatorAt_spelling found)
  unfold readPlain
  rw [found]
  exact dif_pos positive

theorem readPlain_append {inWord : Bool} {c : Char}
    (fits : (readPlain inWord c (rest ++ behind)).width ≤ rest.length + 1) :
    readPlain inWord c rest = readPlain inWord c (rest ++ behind) := by
  have same : operatorAt inWord (c :: rest) = operatorAt inWord (c :: rest ++ behind) := by
    refine find?_isPrefixOf_append fun entry found => ?_
    have operator : operatorAt inWord (c :: (rest ++ behind)) = some (entry.1, entry.2) := found
    rw [readPlain_of_operatorAt operator] at fits
    exact fits
  unfold readPlain
  rw [same]
  rfl

/-! ## Lexemes -/

theorem read_blank (inWord : Bool) {c : Char} (blank : c = ' ' ∨ c = '\t') (rest : List Char) :
    read inWord c rest = .ok ⟨.blank, 1, Nat.one_pos⟩ :=
  if_pos blank

theorem read_backslash (inWord : Bool) (rest : List Char) :
    read inWord '\\' rest = .ok (readEscape rest) :=
  rfl

theorem read_singleQuote (inWord : Bool) (rest : List Char) :
    read inWord '\'' rest = readSingle rest :=
  rfl

theorem read_doubleQuote (inWord : Bool) (rest : List Char) :
    read inWord '"' rest = readDouble rest :=
  rfl

theorem read_hash (rest : List Char) :
    read false '#' rest =
      .ok ⟨.comment, (rest.takeWhile (· != '\n')).length + 1, Nat.succ_pos _⟩ :=
  rfl

theorem read_dollar (inWord : Bool) (rest : List Char) :
    read inWord '$' rest =
      match bracedReference? rest with
      | some text => .ok (if positive : 0 < text.length then ⟨.plain text, text.length, positive⟩
          else ⟨.plain ['$'], 1, Nat.one_pos⟩)
      | none => .ok ⟨.plain ['$'], 1, Nat.one_pos⟩ :=
  rfl

theorem read_dollar_none (inWord : Bool) {rest : List Char}
    (unclosed : bracedReference? rest = none) :
    read inWord '$' rest = .ok ⟨.plain ['$'], 1, Nat.one_pos⟩ := by
  rw [read_dollar, unclosed]

theorem read_dollar_some (inWord : Bool) {rest text : List Char}
    (closed : bracedReference? rest = some text) :
    read inWord '$' rest = .ok ⟨.plain text, text.length,
      Nat.lt_of_lt_of_le (by decide) (three_le_length_of_bracedReference? closed)⟩ := by
  rw [read_dollar, closed]
  exact congrArg Except.ok (dif_pos _)

/-- How a lexeme that starts with a character is read. -/
inductive Front (inWord : Bool) : Char → Prop where
  | blank {c : Char} (blank : c = ' ' ∨ c = '\t') : Front inWord c
  | backslash : Front inWord '\\'
  | singleQuote : Front inWord '\''
  | doubleQuote : Front inWord '"'
  | hash (outside : inWord = false) : Front inWord '#'
  | dollar : Front inWord '$'
  | other {c : Char} (plain : ∀ rest, read inWord c rest = .ok (readPlain inWord c rest)) :
      Front inWord c

theorem front (inWord : Bool) (c : Char) : Front inWord c := by
  by_cases blank : c = ' ' ∨ c = '\t'
  · exact .blank blank
  · by_cases escape : c = '\\'
    · exact escape ▸ .backslash
    · by_cases single : c = '\''
      · exact single ▸ .singleQuote
      · by_cases double : c = '"'
        · exact double ▸ .doubleQuote
        · by_cases comment : c = '#' ∧ inWord = false
          · exact comment.1 ▸ .hash comment.2
          · by_cases dollar : c = '$'
            · exact dollar ▸ .dollar
            · refine .other fun rest => ?_
              unfold read
              rw [if_neg blank, if_neg escape, if_neg single, if_neg double, if_neg comment,
                if_neg dollar]

theorem width_readPlain_le {inWord : Bool} {c : Char} :
    (readPlain inWord c rest).width ≤ rest.length + 1 := by
  cases spelled : operatorAt inWord (c :: rest) with
  | none =>
      unfold readPlain
      rw [spelled]
      exact Nat.le_add_left _ _
  | some entry =>
      rcases entry with ⟨spelling, kind⟩
      rw [readPlain_of_operatorAt spelled]
      have fits := List.find?_some spelled
      exact (List.isPrefixOf_iff_prefix.1 fits).length_le

/-- A lexeme takes characters of the line only. -/
theorem width_le_length {inWord : Bool} {c : Char} (found : read inWord c rest = .ok reading) :
    reading.width ≤ rest.length + 1 := by
  cases front inWord c with
  | blank blank =>
      rw [read_blank inWord blank] at found
      cases found
      exact Nat.le_add_left _ _
  | backslash =>
      rw [read_backslash] at found
      cases found
      unfold readEscape
      split <;> simp
  | singleQuote =>
      rw [read_singleQuote] at found
      unfold readSingle at found
      simp only at found
      split at found
      · cases found
        simp only
        omega
      · cases found
  | doubleQuote =>
      rw [read_doubleQuote] at found
      unfold readDouble at found
      split at found
      · rename_i segments width quoted
        cases found
        exact Nat.succ_le_succ (doubleQuoted_width_le quoted)
      · cases found
  | hash outside =>
      rw [outside, read_hash] at found
      cases found
      exact Nat.succ_le_succ (List.takeWhile_prefix _).length_le
  | dollar =>
      cases reference : bracedReference? rest with
      | none =>
          rw [read_dollar_none inWord reference] at found
          cases found
          exact Nat.le_add_left _ _
      | some text =>
          rw [read_dollar_some inWord reference] at found
          cases found
          exact length_le_of_bracedReference? reference
  | other plain =>
      rw [plain] at found
      cases found
      exact width_readPlain_le

/-- What follows a lexeme does not matter for it. -/
theorem read_append {inWord : Bool} {c : Char}
    (found : read inWord c (rest ++ behind) = .ok reading)
    (fits : reading.width ≤ rest.length + 1) : read inWord c rest = .ok reading := by
  cases front inWord c with
  | blank blank =>
      rw [read_blank inWord blank] at found ⊢
      exact found
  | backslash =>
      rw [read_backslash] at found ⊢
      cases found
      rw [readEscape_append fits]
  | singleQuote => exact readSingle_append found fits
  | doubleQuote => exact readDouble_append found fits
  | hash outside =>
      rw [outside, read_hash] at found ⊢
      cases found
      have same : (rest ++ behind).takeWhile (· != '\n') = rest.takeWhile (· != '\n') :=
        takeWhile_append_of_le (Nat.le_of_succ_le_succ fits)
      simp only [same]
  | dollar =>
      have same : bracedReference? rest = bracedReference? (rest ++ behind) := by
        refine bracedReference?_append fun text some => ?_
        rw [read_dollar_some inWord some] at found
        cases found
        exact fits
      cases reference : bracedReference? (rest ++ behind) with
      | none =>
          rw [read_dollar_none inWord reference] at found
          rw [read_dollar_none inWord (same.trans reference)]
          exact found
      | some text =>
          rw [read_dollar_some inWord reference] at found
          rw [read_dollar_some inWord (same.trans reference)]
          exact found
  | other plain =>
      rw [plain] at found ⊢
      cases found
      rw [readPlain_append fits]

/-- What a lexeme was read from. -/
inductive Origin (inWord : Bool) (c : Char) (rest : List Char) (reading : Reading) : Prop where
  | blank (front : c = ' ' ∨ c = '\t') (lexeme : reading.lexeme = .blank)
      (width : reading.width = 1)
  | joint (front : c = '\\') {more : List Char} (behind : rest = '\n' :: more)
      (lexeme : reading.lexeme = .joint) (width : reading.width = 2)
  | comment (front : c = '#') (outside : inWord = false) (lexeme : reading.lexeme = .comment)
      (width : reading.width = (rest.takeWhile (· != '\n')).length + 1)
  | operator {spelling : List Char} {kind : Operator}
      (spelled : operatorAt inWord (c :: rest) = some (spelling, kind))
      (lexeme : reading.lexeme = .operator kind) (width : reading.width = spelling.length)
  | plain {text : List Char} (lexeme : reading.lexeme = .plain text)
  | quoted {segments : List Segment} (lexeme : reading.lexeme = .quoted segments)

theorem origin {inWord : Bool} {c : Char} (found : read inWord c rest = .ok reading) :
    Origin inWord c rest reading := by
  cases front inWord c with
  | blank blank =>
      rw [read_blank inWord blank] at found
      cases found
      exact .blank blank rfl rfl
  | backslash =>
      rw [read_backslash] at found
      cases found
      unfold readEscape
      split
      · exact .quoted rfl
      · exact .joint rfl rfl rfl rfl
      · exact .quoted rfl
  | singleQuote =>
      rw [read_singleQuote] at found
      unfold readSingle at found
      simp only at found
      split at found
      · cases found
        exact .quoted rfl
      · cases found
  | doubleQuote =>
      rw [read_doubleQuote] at found
      unfold readDouble at found
      split at found
      · cases found
        exact .quoted rfl
      · cases found
  | hash outside =>
      rw [outside, read_hash] at found
      cases found
      exact .comment rfl outside rfl rfl
  | dollar =>
      cases reference : bracedReference? rest with
      | none =>
          rw [read_dollar_none inWord reference] at found
          cases found
          exact .plain rfl
      | some text =>
          rw [read_dollar_some inWord reference] at found
          cases found
          exact .plain rfl
  | other plain =>
      rw [plain] at found
      cases found
      cases spelled : operatorAt inWord (c :: rest) with
      | none =>
          unfold readPlain
          rw [spelled]
          exact .plain rfl
      | some entry =>
          rw [readPlain_of_operatorAt spelled]
          exact .operator spelled rfl rfl

/-- An operator is read from its spelling. -/
theorem operatorAt_of_read {inWord : Bool} {c : Char} {kind : Operator}
    (found : read inWord c rest = .ok reading) (operator : reading.lexeme = .operator kind) :
    ∃ spelling, operatorAt inWord (c :: rest) = some (spelling, kind) := by
  cases origin found with
  | blank _ lexeme _ => exact absurd (lexeme.symm.trans operator) (by simp)
  | joint _ _ lexeme _ => exact absurd (lexeme.symm.trans operator) (by simp)
  | comment _ _ lexeme _ => exact absurd (lexeme.symm.trans operator) (by simp)
  | plain lexeme => exact absurd (lexeme.symm.trans operator) (by simp)
  | quoted lexeme => exact absurd (lexeme.symm.trans operator) (by simp)
  | @operator spelling other spelled lexeme _ =>
      rw [lexeme] at operator
      cases operator
      exact ⟨spelling, spelled⟩

theorem operatorAt_true (chars : List Char) :
    operatorAt true chars = operatorSpellings.find? fun entry => entry.1.isPrefixOf chars :=
  rfl

theorem operatorAt_false (chars : List Char) :
    operatorAt false chars =
      (numberedSpellings ++ operatorSpellings).find? fun entry => entry.1.isPrefixOf chars :=
  rfl

/-- The characters that operators start with behind a word. -/
def operatorFronts : List Char := ['>', '|', '&', '<', ';', '\n', '(', ')']

theorem mem_operatorFronts {c : Char} {spelling : List Char} {kind : Operator}
    (found : operatorAt true (c :: rest) = some (spelling, kind)) : c ∈ operatorFronts := by
  have fronts : ∀ entry ∈ operatorSpellings,
      entry.1.head?.all operatorFronts.contains = true := by decide
  rw [operatorAt_true] at found
  have member : (spelling, kind) ∈ operatorSpellings := List.mem_of_find?_eq_some found
  have fits := List.find?_some found
  have matched : spelling <+: c :: rest := List.isPrefixOf_iff_prefix.1 fits
  have positive := length_pos_of_spelling (List.mem_append_right _ member)
  cases spelling with
  | nil => exact absurd positive (Nat.lt_irrefl 0)
  | cons d spelling =>
      have same : d = c := (List.cons_prefix_cons.1 matched).1
      have contained : operatorFronts.contains d = true := fronts _ member
      rw [same] at contained
      exact List.contains_iff_mem.1 contained

/-- No operator that needs the front of a word starts as the others do. -/
theorem find?_numberedSpellings {c : Char} (front : c ∈ operatorFronts) :
    numberedSpellings.find? (fun entry => entry.1.isPrefixOf (c :: rest)) = none := by
  have digits : ∀ entry ∈ numberedSpellings,
      entry.1.head?.all (fun c => !operatorFronts.contains c) = true := by decide
  rw [List.find?_eq_none]
  intro entry member matched
  have before : entry.1 <+: c :: rest := List.isPrefixOf_iff_prefix.1 matched
  have positive := length_pos_of_spelling (List.mem_append_left _ member)
  rcases entry with ⟨_ | ⟨d, spelling⟩, kind⟩
  · exact absurd positive (Nat.lt_irrefl 0)
  · have digit : (!operatorFronts.contains d) = true := digits _ member
    rw [(List.cons_prefix_cons.1 before).1, List.contains_iff_mem.2 front] at digit
    cases digit

/-- An operator behind a word is the same operator where no word is in progress. -/
theorem read_of_operator {c : Char} {kind : Operator} (found : read true c rest = .ok reading)
    (operator : reading.lexeme = .operator kind) : read false c rest = .ok reading := by
  rcases operatorAt_of_read found operator with ⟨spelling, spelled⟩
  have front := mem_operatorFronts spelled
  have anywhere : operatorAt false (c :: rest) = operatorAt true (c :: rest) := by
    rw [operatorAt_false, operatorAt_true, List.find?_append, find?_numberedSpellings front]
    rfl
  have plain : ∀ inWord, read inWord c rest = .ok (readPlain inWord c rest) := by
    intro inWord
    simp only [operatorFronts, List.mem_cons, List.not_mem_nil, or_false] at front
    rcases front with rfl | rfl | rfl | rfl | rfl | rfl | rfl | rfl <;> rfl
  rw [plain] at found ⊢
  rw [← found, readPlain, readPlain, anywhere]

end VirtualShell.Lexeme
