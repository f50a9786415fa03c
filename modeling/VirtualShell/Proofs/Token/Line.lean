import VirtualShell.Proofs.Fallible
import VirtualShell.Proofs.Token.Stretch
import VirtualShell.Proofs.Token.Trim

/-!
Contract: the tokens of a line that holds something to run and no line break.

Owns:
- `IsFilledLine`, a line whose white space is spaces and tabs, and that starts with something
  else than a comment;
- `IsFilledLine.tokens_ne_nil`: such a line has tokens;
- `IsFilledLine.textFrom`: from each of its tokens on it is such a line again.
-/

namespace VirtualShell

open VirtualShell.Text

/-- The only white space is spaces and tabs, and the first character behind them starts no
comment. -/
structure IsFilledLine (chars : List Char) : Prop where
  narrow : ∀ c ∈ chars, isBlank c = true → c = ' ' ∨ c = '\t'
  opens : ∃ c, (trimStart chars).head? = some c ∧ c ≠ '#'

theorem isFilledLine_iff (chars : List Char) :
    IsFilledLine chars ↔
      chars.all (fun c => !isBlank c || (c == ' ' || c == '\t')) = true ∧
        (trimStart chars).head?.any (· != '#') = true := by
  constructor
  · rintro ⟨narrow, c, front, noComment⟩
    constructor
    · rw [List.all_eq_true]
      intro d member
      cases blank : isBlank d with
      | false => rfl
      | true => simpa using narrow d member blank
    · simpa [front] using noComment
  · rintro ⟨narrow, opens⟩
    constructor
    · intro d member blank
      have found := List.all_eq_true.1 narrow d member
      rw [blank] at found
      simpa using found
    · cases front : (trimStart chars).head? with
      | none =>
          rw [front] at opens
          cases opens
      | some c =>
          rw [front] at opens
          exact ⟨c, rfl, by simpa using opens⟩

instance (chars : List Char) : Decidable (IsFilledLine chars) :=
  decidable_of_iff _ (isFilledLine_iff chars).symm

namespace Scan

variable {chars : List Char} {tokens more : List Token} {token : Token}

/-- No token starts before the place where the scan begins. -/
theorem start_le_of_finish {position : Nat}
    (finished : (⟨position, none, []⟩ : Scan).finish chars = .ok tokens)
    (member : token ∈ tokens) : position ≤ token.start := by
  have moved : (⟨position, none, []⟩ : Scan) = initial.rebased position [] := rebased_initial rfl
  rw [moved, finish_rebased] at finished
  obtain ⟨own, -, same⟩ := Fallible.exists_of_map finished
  rw [← same, List.reverse_nil, List.nil_append] at member
  obtain ⟨inner, -, rfl⟩ := List.mem_map.1 member
  cases inner with
  | word word => exact Nat.le_add_left position word.start
  | operator kind start stop => exact Nat.le_add_left position start

theorem operator_newline {c : Char} {rest : List Char} {spelling : List Char} {inWord : Bool}
    (spelled : Lexeme.operatorAt inWord (c :: rest) = some (spelling, .newline)) : c = '\n' := by
  have only : ∀ entry ∈ Lexeme.numberedSpellings ++ Lexeme.operatorSpellings,
      entry.2 = .newline → entry.1 = ['\n'] := by decide
  have single : spelling = ['\n'] := only _ (Lexeme.operatorAt_spelling spelled) rfl
  have fits := List.find?_some spelled
  rw [single] at fits
  exact (List.cons_prefix_cons.1 (List.isPrefixOf_iff_prefix.1 fits)).1.symm

/-- A token that starts a stretch of a line starts with a character that no blank and no comment
starts with, and a line break is one. -/
theorem first_of_finish (finished : initial.finish chars = .ok (token :: more))
    (front : token.start = 0) :
    ∃ c rest, chars = c :: rest ∧ ¬ (c = ' ' ∨ c = '\t') ∧ c ≠ '#' ∧
      (token.isNewline → c = '\n') := by
  cases chars with
  | nil =>
      rw [finish_nil] at finished
      cases finished
  | cons c rest =>
      cases found : Lexeme.read initial.draft.isSome c rest with
      | error error =>
          rw [finish, found] at finished
          cases finished
      | ok reading =>
          rw [finish_cons found] at finished
          -- A lexeme that starts no token leaves the first token further behind.
          have solid : initial.advance reading ≠ ⟨0 + reading.width, none, []⟩ := by
            intro quiet
            rw [quiet] at finished
            have later := start_le_of_finish finished List.mem_cons_self
            have positive := reading.width_pos
            omega
          refine ⟨c, rest, rfl, ?_, ?_, ?_⟩
          · intro blank
            rw [Lexeme.read_blank _ blank] at found
            cases found
            exact solid rfl
          · rintro rfl
            cases found
            exact solid rfl
          · intro newline
            have prefixed := tokens_isPrefix finished
            have spec := advance_spec initial reading
            generalize initial.advance reading = next at spec solid prefixed finished
            cases spec with
            | quiet => exact absurd rfl solid
            | closing => exact absurd rfl solid
            | operator lexeme =>
                obtain ⟨spelling, spelled⟩ := Lexeme.operatorAt_of_read found lexeme
                obtain ⟨others, same⟩ := prefixed
                cases same
                cases newline
                exact operator_newline spelled
            | extending =>
                obtain ⟨word, others, same, -⟩ := word_of_draft rfl finished
                cases same
                cases newline

/-- A line that starts with neither white space nor a comment has a token, unless a backslash
joins its first character to the next line. -/
theorem tokens_ne_nil_of_front {scan : Scan} {c : Char} {rest : List Char}
    (solid : isBlank c = false) (noComment : c ≠ '#') (noBreak : '\n' ∉ rest)
    (finished : scan.finish (c :: rest) = .ok tokens) : tokens ≠ [] := by
  cases found : Lexeme.read scan.draft.isSome c rest with
  | error error =>
      rw [finish, found] at finished
      cases finished
  | ok reading =>
      rw [finish_cons found] at finished
      have prefixed := tokens_isPrefix finished
      rintro rfl
      have opened : ∀ draft, (scan.advance reading).draft ≠ some draft := by
        intro draft some
        obtain ⟨word, more, same, -⟩ := word_of_draft some finished
        simp at same
      unfold advance at prefixed opened
      cases Lexeme.origin found with
      | blank front =>
          obtain rfl | rfl := front
          · cases solid
          · cases solid
      | joint _ behind =>
          rw [behind] at noBreak
          exact noBreak List.mem_cons_self
      | comment front => exact noComment front
      | operator _ lexeme => simp [lexeme] at prefixed
      | plain lexeme => simp [lexeme] at opened
      | quoted lexeme => simp [lexeme] at opened

end Scan

/-! ## Filled lines -/

theorem trimStart_of_head {c : Char} {rest : List Char} (solid : isBlank c = false) :
    trimStart (c :: rest) = c :: rest :=
  List.dropWhile_cons_of_neg (by simp [solid])

theorem mem_of_mem_trimChars {c : Char} {chars : List Char} (member : c ∈ trimChars chars) :
    c ∈ chars := by
  obtain ⟨trailing, -, whole⟩ := exists_trim chars
  rw [whole]
  simp [member]

/-- Trimming leaves the front of a text that starts with no white space. -/
theorem exists_trimChars {c : Char} {rest : List Char} (solid : isBlank c = false) :
    ∃ more, trimChars (c :: rest) = c :: more := by
  obtain ⟨trailing, blank, whole⟩ := exists_trim (c :: rest)
  rw [List.takeWhile_cons_of_neg (by simp [solid]), List.nil_append] at whole
  cases kept : trimChars (c :: rest) with
  | nil =>
      rw [kept, List.nil_append] at whole
      rw [blank c (whole ▸ List.mem_cons_self)] at solid
      cases solid
  | cons d more =>
      rw [kept, List.cons_append] at whole
      rw [(List.cons.inj whole).1]
      exact ⟨more, rfl⟩

namespace IsFilledLine

variable {chars : List Char} {tokens : List Token} {token : Token}

theorem exists_first (filled : IsFilledLine chars) :
    ∃ c rest, chars = chars.takeWhile isBlank ++ c :: rest ∧ isBlank c = false ∧ c ≠ '#' := by
  obtain ⟨c, front, noComment⟩ := filled.opens
  obtain ⟨rest, behind⟩ := List.head?_eq_some_iff.1 front
  have solid := List.head?_dropWhile_not isBlank chars
  rw [← trimStart, front] at solid
  refine ⟨c, rest, ?_, solid, noComment⟩
  rw [← behind]
  exact List.takeWhile_append_dropWhile.symm

theorem not_all_isBlank (filled : IsFilledLine chars) : ¬ chars.all isBlank = true := by
  intro blank
  obtain ⟨c, rest, whole, solid, -⟩ := filled.exists_first
  have member : c ∈ chars := by
    rw [whole]
    simp
  rw [List.all_eq_true.1 blank c member] at solid
  cases solid

theorem tokens_ne_nil (filled : IsFilledLine chars)
    (finished : Scan.initial.finish chars = .ok tokens) : tokens ≠ [] := by
  obtain ⟨c, rest, whole, solid, noComment⟩ := filled.exists_first
  have blanks : ∀ d ∈ chars.takeWhile isBlank, d = ' ' ∨ d = '\t' := fun d member =>
    filled.narrow d ((List.takeWhile_subset isBlank) member) (isBlank_of_mem_takeWhile member)
  have noBreak : '\n' ∉ rest := by
    intro member
    have inside : '\n' ∈ chars := by
      rw [whole]
      simp [member]
    obtain newline | newline := filled.narrow '\n' inside rfl
    · cases newline
    · cases newline
  have closed : Scan.initial.draft = none := rfl
  obtain ⟨after, -, -, onward⟩ := Scan.finish_past_blanks blanks closed (c :: rest)
  rw [whole, onward] at finished
  exact Scan.tokens_ne_nil_of_front solid noComment noBreak finished

/-- From each of its tokens on a filled line is a filled line, and no token is a line break. -/
theorem textFrom (filled : IsFilledLine chars) (finished : Scan.initial.finish chars = .ok tokens)
    (member : token ∈ tokens) :
    IsFilledLine (trimChars (chars.drop token.start)) ∧ ¬ token.isNewline := by
  obtain ⟨left, right, rfl⟩ := List.append_of_mem member
  obtain ⟨found, dropped, shifted⟩ := Scan.finish_drop finished
  obtain ⟨own, more, rfl, same, -⟩ := List.map_eq_cons_iff.1 shifted
  have front : own.start = 0 := by
    have starts := congrArg Token.start same
    cases own <;> simpa [Token.shift, Word.shift, Token.start] using starts
  obtain ⟨c, rest, behind, narrow, noComment, newline⟩ := Scan.first_of_finish dropped front
  have inside : ∀ d ∈ c :: rest, d ∈ chars := by
    rw [← behind]
    exact fun d => List.mem_of_mem_drop
  have solid : isBlank c = false := by
    rw [← Bool.not_eq_true]
    exact fun blank => narrow (filled.narrow c (inside c List.mem_cons_self) blank)
  constructor
  · rw [behind]
    constructor
    · exact fun d among => filled.narrow d (inside d (mem_of_mem_trimChars among))
    · obtain ⟨more, kept⟩ := exists_trimChars solid
      refine ⟨c, ?_, noComment⟩
      rw [kept, trimStart_of_head solid]
      rfl
  · intro isNewline
    have own : own.isNewline := by
      rw [← same] at isNewline
      exact (Token.operator?_shift _ _).symm.trans isNewline
    rw [newline own] at solid
    cases solid

end IsFilledLine

end VirtualShell
