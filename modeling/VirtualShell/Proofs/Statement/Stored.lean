import VirtualShell.Proofs.Statement.Layout
import VirtualShell.Proofs.Token.Trim

/-!
Contract: the texts that a compound statement keeps mean what their tokens meant.

Owns:
- `Restores`, a kept text is scanned to the tokens it stands for, without the separators at
  their two ends;
- `RestoresTail`, the text behind a statement is scanned to the tokens behind its joint;
- `restores_of_read`: this holds of every text that a compound statement or a function
  definition keeps, and of the text behind it.

A text is cut out of its line and trimmed. Where trimming takes something off a word, or
leaves a backslash without its line break, nothing is said.
-/

namespace VirtualShell.Statement

open VirtualShell.Text

/-- The stretch of a line that some of its tokens span. -/
def stretch (source : List Char) (tokens : List Token) : List Char :=
  match tokens.head?, tokens.getLast? with
  | some first, some last => slice source first.start last.stop
  | _, _ => []

/-- A text is scanned to the tokens of a range, up to their offsets and without the separators
at the two ends. -/
def Restores (source : List Char) (range : List Token) (text : String) : Prop :=
  TrimsCleanly (stretch source (trimSeparators range)) →
    ∃ found offset, Token.scan text = .ok found ∧
      found.map (Token.shift offset) = trimSeparators range

/-- A text is scanned to the tokens of a range, up to their offsets and without some line
breaks at the two ends. -/
def RestoresTail (source : List Char) (range : List Token) (text : String) : Prop :=
  ∀ first ∈ range.head?, TrimsCleanly (source.drop first.start) →
    ∃ found offset leading trailing, Token.scan text = .ok found ∧
      (∀ token ∈ leading ++ trailing, token.isNewline) ∧
      range = leading ++ found.map (Token.shift offset) ++ trailing

/-! ## Ranges without separators at their ends -/

theorem isSeparator_head?_dropWhile {tokens : List Token} {token : Token}
    (first : (tokens.dropWhile Token.isSeparator).head? = some token) :
    token.isSeparator = false := by
  have solid := List.head?_dropWhile_not Token.isSeparator tokens
  rw [first] at solid
  exact solid

theorem isSeparator_head?_trimSeparators {tokens : List Token} {token : Token}
    (first : (trimSeparators tokens).head? = some token) : token.isSeparator = false := by
  rcases trimSeparators_isPrefix tokens with ⟨more, whole⟩
  have start : (tokens.dropWhile Token.isSeparator).head? = some token := by
    rw [← whole, List.head?_append, first]
    rfl
  exact isSeparator_head?_dropWhile start

theorem isSeparator_getLast?_trimSeparators {tokens : List Token} {token : Token}
    (last : (trimSeparators tokens).getLast? = some token) : token.isSeparator = false := by
  rw [trimSeparators, List.getLast?_reverse] at last
  exact isSeparator_head?_dropWhile last

theorem isSeparator_of_isNewline {token : Token} (newline : token.isNewline) :
    token.isSeparator = true := by
  rw [Token.isSeparator, newline]
  rfl

/-- Line breaks at the ends of a range that no separator ends are none. -/
theorem eq_of_newlines {tokens leading middle trailing : List Token}
    (whole : trimSeparators tokens = leading ++ middle ++ trailing)
    (newlines : ∀ token ∈ leading ++ trailing, token.isNewline) :
    trimSeparators tokens = middle := by
  have front : leading = [] := by
    cases leading with
    | nil => rfl
    | cons token leading =>
        have first : (trimSeparators tokens).head? = some token := by
          rw [whole]
          rfl
        have solid := isSeparator_head?_trimSeparators first
        have separator := isSeparator_of_isNewline (newlines token List.mem_cons_self)
        rw [solid] at separator
        cases separator
  have back : trailing = [] := by
    rcases List.eq_nil_or_concat trailing with none | ⟨others, token, same⟩
    · exact none
    · have last : (trimSeparators tokens).getLast? = some token := by
        rw [whole, same]
        simp
      have solid := isSeparator_getLast?_trimSeparators last
      have separator := isSeparator_of_isNewline (newlines token (by rw [same]; simp))
      rw [solid] at separator
      cases separator
  rw [whole, front, back, List.nil_append, List.append_nil]

/-! ## What kept texts are scanned to -/

section Kept

variable {line : String} {tokens range : List Token}

/-- A stretch that is trimmed cleanly still has its tokens, wherever it stands. -/
theorem exists_scan_trim {stretch : List Char} {count : Nat} {own : List Token}
    (clean : TrimsCleanly stretch) (scanned : Scan.initial.finish stretch = .ok own)
    (shifted : own.map (Token.shift count) = range) :
    ∃ found offset leading trailing, Token.scan (String.ofList (trimChars stretch)) = .ok found ∧
      (∀ token ∈ leading ++ trailing, token.isNewline) ∧
      range = leading ++ found.map (Token.shift offset) ++ trailing := by
  rcases scan_trim clean scanned with ⟨leading, middle, trailing, newlines, trimmed, rfl⟩
  refine ⟨middle, keptStart stretch + count, leading.map (Token.shift count),
    trailing.map (Token.shift count), ?_, ?_, ?_⟩
  · rw [Token.scan, String.toList_ofList]
    exact trimmed
  · intro token member
    rw [← List.map_append] at member
    rcases List.mem_map.1 member with ⟨inner, found, rfl⟩
    exact (Token.operator?_shift _ _).trans (newlines inner found)
  · have twice : (middle.map (Token.shift (keptStart stretch))).map (Token.shift count) =
        middle.map (Token.shift (keptStart stretch + count)) := by
      rw [List.map_map]
      exact List.map_congr_left fun token _ => Token.shift_shift _ _ token
    rw [← shifted, List.map_append, List.map_append, twice]

/-- The text cut out for a range restores it. -/
theorem restores_spanText (scanned : Token.scan line = .ok tokens) (inside : range <:+: tokens) :
    Restores line.toList range (spanText line.toList range) := by
  intro clean
  unfold spanText
  unfold stretch at clean
  simp only
  split
  · rename_i first last front back
    rw [front, back] at clean
    rcases (trimSeparators_isInfix range).trans inside with ⟨left, right, whole⟩
    rw [← whole] at scanned
    rcases Token.scan_slice scanned front back with ⟨own, sliced, shifted⟩
    rw [Token.scan, String.toList_ofList] at sliced
    rcases exists_scan_trim clean sliced shifted with
      ⟨found, offset, leading, trailing, read, newlines, split⟩
    exact ⟨found, offset, read, (eq_of_newlines split newlines).symm⟩
  · rename_i notSpanned
    refine ⟨[], 0, Scan.finish_nil, ?_⟩
    cases core : trimSeparators range with
    | nil => rfl
    | cons first rest =>
        rw [core] at notSpanned
        exact absurd (List.getLast?_eq_some_getLast (List.cons_ne_nil first rest))
          (notSpanned first _ rfl)

/-- The text from a token on restores the tokens from there on, up to line breaks. -/
theorem restoresTail_textFrom {token : Token} {rest : List Token}
    (scanned : Token.scan line = .ok tokens) (inside : token :: rest <:+ tokens) :
    RestoresTail line.toList (token :: rest) (textFrom line.toList token) := by
  intro first same clean
  cases same
  rcases inside with ⟨before, whole⟩
  rw [← whole] at scanned
  rcases Scan.finish_drop scanned with ⟨own, dropped, shifted⟩
  exact exists_scan_trim clean dropped shifted

end Kept

/-- Every text that a compound statement or a function definition keeps, and the text behind
it, is scanned to the tokens that it stands for in the line. -/
theorem restores_of_read {line : String} {statement : Statement}
    (accepted : read line = .ok (some statement))
    (kept : ∀ pipelines, statement.body ≠ .pipelines pipelines) :
    ∃ tokens, Token.scan line = .ok tokens ∧
      StatementTokens (Restores line.toList) (RestoresTail line.toList) tokens statement := by
  rcases Fallible.exists_of_bind accepted with ⟨tokens, scanned, found⟩
  refine ⟨tokens, scanned, statementTokens_of_ofTokens ?_ ?_ found kept⟩
  · exact fun range inside => restores_spanText scanned inside
  · exact fun token rest inside => restoresTail_textFrom scanned inside

theorem restores_of_read_conditional :
    (∃ tokens, Token.scan "if a; then b; fi; c" = .ok tokens ∧
      StatementTokens (Restores "if a; then b; fi; c".toList)
        (RestoresTail "if a; then b; fi; c".toList) tokens
        ⟨.compound (.conditional [⟨some "a", "b"⟩]) [], some ⟨.gate .always, "c"⟩⟩) ∧
      TrimsCleanly (slice "if a; then b; fi; c".toList 3 4) ∧
      TrimsCleanly (slice "if a; then b; fi; c".toList 11 12) ∧
      TrimsCleanly ("if a; then b; fi; c".toList.drop 18) :=
  ⟨restores_of_read (Fallible.eq_ok_of_toOption (by decide +kernel)) (by simp),
    trimsCleanly_of_eq (by decide), trimsCleanly_of_eq (by decide),
    trimsCleanly_of_eq (by decide)⟩

/-- A text whose tokens read otherwise than those of a range is not scanned to the range. -/
theorem not_scanned_of_texts {text : String} {range : List Token} {texts : List String}
    (scanned : (Token.scan text).map (·.map Token.text) = .ok texts)
    (differ : texts ≠ range.map Token.text) :
    ¬ ∃ found offset, Token.scan text = .ok found ∧ found.map (Token.shift offset) = range := by
  rintro ⟨found, offset, same, rfl⟩
  rw [same] at scanned
  apply differ
  rw [← Except.ok.inj scanned, List.map_map]
  refine List.map_congr_left fun token _ => ?_
  cases token <;> rfl

/-- The text behind a statement keeps the separators at its end: nothing is lost when it is trimmed,
and it is not scanned to its tokens without the separators at the two ends. -/
theorem exists_not_restored :
    ∃ tokens, Token.scan "if a; then b; fi; c;" = .ok tokens ∧
      read "if a; then b; fi; c;" = .ok (some
        ⟨.compound (.conditional [⟨some "a", "b"⟩]) [], some ⟨.gate .always, "c;"⟩⟩) ∧
      TrimsCleanly ("if a; then b; fi; c;".toList.drop 18) ∧
      ¬ ∃ found offset, Token.scan "c;" = .ok found ∧
        found.map (Token.shift offset) = trimSeparators (tokens.drop 8) := by
  have whole : (Token.scan "if a; then b; fi; c;").map (fun tokens =>
      (trimSeparators (tokens.drop 8)).map Token.text) = .ok ["c"] :=
    Fallible.eq_ok_of_toOption (by decide +kernel)
  have kept : (Token.scan "c;").map (·.map Token.text) = .ok ["c", ";"] :=
    Fallible.eq_ok_of_toOption (by decide +kernel)
  have accepted : read "if a; then b; fi; c;" = .ok (some
      ⟨.compound (.conditional [⟨some "a", "b"⟩]) [], some ⟨.gate .always, "c;"⟩⟩) :=
    Fallible.eq_ok_of_toOption (by decide +kernel)
  rcases Fallible.exists_of_map whole with ⟨tokens, scanned, texts⟩
  refine ⟨tokens, scanned, accepted, trimsCleanly_of_eq (by decide), ?_⟩
  exact not_scanned_of_texts kept (by rw [texts]; decide)

end VirtualShell.Statement
