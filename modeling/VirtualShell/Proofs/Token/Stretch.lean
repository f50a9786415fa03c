import Mathlib.Data.List.Forall2
import VirtualShell.Proofs.Token.Literal

/-!
Contract: stretches of a line that become tokens of their own.

Owns:
- `Blanks` and `Gap`, runs of spaces and tabs.
- `EndsWord`, text with which no word goes on; a word may as well end in front of it.
- `Becomes`, that a stretch becomes tokens of which something is known, wherever a token can
  start and whatever fits stands behind; one rule for each kind of stretch, and one for
  putting stretches together.

A stretch says what may stand behind it, and the next stretch is such text. So no rule
looks at more than one token.
-/

namespace VirtualShell

/-- Spaces and tabs. -/
structure Blanks where
  chars : List Char
  blank : ∀ c ∈ chars, c = ' ' ∨ c = '\t'

/-- At least one space or tab. -/
structure Gap extends Blanks where
  filled : chars ≠ []

/-- One space. -/
def Gap.space : Gap := ⟨⟨[' '], by simp⟩, by simp⟩

/-! ## Related lists -/

section Related

variable {α β γ : Type} {left : List α} {right : List β}

theorem exists_append_of_forall₂ {related : α → β → Prop} {first second : List β}
    (each : List.Forall₂ related left (first ++ second)) :
    ∃ front back, left = front ++ back ∧ List.Forall₂ related front first ∧
      List.Forall₂ related back second :=
  ⟨left.take first.length, left.drop first.length, (List.take_append_drop _ left).symm,
    List.forall₂_take_append left first second each,
    List.forall₂_drop_append left first second each⟩

/-- What stands between the items of two related lists is a list. -/
theorem exists_between {before : α → γ → Prop} {behind : γ → β → Prop}
    (each : List.Forall₂ (fun first second => ∃ middle, before first middle ∧
      behind middle second) left right) :
    ∃ middles, List.Forall₂ before left middles ∧ List.Forall₂ behind middles right := by
  induction each with
  | nil => exact ⟨[], .nil, .nil⟩
  | cons related _ inductionHypothesis =>
      rcases related with ⟨middle, first, second⟩
      rcases inductionHypothesis with ⟨middles, others, more⟩
      exact ⟨middle :: middles, .cons first others, .cons second more⟩

/-- Groups of a single word each are words. -/
theorem exists_words {groups : List (List Token)} {holds : Word → β → Prop}
    (each : List.Forall₂ (fun group item => ∃ word, group = [.word word] ∧ holds word item)
      groups right) :
    ∃ words : List Word, groups = words.map (fun word => [.word word]) ∧
      List.Forall₂ holds words right := by
  rcases exists_between each with ⟨words, same, known⟩
  refine ⟨words, ?_, known⟩
  rw [← List.forall₂_map_right_iff (f := fun word : Word => [Token.word word]),
    List.forall₂_eq_eq_eq] at same
  exact same

theorem flatten_words (words : List Word) :
    (words.map fun word => [Token.word word]).flatten = words.map .word := by
  rw [← List.flatMap_def, List.map_eq_flatMap]

/-- No literal word has a meaning of its own. -/
theorem bare?_of_literals {words : List Word} {texts : List String}
    (literals : List.Forall₂ Word.IsLiteral words texts) : ∀ word ∈ words, word.bare? = none :=
  ((List.forall₂_and_left words _).1
    (literals.imp fun _ _ literal => ⟨literal.bare?, literal⟩)).1

end Related

/-! ## Where words end -/

/-- The front of the text ends a word. -/
def EndsWord (chars : List Char) : Prop :=
  ∀ c rest, chars = c :: rest → ∃ reading : Lexeme.Reading,
    Lexeme.read true c rest = .ok reading ∧
      (reading.lexeme = .blank ∨ ∃ kind, reading.lexeme = .operator kind)

theorem endsWord_nil : EndsWord [] := by
  intro c rest same
  cases same

theorem endsWord_blank {c : Char} (blank : c = ' ' ∨ c = '\t') (rest : List Char) :
    EndsWord (c :: rest) := by
  rintro _ _ ⟨⟩
  exact ⟨_, Lexeme.read_blank true blank rest, .inl rfl⟩

theorem endsWord_newline (rest : List Char) : EndsWord ('\n' :: rest) := by
  rintro _ _ ⟨⟩
  exact ⟨_, rfl, .inr ⟨.newline, rfl⟩⟩

theorem Gap.endsWord (gap : Gap) (rest : List Char) : EndsWord (gap.chars ++ rest) := by
  rcases List.exists_cons_of_ne_nil gap.filled with ⟨c, others, same⟩
  rw [same]
  exact endsWord_blank (gap.blank c (same ▸ List.mem_cons_self)) _

namespace Scan

variable {scan : Scan} {chars : List Char}

/-- The scan with the word in progress ended here. -/
def closed (scan : Scan) : Scan :=
  ⟨scan.position, none, scan.closedTokens⟩

/-- In front of what ends it a word may as well have ended. -/
theorem finish_closed (scan : Scan) (ends : EndsWord chars) :
    scan.finish chars = scan.closed.finish chars := by
  cases chars with
  | nil => rw [finish_nil, finish_nil, closed, closedTokens, closedTokens]
  | cons c rest =>
      rcases ends c rest rfl with ⟨reading, found, lexeme⟩
      have anywhere : ∀ inWord, Lexeme.read inWord c rest = .ok reading := by
        intro inWord
        cases inWord with
        | true => exact found
        | false =>
            rcases lexeme with blank | ⟨kind, operator⟩
            · cases Lexeme.origin found with
              | blank front lexeme width =>
                  rw [Lexeme.read_blank true front] at found
                  rw [Lexeme.read_blank false front]
                  exact found
              | joint _ _ other _ | comment _ _ other _ | operator _ other _ | plain other
              | quoted other => exact absurd (blank.symm.trans other) (by simp)
            · exact Lexeme.read_of_operator found operator
      rw [finish_cons (anywhere _), finish_cons (anywhere _)]
      have same : scan.advance reading = scan.closed.advance reading := by
        rcases lexeme with blank | ⟨kind, operator⟩
        · simp only [advance, blank, closed]
          rfl
        · simp only [advance, operator, closed]
          rfl
      rw [same]

/-- Blanks are passed over where no word is in progress. -/
theorem finish_past_blanks {blanks : List Char} (blank : ∀ c ∈ blanks, c = ' ' ∨ c = '\t')
    (outside : scan.draft = none) (rest : List Char) :
    ∃ after : Scan, after.draft = none ∧ after.tokens = scan.tokens ∧
      scan.finish (blanks ++ rest) = after.finish rest := by
  induction blanks generalizing scan with
  | nil => exact ⟨scan, outside, rfl, rfl⟩
  | cons c blanks inductionHypothesis =>
      have found : Lexeme.read scan.draft.isSome c (blanks ++ rest) = _ :=
        Lexeme.read_blank _ (blank c List.mem_cons_self) _
      have kept : (scan.advance ⟨.blank, 1, Nat.one_pos⟩).tokens = scan.tokens := by
        simp [advance, closedTokens, outside]
      have still : (scan.advance ⟨.blank, 1, Nat.one_pos⟩).draft = none := rfl
      rcases inductionHypothesis (fun d member => blank d (List.mem_cons_of_mem _ member)) still
        with ⟨after, closed, tokens, same⟩
      refine ⟨after, closed, tokens.trans kept, ?_⟩
      rw [List.cons_append, finish_cons found]
      exact same

end Scan

/-! ## Stretches -/

/-- Where a token can start, and in front of what fits, the characters become tokens of
which something holds. -/
def Becomes (fits : List Char → Prop) (chars : List Char) (holds : List Token → Prop) : Prop :=
  ∀ (scan : Scan) (rest : List Char), scan.draft = none → fits rest →
    ∃ (tokens : List Token) (after : Scan), holds tokens ∧ after.draft = none ∧
      after.tokens = tokens.reverse ++ scan.tokens ∧
      scan.finish (chars ++ rest) = after.finish rest

namespace Becomes

variable {fits between : List Char → Prop} {chars first second : List Char}
  {holds left right : List Token → Prop}

theorem mono (becomes : Becomes fits chars holds) {weaker : List Token → Prop}
    (weaken : ∀ tokens, holds tokens → weaker tokens) : Becomes fits chars weaker := by
  intro scan rest outside fitting
  rcases becomes scan rest outside fitting with ⟨tokens, after, known, others⟩
  exact ⟨tokens, after, weaken tokens known, others⟩

/-- A stretch may be followed by less. -/
theorem weaken (becomes : Becomes between chars holds)
    (less : ∀ rest, fits rest → between rest) : Becomes fits chars holds :=
  fun scan rest outside fitting => becomes scan rest outside (less rest fitting)

/-- Two stretches of which the first fits in front of the second. -/
theorem append (before : Becomes between first left) (behind : Becomes fits second right)
    (meet : ∀ rest, fits rest → between (second ++ rest)) :
    Becomes fits (first ++ second) fun tokens =>
      ∃ front back, tokens = front ++ back ∧ left front ∧ right back := by
  intro scan rest outside fitting
  rcases before scan (second ++ rest) outside (meet rest fitting) with
    ⟨front, middle, knownFront, closed, tokens, same⟩
  rcases behind middle rest closed fitting with
    ⟨back, after, knownBack, closedAfter, tokensAfter, sameAfter⟩
  refine ⟨front ++ back, after, ⟨front, back, rfl, knownFront, knownBack⟩, closedAfter, ?_, ?_⟩
  · rw [tokensAfter, tokens, List.reverse_append, List.append_assoc]
  · rw [List.append_assoc, same, sameAfter]

/-- Blanks in front of a stretch do not matter. -/
theorem blanks (blanks : Blanks) (becomes : Becomes fits chars holds) :
    Becomes fits (blanks.chars ++ chars) holds := by
  intro scan rest outside fitting
  rcases Scan.finish_past_blanks blanks.blank outside (chars ++ rest) with
    ⟨middle, closed, kept, same⟩
  rcases becomes middle rest closed fitting with ⟨tokens, after, known, closedAfter, more, ends⟩
  refine ⟨tokens, after, known, closedAfter, by rw [more, kept], ?_⟩
  rw [List.append_assoc, same, ends]

/-- Two stretches with a gap between them. -/
theorem gap (gap : Gap) (before : Becomes EndsWord first left)
    (behind : Becomes fits second right) :
    Becomes fits (first ++ (gap.chars ++ second)) fun tokens =>
      ∃ front back, tokens = front ++ back ∧ left front ∧ right back := by
  refine before.append (behind.blanks gap.toBlanks) fun rest _ => ?_
  rw [List.append_assoc]
  exact gap.endsWord _

/-- A word ends in front of what ends it. -/
theorem of_draft (draft : Draft → Prop) {holds : Word → Prop}
    (reads : ∀ (scan : Scan) (rest : List Char), scan.draft = none →
      ∃ (after : Scan) (found : Draft), draft found ∧ after.draft = some found ∧
        after.tokens = scan.tokens ∧ scan.finish (chars ++ rest) = after.finish rest)
    (known : ∀ found stop, draft found → holds (found.word stop)) :
    Becomes EndsWord chars fun tokens => ∃ word, tokens = [.word word] ∧ holds word := by
  intro scan rest outside ends
  rcases reads scan rest outside with ⟨after, found, holding, opened, kept, same⟩
  refine ⟨[.word (found.word after.position)], after.closed,
    ⟨_, rfl, known found after.position holding⟩, rfl, ?_, ?_⟩
  · simp only [Scan.closed, Scan.closedTokens, opened, kept]
    rfl
  · rw [same, after.finish_closed ends]

theorem quoted {text : String} (quotes : Quotes chars text.toList) :
    Becomes EndsWord chars fun tokens => ∃ word, tokens = [.word word] ∧ word.IsLiteral text := by
  rcases quotes with ⟨segments, stand, reads⟩
  refine of_draft (fun found => found.settled.reverse = segments)
    (fun scan rest outside =>
      ⟨scan.extended chars.length segments, _, ?_, rfl, rfl, reads scan rest⟩)
    fun found stop same => ?_
  · simp [Scan.openDraft, outside, Draft.addQuoted, Draft.settled]
  · show StandFor found.settled.reverse text.toList
    rw [same]
    exact stand

theorem literal (literal : Literal) :
    Becomes EndsWord literal.render.toList fun tokens =>
      ∃ word, tokens = [.word word] ∧ word.IsLiteral literal.text :=
  quoted literal.quotes

theorem bare (word : BareWord) :
    Becomes EndsWord word.text.toList fun tokens =>
      ∃ found, tokens = [.word found] ∧ found.bare? = some word.text := by
  refine of_draft
    (fun found => ∀ stop, (found.word stop).segments = [⟨word.text, .unquoted⟩])
    (fun scan rest outside =>
      ⟨⟨scan.position + word.text.toList.length,
        some ⟨scan.position, [], word.text.toList.reverse⟩, scan.tokens⟩, _, fun stop => ?_, rfl,
        rfl, Scan.finish_bare outside word rest⟩)
    fun found stop segments => ?_
  · rw [Scan.word_of_bare]
  · simp [Word.bare?, Word.isQuoted, Word.text, segments stop, Segment.isQuoted]

theorem operator (kind : Operator) :
    Becomes (fun rest => kind.isWhole = true ∨ ∀ c ∈ rest.head?, c ∉ Operator.continuations)
      kind.text.toList fun tokens => ∃ start stop, tokens = [.operator kind start stop] := by
  intro scan rest outside ends
  have nothing : scan.draft.isSome = true → kind.endsWord = true := by simp [outside]
  refine ⟨_, _, ⟨scan.position, scan.position + kind.text.toList.length, rfl⟩, rfl, ?_,
    Scan.finish_operator nothing ends⟩
  simp [Scan.closedTokens, outside]

/-- An operator with blanks on both sides. -/
theorem spaced (before behind : Blanks) (kind : Operator)
    (apart : kind.isWhole = true ∨ behind.chars ≠ []) :
    Becomes (fun _ => True) (before.chars ++ (kind.text.toList ++ behind.chars)) fun tokens =>
      ∃ start stop, tokens = [.operator kind start stop] := by
  have nothing : Becomes (fun _ => True) behind.chars fun tokens => tokens = [] := by
    intro scan rest outside _
    rcases Scan.finish_past_blanks behind.blank outside rest with ⟨after, closed, kept, same⟩
    exact ⟨[], after, rfl, closed, kept, same⟩
  refine .blanks before (((operator kind).append nothing fun rest _ => ?_).mono ?_)
  · refine apart.imp id fun filled c front => ?_
    rcases List.exists_cons_of_ne_nil filled with ⟨d, others, same⟩
    rw [same] at front
    cases front
    rcases behind.blank c (same ▸ List.mem_cons_self) with rfl | rfl <;> decide
  · rintro _ ⟨_, _, rfl, ⟨start, stop, rfl⟩, rfl⟩
    exact ⟨start, stop, rfl⟩

/-- Stretches that follow each other, each of which may be followed by anything. -/
theorem flatMap {α : Type} {render : α → List Char} {holds : List Token → α → Prop}
    {items : List α}
    (each : ∀ item ∈ items,
      Becomes (fun _ => True) (render item) fun tokens => holds tokens item) :
    Becomes (fun _ => True) (items.flatMap render) fun tokens =>
      ∃ parts, tokens = parts.flatten ∧ List.Forall₂ holds parts items := by
  induction items with
  | nil =>
      intro scan rest outside _
      exact ⟨[], scan, ⟨[], rfl, .nil⟩, outside, rfl, rfl⟩
  | cons item items inductionHypothesis =>
      rw [List.forall_mem_cons] at each
      rw [List.flatMap_cons]
      refine (each.1.append (inductionHypothesis each.2) fun _ _ => trivial).mono ?_
      rintro _ ⟨front, _, rfl, known, parts, rfl, others⟩
      exact ⟨front :: parts, rfl, .cons known others⟩

/-- What a whole line becomes are its tokens. -/
theorem scan (becomes : Becomes fits chars holds) (ends : fits []) :
    ∃ tokens, holds tokens ∧ Token.scan (String.ofList chars) = .ok tokens := by
  rcases becomes Scan.initial [] rfl ends with ⟨tokens, after, known, closed, found, same⟩
  refine ⟨tokens, known, ?_⟩
  rw [Token.scan, String.toList_ofList, ← List.append_nil chars, same, Scan.finish_nil,
    Scan.closedTokens, closed, found]
  simp [Scan.initial]

/-- Stretches with gaps between them. -/
theorem list {α : Type} {render : α → List Char} {holds : List Token → α → Prop}
    (each : ∀ item, Becomes EndsWord (render item) fun tokens => holds tokens item)
    (first : α) (others : List (Gap × α)) :
    Becomes EndsWord
      (render first ++ others.flatMap fun other => other.1.chars ++ render other.2) fun tokens =>
        ∃ parts, tokens = parts.flatten ∧
          List.Forall₂ holds parts (first :: others.map Prod.snd) := by
  induction others generalizing first with
  | nil =>
      rw [List.flatMap_nil, List.append_nil]
      refine (each first).mono fun tokens known => ⟨[tokens], by simp, ?_⟩
      exact .cons known .nil
  | cons other others inductionHypothesis =>
      rw [List.flatMap_cons, List.append_assoc]
      refine ((each first).gap other.1 (inductionHypothesis other.2)).mono ?_
      rintro _ ⟨front, _, rfl, known, parts, rfl, others⟩
      exact ⟨front :: parts, rfl, .cons known others⟩

end Becomes

end VirtualShell
