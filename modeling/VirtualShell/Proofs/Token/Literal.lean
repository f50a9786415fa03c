import VirtualShell.Proofs.Token.Mark

/-!
Contract: quoting keeps every character of a text.

Owns:
- `StandFor`, segments in which nothing is left to expand, and `Word.IsLiteral`, a word of
  such segments.
- `Quotes`, characters of a line that are read as such segments wherever they stand, with a
  rule for each way of quoting.
- `Style` and `Literal`, the styles in which a text can be written, and that each of them
  quotes the text.

Does not own: what a literal word is expanded to (`VirtualShell.Proofs.Expansion`).
-/

namespace VirtualShell

/-- The segments stand for a text whatever the variables are: all of them are quoted, and
those between double quotes hold no reference. -/
structure StandFor (segments : List Segment) (text : List Char) : Prop where
  filled : segments ≠ []
  quoted : ∀ segment ∈ segments, segment.isQuoted = true
  closed : ∀ segment ∈ segments, segment.quoting = .double → '$' ∉ segment.text.toList
  text_eq : segments.flatMap (fun segment => segment.text.toList) = text

/-- The word stands for a text whatever the variables are. -/
def Word.IsLiteral (word : Word) (text : String) : Prop :=
  StandFor word.segments text.toList

namespace StandFor

variable {first second : List Segment} {text rest : List Char}

theorem append (left : StandFor first text) (right : StandFor second rest) :
    StandFor (first ++ second) (text ++ rest) where
  filled := by simp [left.filled]
  quoted segment member :=
    (List.mem_append.1 member).elim (left.quoted segment) (right.quoted segment)
  closed segment member :=
    (List.mem_append.1 member).elim (left.closed segment) (right.closed segment)
  text_eq := by rw [List.flatMap_append, left.text_eq, right.text_eq]

/-- Text between single quotes, or behind a backslash. -/
theorem single (text : List Char) : StandFor [⟨String.ofList text, .single⟩] text where
  filled := by simp
  quoted := by simp [Segment.isQuoted]
  closed := by simp
  text_eq := by simp

theorem double (closed : '$' ∉ text) : StandFor [⟨String.ofList text, .double⟩] text where
  filled := by simp
  quoted := by simp [Segment.isQuoted]
  closed := by simpa using closed
  text_eq := by simp

end StandFor

theorem Word.IsLiteral.isQuoted {word : Word} {text : String} (literal : word.IsLiteral text) :
    word.isQuoted = true := by
  rcases List.exists_mem_of_ne_nil _ literal.filled with ⟨segment, member⟩
  exact List.any_eq_true.2 ⟨segment, member, literal.quoted segment member⟩

theorem Word.IsLiteral.text_eq {word : Word} {text : String} (literal : word.IsLiteral text) :
    word.text = text := by
  rw [← String.toList_inj, Word.text, String.toList_join, List.flatMap_map]
  exact StandFor.text_eq literal

theorem Word.IsLiteral.bare? {word : Word} {text : String} (literal : word.IsLiteral text) :
    word.bare? = none :=
  if_pos literal.isQuoted

/-! ## Quoting characters -/

theorem Draft.addQuoted_addQuoted (draft : Draft) (first second : List Segment) :
    (draft.addQuoted first).addQuoted second = draft.addQuoted (first ++ second) := by
  simp [addQuoted, settled]

/-- The scan with quoted segments added to the word in progress. -/
def Scan.extended (scan : Scan) (width : Nat) (segments : List Segment) : Scan :=
  ⟨scan.position + width, some (scan.openDraft.addQuoted segments), scan.tokens⟩

theorem Scan.extended_extended (scan : Scan) (width more : Nat) (first second : List Segment) :
    (scan.extended width first).extended more second =
      scan.extended (width + more) (first ++ second) := by
  simp only [extended, Nat.add_assoc, openDraft, Option.getD_some, Draft.addQuoted_addQuoted]

theorem Scan.finish_of_quoted {scan : Scan} {c : Char} {rest : List Char}
    {reading : Lexeme.Reading} {segments : List Segment}
    (found : Lexeme.read scan.draft.isSome c rest = .ok reading)
    (lexeme : reading.lexeme = .quoted segments) :
    scan.finish (c :: rest) =
      (scan.extended reading.width segments).finish ((c :: rest).drop reading.width) := by
  rw [finish_cons found]
  simp only [advance, lexeme, extended]

/-- Wherever they stand, the characters are segments that stand for the text. -/
def Quotes (chars text : List Char) : Prop :=
  ∃ segments, StandFor segments text ∧ ∀ (scan : Scan) (rest : List Char),
    scan.finish (chars ++ rest) = (scan.extended chars.length segments).finish rest

namespace Quotes

variable {first second text more : List Char}

theorem append (left : Quotes first text) (right : Quotes second more) :
    Quotes (first ++ second) (text ++ more) := by
  rcases left with ⟨front, standsLeft, readsLeft⟩
  rcases right with ⟨back, standsRight, readsRight⟩
  refine ⟨front ++ back, standsLeft.append standsRight, fun scan rest => ?_⟩
  rw [List.append_assoc, readsLeft, readsRight, Scan.extended_extended, List.length_append]

theorem single (closed : '\'' ∉ text) : Quotes ('\'' :: (text ++ ['\''])) text := by
  refine ⟨_, .single text, fun scan rest => ?_⟩
  obtain ⟨reading, found, lexeme, width⟩ := Lexeme.readSingle_quotable closed rest
  rw [← Lexeme.read_singleQuote scan.draft.isSome] at found
  have split : '\'' :: (text ++ ['\'']) ++ rest = '\'' :: (text ++ '\'' :: rest) := by simp
  have length : reading.width = ('\'' :: (text ++ ['\''])).length := by simp [width]
  rw [split, Scan.finish_of_quoted found lexeme, ← split, length, List.drop_left]

theorem escape {c : Char} (joins : c ≠ '\n') : Quotes ['\\', c] [c] := by
  refine ⟨_, .single [c], fun scan rest => ?_⟩
  have escaped : Lexeme.readEscape (c :: rest) =
      ⟨.quoted [⟨String.ofList [c], .single⟩], 2, by decide⟩ := by
    unfold Lexeme.readEscape
    split
    · rename_i none
      cases none
    · rename_i same
      cases same
      exact absurd rfl joins
    · rename_i same
      cases same
      rfl
  have found : Lexeme.read scan.draft.isSome '\\' (c :: rest) = _ :=
    (Lexeme.read_backslash _ (c :: rest)).trans (congrArg Except.ok escaped)
  exact Scan.finish_of_quoted found rfl

end Quotes

/-! ## Between double quotes -/

/-- How a character is written between double quotes. -/
def doubleEscape (c : Char) : List Char :=
  if Lexeme.isDoubleEscape c then ['\\', c] else [c]

namespace Lexeme

theorem doubleQuoted_escape {c : Char} (escaped : isDoubleEscape c = true)
    (buffer rest : List Char) :
    doubleQuoted buffer ('\\' :: c :: rest) = (doubleQuoted [] rest).map fun (segments, width) =>
      (⟨String.ofList buffer.reverse, .double⟩ :: ⟨String.singleton c, .single⟩ :: segments,
        width + 2) := by
  have joins : c ≠ '\n' := by
    rintro rfl
    cases escaped
  rw [doubleQuoted]
  · exact if_pos escaped
  · exact joins

/-- What stands between double quotes is read up to the closing one. -/
theorem doubleQuoted_spelled (text : List Char) {buffer : List Char} (closed : '$' ∉ buffer) :
    ∃ segments, StandFor segments (buffer.reverse ++ text) ∧ ∀ rest,
      doubleQuoted buffer (text.flatMap doubleEscape ++ '"' :: rest) =
        some (segments, (text.flatMap doubleEscape).length + 1) := by
  induction text generalizing buffer with
  | nil =>
      refine ⟨[⟨String.ofList buffer.reverse, .double⟩], ?_, fun rest => by simp [doubleQuoted]⟩
      rw [List.append_nil]
      exact .double (by simpa using closed)
  | cons c text inductionHypothesis =>
      rw [List.flatMap_cons]
      cases escaped : isDoubleEscape c with
      | true =>
          have nothing : '$' ∉ ([] : List Char) := List.not_mem_nil
          rcases inductionHypothesis nothing with ⟨segments, stand, found⟩
          have front : StandFor [⟨String.ofList buffer.reverse, .double⟩] buffer.reverse :=
            .double (by simpa using closed)
          refine ⟨_, front.append ((StandFor.single [c]).append stand), fun rest => ?_⟩
          rw [doubleEscape, if_pos escaped, List.append_assoc]
          simp only [List.cons_append, List.nil_append, doubleQuoted_escape escaped, found]
          simp
      | false =>
          have plain : c ≠ '"' ∧ c ≠ '\\' ∧ c ≠ '$' := by
            refine ⟨?_, ?_, ?_⟩
            all_goals
              rintro rfl
              cases escaped
          have longer : '$' ∉ c :: buffer := by
            simpa using ⟨plain.2.2.symm, closed⟩
          rcases inductionHypothesis longer with ⟨segments, stand, found⟩
          refine ⟨segments, by simpa using stand, fun rest => ?_⟩
          rw [doubleEscape, escaped, List.append_assoc]
          simp only [Bool.false_eq_true, if_false, List.cons_append, List.nil_append,
            doubleQuoted_cons plain.1 plain.2.1, found]
          simp

end Lexeme

theorem Quotes.double (text : List Char) :
    Quotes ('"' :: (text.flatMap doubleEscape ++ ['"'])) text := by
  have nothing : '$' ∉ ([] : List Char) := List.not_mem_nil
  rcases Lexeme.doubleQuoted_spelled text nothing with ⟨segments, stand, found⟩
  refine ⟨segments, stand, fun scan rest => ?_⟩
  have split : '"' :: (text.flatMap doubleEscape ++ ['"']) ++ rest =
      '"' :: (text.flatMap doubleEscape ++ '"' :: rest) := by simp
  obtain ⟨reading, read, lexeme, width⟩ : ∃ reading : Lexeme.Reading,
      Lexeme.read scan.draft.isSome '"' (text.flatMap doubleEscape ++ '"' :: rest) = .ok reading ∧
        reading.lexeme = .quoted segments ∧
        reading.width = (text.flatMap doubleEscape).length + 1 + 1 := by
    rw [Lexeme.read_doubleQuote, Lexeme.readDouble, found]
    exact ⟨_, rfl, rfl, rfl⟩
  have length : reading.width = ('"' :: (text.flatMap doubleEscape ++ ['"'])).length := by
    simp [width]
  rw [split, Scan.finish_of_quoted read lexeme, ← split, length, List.drop_left]

/-! ## Styles -/

/-- A way to quote a text. -/
inductive Style where
  | single
  | double
  | escaped
deriving DecidableEq, Repr

namespace Style

/-- Whether a text can be quoted so. A line break cannot be escaped, nor can nothing. -/
def Fits (text : String) : Style → Prop
  | .single | .double => True
  | .escaped => text ≠ "" ∧ '\n' ∉ text.toList

/-- How a character is written between single quotes, which have to be left for a quote. -/
def singleEscape (c : Char) : List Char :=
  if c = '\'' then ['\'', '\\', '\'', '\''] else [c]

/-- How a text is written. -/
def spelling (text : List Char) : Style → List Char
  | .single => '\'' :: (text.flatMap singleEscape ++ ['\''])
  | .double => '"' :: (text.flatMap doubleEscape ++ ['"'])
  | .escaped => text.flatMap fun c => ['\\', c]

theorem quotes_single (text : List Char) {front : List Char} (closed : '\'' ∉ front) :
    Quotes ('\'' :: (front ++ (text.flatMap singleEscape ++ ['\'']))) (front ++ text) := by
  induction text generalizing front with
  | nil =>
      rw [List.append_nil]
      exact .single closed
  | cons c text inductionHypothesis =>
      rw [List.flatMap_cons, singleEscape]
      by_cases quote : c = '\''
      · subst quote
        have nothing : '\'' ∉ ([] : List Char) := List.not_mem_nil
        have behind : Quotes _ _ := inductionHypothesis nothing
        have left : Quotes _ _ := (Quotes.single closed).append
          ((Quotes.escape (c := '\'') (by decide)).append behind)
        simpa using left
      · have longer : '\'' ∉ front ++ [c] := by
          simpa [closed] using Ne.symm quote
        simpa [quote] using inductionHypothesis longer

theorem quotes_escaped {text : List Char} (filled : text ≠ []) (joins : '\n' ∉ text) :
    Quotes (text.flatMap fun c => ['\\', c]) text := by
  induction text with
  | nil => exact absurd rfl filled
  | cons c text inductionHypothesis =>
      rw [List.mem_cons, not_or] at joins
      have first : Quotes ['\\', c] [c] := .escape (Ne.symm joins.1)
      cases text with
      | nil => exact first
      | cons next text =>
          rw [List.flatMap_cons]
          exact first.append (inductionHypothesis (by simp) joins.2)

/-- In each style that fits it a text is quoted. -/
theorem quotes {text : String} {style : Style} (fits : style.Fits text) :
    Quotes (style.spelling text.toList) text.toList := by
  cases style with
  | single =>
      have nothing : '\'' ∉ ([] : List Char) := List.not_mem_nil
      exact quotes_single text.toList nothing
  | double => exact .double text.toList
  | escaped => exact quotes_escaped (by simpa using fits.1) fits.2

end Style

/-- A text with a style that fits it. -/
structure Literal where
  text : String
  style : Style
  fits : style.Fits text

/-- How a literal is written. -/
def Literal.render (literal : Literal) : String :=
  String.ofList (literal.style.spelling literal.text.toList)

theorem Literal.quotes (literal : Literal) :
    Quotes literal.render.toList literal.text.toList := by
  rw [render, String.toList_ofList]
  exact Style.quotes literal.fits

end VirtualShell
