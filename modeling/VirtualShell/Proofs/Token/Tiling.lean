import VirtualShell.Proofs.Token.Trim

/-!
Contract: the tokens of a line tile it, and each range of them can be cut out.

Owns:
- `Filler`, what stands between tokens: a blank, a joint of two lines, or a comment;
- `Tiled`, that the characters up to an offset are divided into tokens and fillers, and
  `Scan.tiled_of_finish`, that the characters of a whole line are;
- `tiles_of_scan`: tokens take up characters of the line in order and do not overlap, words have
  segments, and every other character belongs to a filler;
- `scan_between`: the characters from the start of one token to the stop of another are scanned
  to the tokens from the one to the other.

A scan leaves nothing out because each lexeme takes the characters where it stands: it becomes
a filler, or a token, or makes the word in progress longer. A continuation inside a word is part
of the word.
-/

namespace VirtualShell

/-! ## Lexemes leave something behind -/

namespace Lexeme

variable {c : Char} {rest : List Char} {inWord : Bool} {reading : Reading}

theorem doubleQuoted_ne_nil {buffer chars : List Char} {segments : List Segment} {width : Nat}
    (found : doubleQuoted buffer chars = some (segments, width)) : segments ≠ [] := by
  fun_induction doubleQuoted buffer chars generalizing segments width with
  | case1 => cases found
  | case2 =>
      cases found
      exact List.cons_ne_nil _ _
  | case4 buffer c chars notJoint escape inductionHypothesis =>
      obtain ⟨inner, -, same⟩ := Option.map_eq_some_iff.1 found
      cases same
      exact List.cons_ne_nil _ _
  | case3 _ _ inductionHypothesis | case5 _ _ _ _ _ inductionHypothesis
  | case6 _ _ _ _ _ _ inductionHypothesis =>
      obtain ⟨inner, present, same⟩ := Option.map_eq_some_iff.1 found
      cases same
      exact inductionHypothesis present

/-- A quoted lexeme has segments, and an unquoted one has characters. -/
theorem filled_of_read (found : read inWord c rest = .ok reading) :
    (∀ text, reading.lexeme = .plain text → text ≠ []) ∧
      ∀ segments, reading.lexeme = .quoted segments → segments ≠ [] := by
  cases front inWord c with
  | blank blank =>
      rw [read_blank inWord blank] at found
      cases found
      simp
  | backslash =>
      rw [read_backslash] at found
      cases found
      unfold readEscape
      split <;> simp
  | singleQuote =>
      rw [read_singleQuote] at found
      unfold readSingle at found
      simp only at found
      split at found
      · cases found
        simp
      · cases found
  | doubleQuote =>
      rw [read_doubleQuote] at found
      unfold readDouble at found
      split at found
      · rename_i segments width closed
        cases found
        simpa using doubleQuoted_ne_nil closed
      · cases found
  | hash outside =>
      rw [outside, read_hash] at found
      cases found
      simp
  | dollar =>
      cases reference : bracedReference? rest with
      | none =>
          rw [read_dollar_none inWord reference] at found
          cases found
          simp
      | some text =>
          rw [read_dollar_some inWord reference] at found
          cases found
          have long := three_le_length_of_bracedReference? reference
          have filled : text ≠ [] := List.length_pos_iff.1 (by omega)
          simpa using filled
  | other plain =>
      rw [plain] at found
      cases found
      cases spelled : operatorAt inWord (c :: rest) with
      | none =>
          unfold readPlain
          rw [spelled]
          simp
      | some entry =>
          rw [readPlain_of_operatorAt spelled]
          simp

end Lexeme

namespace Draft

theorem settled_addPlain_ne_nil (draft : Draft) {text : List Char} (filled : text ≠ []) :
    (draft.addPlain text).settled ≠ [] := by
  simp [addPlain, settled, filled]

theorem settled_addQuoted_ne_nil (draft : Draft) {segments : List Segment}
    (filled : segments ≠ []) : (draft.addQuoted segments).settled ≠ [] := by
  simp [addQuoted, settled, filled]

end Draft

/-! ## Tilings -/

/-- What stands between two tokens of a line, by the offsets of its first character and of the
character behind it. A comment starts where no word is in progress, and goes on up to a line
break or the end. -/
inductive Filler (chars : List Char) : Nat → Nat → Prop where
  | blank {start : Nat} {c : Char} (here : chars[start]? = some c) (blank : c = ' ' ∨ c = '\t') :
      Filler chars start (start + 1)
  | joint {start : Nat} (escape : chars[start]? = some '\\')
      (newline : chars[start + 1]? = some '\n') : Filler chars start (start + 2)
  | comment {scan : Scan} {text behind : List Char}
      (reads : Scan.Reads .initial chars scan ('#' :: (text ++ behind)))
      (outside : scan.draft = none) (unbroken : '\n' ∉ text)
      (ends : ∀ c ∈ behind.head?, c = '\n') :
      Filler chars scan.position (scan.position + (text.length + 1))

/-- The characters up to an offset are divided into tokens, latest first, and fillers. -/
inductive Tiled (chars : List Char) : Nat → List Token → Prop where
  | nothing : Tiled chars 0 []
  | token {position stop : Nat} {before : List Token} {token : Token}
      (tiled : Tiled chars position before) (starts : token.start = position)
      (stops : token.stop = stop) (solid : position < stop)
      (segmented : ∀ word, token = .word word → word.segments ≠ []) :
      Tiled chars stop (token :: before)
  | filler {position stop : Nat} {before : List Token} (tiled : Tiled chars position before)
      (filler : Filler chars position stop) : Tiled chars stop before

/-- A token takes up the character at an offset. -/
def Token.Covers (token : Token) (index : Nat) : Prop :=
  token.start ≤ index ∧ index < token.stop

section Tiled

variable {chars : List Char} {position : Nat} {tokens : List Token}

theorem Filler.lt {start stop : Nat} (filler : Filler chars start stop) : start < stop := by
  cases filler <;> omega

theorem Tiled.span (tiled : Tiled chars position tokens) :
    ∀ token ∈ tokens, token.start < token.stop ∧ token.stop ≤ position := by
  induction tiled with
  | nothing => exact List.forall_mem_nil _
  | token tiled starts stops solid segmented inductionHypothesis =>
      rw [List.forall_mem_cons]
      refine ⟨⟨by omega, by omega⟩, fun other member => ?_⟩
      have span := inductionHypothesis other member
      exact ⟨span.1, by omega⟩
  | filler tiled filler inductionHypothesis =>
      intro token member
      have span := inductionHypothesis token member
      have later := filler.lt
      exact ⟨span.1, by omega⟩

theorem Tiled.pairwise (tiled : Tiled chars position tokens) :
    tokens.Pairwise fun later earlier => earlier.stop ≤ later.start := by
  induction tiled with
  | nothing => exact List.Pairwise.nil
  | token tiled starts stops solid segmented inductionHypothesis =>
      refine List.pairwise_cons.2 ⟨fun earlier member => ?_, inductionHypothesis⟩
      rw [starts]
      exact (tiled.span earlier member).2
  | filler tiled filler inductionHypothesis => exact inductionHypothesis

theorem Tiled.segmented (tiled : Tiled chars position tokens) :
    ∀ word, .word word ∈ tokens → word.segments ≠ [] := by
  induction tiled with
  | nothing => exact fun word member => absurd member List.not_mem_nil
  | token tiled starts stops solid segmented inductionHypothesis =>
      intro word member
      obtain same | earlier := List.mem_cons.1 member
      · exact segmented word same.symm
      · exact inductionHypothesis word earlier
  | filler tiled filler inductionHypothesis => exact inductionHypothesis

/-- Every character is taken up by a token or stands in a filler, which no token touches. -/
theorem Tiled.exists_filler (tiled : Tiled chars position tokens) {index : Nat}
    (before : index < position) (bare : ∀ token ∈ tokens, ¬ token.Covers index) :
    ∃ start stop, Filler chars start stop ∧ start ≤ index ∧ index < stop ∧ stop ≤ position ∧
      ∀ token ∈ tokens, token.stop ≤ start ∨ stop ≤ token.start := by
  induction tiled with
  | nothing => exact absurd before (Nat.not_lt_zero index)
  | token tiled starts stops solid segmented inductionHypothesis =>
      rw [List.forall_mem_cons] at bare
      have left := Nat.lt_of_not_le fun right => bare.1 ⟨starts ▸ right, stops ▸ before⟩
      obtain ⟨start, stop, filler, first, last, within, apart⟩ :=
        inductionHypothesis left bare.2
      refine ⟨start, stop, filler, first, last, by omega, ?_⟩
      rw [List.forall_mem_cons]
      exact ⟨.inr (by omega), apart⟩
  | @filler position stop earlier tiled filler inductionHypothesis =>
      by_cases left : index < position
      · obtain ⟨first, last, other, starts, stops, within, apart⟩ := inductionHypothesis left bare
        have later := filler.lt
        exact ⟨first, last, other, starts, stops, by omega, apart⟩
      · exact ⟨position, stop, filler, by omega, before, Nat.le_refl _,
          fun token member => .inl (tiled.span token member).2⟩

end Tiled

/-! ## Scans tile -/

namespace Scan

variable {scan : Scan} {chars rest : List Char} {c : Char} {reading : Lexeme.Reading}
  {tokens : List Token}

/-- What a scan has read is tiled, up to the word in progress if there is one. -/
def IsTiled (chars : List Char) (scan : Scan) : Prop :=
  match scan.draft with
  | none => Tiled chars scan.position scan.tokens
  | some draft =>
      Tiled chars draft.start scan.tokens ∧ draft.start < scan.position ∧ draft.settled ≠ []

theorem isTiled_of_none (outside : scan.draft = none) :
    scan.IsTiled chars ↔ Tiled chars scan.position scan.tokens := by
  rw [IsTiled, outside]

theorem isTiled_of_some {draft : Draft} (inside : scan.draft = some draft) :
    scan.IsTiled chars ↔
      Tiled chars draft.start scan.tokens ∧ draft.start < scan.position ∧ draft.settled ≠ [] := by
  rw [IsTiled, inside]

/-- Once the word in progress has ended, the tokens tile what has been read. -/
theorem IsTiled.closedTokens (tiled : scan.IsTiled chars) :
    Tiled chars scan.position scan.closedTokens := by
  rw [Scan.closedTokens]
  cases inside : scan.draft with
  | none => exact (isTiled_of_none inside).1 tiled
  | some draft =>
      obtain ⟨before, solid, filled⟩ := (isTiled_of_some inside).1 tiled
      have segmented : ∀ word, Token.word (draft.word scan.position) = .word word →
          word.segments ≠ [] := by
        rintro _ ⟨⟩
        exact fun empty => filled (List.reverse_eq_nil_iff.1 empty)
      exact .token before rfl rfl solid segmented

/-- What is passed over between tokens is a filler; inside a word it is part of the word. -/
theorem IsTiled.pass (tiled : scan.IsTiled chars) {stop : Nat} (later : scan.position < stop)
    (filler : scan.draft = none → Filler chars scan.position stop) :
    IsTiled chars { scan with position := stop } := by
  cases inside : scan.draft with
  | none =>
      rw [isTiled_of_none inside] at tiled
      rw [isTiled_of_none rfl]
      exact .filler tiled (filler inside)
  | some draft =>
      obtain ⟨before, solid, filled⟩ := (isTiled_of_some inside).1 tiled
      rw [isTiled_of_some rfl]
      exact ⟨before, Nat.lt_trans solid later, filled⟩

/-- A word in progress, or a fresh one, may be made longer. -/
theorem IsTiled.extend (tiled : scan.IsTiled chars) {draft : Draft} {position : Nat}
    (start : draft.start = scan.openDraft.start) (later : scan.position < position)
    (filled : draft.settled ≠ []) : IsTiled chars ⟨position, some draft, scan.tokens⟩ := by
  rw [isTiled_of_some rfl, start, openDraft]
  cases inside : scan.draft with
  | none => exact ⟨(isTiled_of_none inside).1 tiled, later, filled⟩
  | some old =>
      obtain ⟨before, solid, -⟩ := (isTiled_of_some inside).1 tiled
      exact ⟨before, Nat.lt_trans solid later, filled⟩

theorem getElem?_position (reads : Reads .initial chars scan rest) (ahead : Nat) :
    chars[scan.position + ahead]? = rest[ahead]? := by
  obtain ⟨front, rfl, position⟩ := reads.consumed
  have length : scan.position = front.length := position.trans (Nat.zero_add _)
  rw [length, List.getElem?_append_right (Nat.le_add_right _ _), Nat.add_sub_cancel_left]

/-- A comment is a filler. -/
theorem filler_comment (reads : Reads .initial chars scan ('#' :: rest))
    (outside : scan.draft = none) :
    Filler chars scan.position
      (scan.position + ((rest.takeWhile (· != '\n')).length + 1)) := by
  have unbroken : '\n' ∉ rest.takeWhile (· != '\n') := by
    intro member
    have passes := List.all_eq_true.1 List.all_takeWhile _ member
    simp at passes
  have ends : ∀ d ∈ (rest.dropWhile (· != '\n')).head?, d = '\n' := by
    intro d front
    have stops := List.head?_dropWhile_not (· != '\n') rest
    rw [Option.mem_def.1 front] at stops
    simpa using stops
  rw [← List.takeWhile_append_dropWhile (p := (· != '\n')) (l := rest)] at reads
  exact .comment reads outside unbroken ends

/-- Where a lexeme stands, it adds a token or a filler to what is tiled, or makes the word in
progress longer. -/
theorem IsTiled.advance (tiled : scan.IsTiled chars)
    (reads : Reads .initial chars scan (c :: rest))
    (found : Lexeme.read scan.draft.isSome c rest = .ok reading) :
    (scan.advance reading).IsTiled chars := by
  have here : chars[scan.position]? = some c := getElem?_position reads 0
  have later : scan.position < scan.position + reading.width :=
    Nat.lt_add_of_pos_right reading.width_pos
  have filled := Lexeme.filled_of_read found
  unfold Scan.advance
  cases Lexeme.origin found with
  | blank front lexeme width =>
      rw [lexeme, width, isTiled_of_none rfl]
      exact .filler tiled.closedTokens (.blank here front)
  | joint front behind lexeme width =>
      have next : chars[scan.position + 1]? = rest[0]? := getElem?_position reads 1
      rw [behind] at next
      rw [front] at here
      rw [width] at later
      rw [lexeme, width]
      exact tiled.pass later fun _ => .joint here next
  | comment front outside lexeme width =>
      rw [front] at reads
      rw [width] at later
      rw [lexeme, width]
      exact tiled.pass later (filler_comment reads)
  | @operator spelling kind spelled lexeme width =>
      rw [lexeme, isTiled_of_none rfl]
      exact .token tiled.closedTokens rfl rfl later fun word same => nomatch same
  | @plain text lexeme =>
      rw [lexeme]
      exact tiled.extend rfl later (Draft.settled_addPlain_ne_nil _ (filled.1 text lexeme))
  | @quoted segments lexeme =>
      rw [lexeme]
      exact tiled.extend rfl later (Draft.settled_addQuoted_ne_nil _ (filled.2 segments lexeme))

/-- The tokens that a scan ends with tile the whole line. -/
theorem tiled_of_finish {left : List Char} (reads : Reads .initial chars scan left)
    (tiled : scan.IsTiled chars) (finished : scan.finish left = .ok tokens) :
    Tiled chars chars.length tokens.reverse := by
  fun_induction finish scan left with
  | case1 scan =>
      obtain ⟨front, whole, position⟩ := reads.consumed
      have length : scan.position = chars.length := by
        rw [whole, List.append_nil, position]
        exact Nat.zero_add _
      cases finished
      rw [List.reverse_reverse, ← length]
      exact tiled.closedTokens
  | case2 scan c rest error failed => cases finished
  | case3 scan c rest reading found inductionHypothesis =>
      exact inductionHypothesis (reads.trans (.step found .done)) (tiled.advance reads found)
        finished

end Scan

/-- The tokens take up characters of a line, one token behind the other, words have segments,
and each character that no token takes up stands in a filler between them. -/
structure Tiles (chars : List Char) (tokens : List Token) : Prop where
  spans : ∀ token ∈ tokens, token.start < token.stop ∧ token.stop ≤ chars.length
  ordered : tokens.Pairwise fun left right => left.stop ≤ right.start
  segmented : ∀ word, .word word ∈ tokens → word.segments ≠ []
  between : ∀ index < chars.length, (∀ token ∈ tokens, ¬ token.Covers index) →
    ∃ start stop, Filler chars start stop ∧ start ≤ index ∧ index < stop ∧
      ∀ token ∈ tokens, token.stop ≤ start ∨ stop ≤ token.start

/-- The tokens of a line tile it. -/
theorem tiles_of_scan {line : String} {tokens : List Token}
    (scanned : Token.scan line = .ok tokens) : Tiles line.toList tokens := by
  have start : Scan.initial.IsTiled line.toList := (Scan.isTiled_of_none rfl).2 .nothing
  have tiled := Scan.tiled_of_finish .done start scanned
  constructor
  · exact fun token member => tiled.span token (List.mem_reverse.2 member)
  · exact List.pairwise_reverse.1 tiled.pairwise
  · exact fun word member => tiled.segmented word (List.mem_reverse.2 member)
  · intro index within bare
    obtain ⟨first, last, filler, starts, stops, -, apart⟩ :=
      tiled.exists_filler within fun token member => bare token (List.mem_reverse.1 member)
    exact ⟨first, last, filler, starts, stops,
      fun token member => apart token (List.mem_reverse.2 member)⟩

/-- A continuation inside a word, one between words, an empty word in quotes and a comment. -/
theorem tiles_of_scan_mixed :
    Token.scan "a\\\nb \\\n2>'' # c" =
        .ok [.word ⟨[⟨"ab", .unquoted⟩], 0, 4⟩, .operator .writeError 7 9,
          .word ⟨[⟨"", .single⟩], 9, 11⟩] ∧
      Tiles "a\\\nb \\\n2>'' # c".toList
        [.word ⟨[⟨"ab", .unquoted⟩], 0, 4⟩, .operator .writeError 7 9,
          .word ⟨[⟨"", .single⟩], 9, 11⟩] :=
  ⟨by cbv, tiles_of_scan (by cbv)⟩

/-! ## Ranges of tokens -/

/-- The characters of a line from the start of one of its tokens to the stop of another one,
or the same, are scanned to the tokens from the one to the other, with their offsets counted
from the start of the first. -/
theorem scan_between {line : String} {tokens : List Token}
    (scanned : Token.scan line = .ok tokens) {i j : Nat} (ordered : i ≤ j) {first last : Token}
    (front : tokens[i]? = some first) (back : tokens[j]? = some last) :
    ∃ found, Token.scan (String.ofList
        ((line.toList.drop first.start).take (last.stop - first.start))) = .ok found ∧
      found.map (Token.shift first.start) = (tokens.take (j + 1)).drop i := by
  have within : j < tokens.length := (List.getElem?_eq_some_iff.1 back).1
  have head : ((tokens.take (j + 1)).drop i).head? = some first := by
    rw [List.head?_drop, List.getElem?_take_of_lt (Nat.lt_succ_of_le ordered), front]
  have ending : ((tokens.take (j + 1)).drop i).getLast? = some last := by
    rw [List.getLast?_drop, if_neg (by rw [List.length_take]; omega), List.getLast?_take,
      if_neg (Nat.succ_ne_zero j), Nat.add_sub_cancel, back]
    rfl
  have whole : tokens =
      tokens.take i ++ (tokens.take (j + 1)).drop i ++ tokens.drop (j + 1) := by
    have earlier : (tokens.take (j + 1)).take i = tokens.take i := by
      rw [List.take_take, Nat.min_eq_left (Nat.le_succ_of_le ordered)]
    rw [← earlier, List.take_append_drop, List.take_append_drop]
  rw [whole] at scanned
  exact Token.scan_slice scanned head ending

/-- Behind the cut a digit still opens an operator, and a reference is still closed. -/
theorem scan_between_reference :
    Token.scan "x;2>$\x7ba b\x7d&c" =
        .ok [.word ⟨[⟨"x", .unquoted⟩], 0, 1⟩, .operator .semicolon 1 2,
          .operator .writeError 2 4, .word ⟨[⟨"$\x7ba b\x7d&c", .unquoted⟩], 4, 12⟩] ∧
      ∃ found, Token.scan (String.ofList
          (("x;2>$\x7ba b\x7d&c".toList.drop 2).take (12 - 2))) = .ok found ∧
        found.map (Token.shift 2) = [.operator .writeError 2 4,
          .word ⟨[⟨"$\x7ba b\x7d&c", .unquoted⟩], 4, 12⟩] := by
  have scanned : Token.scan "x;2>$\x7ba b\x7d&c" =
      .ok [.word ⟨[⟨"x", .unquoted⟩], 0, 1⟩, .operator .semicolon 1 2,
        .operator .writeError 2 4, .word ⟨[⟨"$\x7ba b\x7d&c", .unquoted⟩], 4, 12⟩] := by cbv
  have cut := scan_between scanned (Nat.le_succ 2) rfl rfl
  exact ⟨scanned, cut⟩

end VirtualShell
