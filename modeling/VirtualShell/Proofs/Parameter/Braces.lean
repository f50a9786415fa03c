import VirtualShell.Proofs.Parameter
import VirtualShell.Proofs.Token.Unquoted

/-!
Contract: the braces that keep a word together are those of the references in it.

Owns:
- `Template.Reaches`, how far the parts of a text get, and `Template.arrival`: every dollar of a
  text is where a part starts, or the second sign of `$$`, or between the braces of a reference;
- `Template.Encloses`, what stands between the braces that the expansion gets to, and what this
  means for the expanded text: `Template.expandVariables_of_reference` where the braces are those
  of a reference, `Template.expandVariables_of_sign` where they are text;
- `encloses_of_needsQuotes`: what needs quotes in an unquoted segment stands between the braces of
  a reference that its expansion finds, unless the dollar in front of them is taken for the second
  sign of `$$`; `exists_blank_outside_references`, that a segment can have such a dollar.

A scan looks for a dollar with a brace, and does not ask what is in front of it. The expansion goes
through the segment part by part. The two meet at each closing brace, and they can part where a
dollar that opens braces for the one ends a reference for the other.
-/

namespace VirtualShell

namespace Template

/-! ## Up to a dollar -/

/-- A dollar ends a run of characters that it is not one of. -/
theorem ends_at_dollar {taken : Char → Bool} {chars : List Char}
    (ends : ∀ c ∈ chars.head?, taken c = false) (stops : taken '$' = false) (rest : List Char) :
    ∀ c ∈ (chars ++ '$' :: rest).head?, taken c = false := by
  cases chars with
  | nil =>
      rintro _ ⟨⟩
      exact stops
  | cons c others => simpa using ends c rfl

/-- A run of characters ends at a dollar, whatever follows. -/
theorem takeWhile_append_dollar (before rest : List Char) :
    (before ++ '$' :: rest).takeWhile (· != '$') = before.takeWhile (· != '$') := by
  obtain ⟨run, others, rfl, all, ends⟩ := exists_run (· != '$') before
  rw [List.append_assoc, takeWhile_append_of_head? all (ends_at_dollar ends (by decide) rest),
    takeWhile_append_of_head? all ends]

/-- A reference that ends in front of a dollar does not depend on what follows. -/
theorem reference_append {before rest : List Char}
    (fits : (reference (before ++ '$' :: rest)).2 ≤ before.length) :
    reference (before ++ '$' :: rest) = reference before := by
  cases behindDollar before with
  | lone lone =>
      cases before with
      | nil =>
          rw [List.nil_append, reference_single (by decide)] at fits
          exact absurd fits (Nat.not_succ_le_zero 0)
      | cons c others =>
          rw [reference_of_lone lone, List.cons_append, reference_of_lone]
          exact lone
  | name named ends =>
      rw [List.append_assoc, reference_name named (ends_at_dollar ends (by decide) rest),
        reference_name named ends]
  | sign single => rw [List.cons_append, reference_single single, reference_single single]
  | @braced inner others closed =>
      rw [List.cons_append, List.append_assoc, List.cons_append, reference_braced closed,
        reference_braced closed]
  | @unclosed others unclosed =>
      rw [List.cons_append, List.length_cons] at fits
      by_cases closed : '}' ∈ rest
      · obtain ⟨inner, more, rfl, clear⟩ := List.eq_append_cons_of_mem closed
        have within : '}' ∉ others ++ '$' :: inner := by simp [unclosed, clear]
        have spelled : others ++ '$' :: (inner ++ '}' :: more) =
            others ++ '$' :: inner ++ '}' :: more := by simp
        rw [spelled, reference_braced within] at fits
        simp only [List.length_append, List.length_cons] at fits
        omega
      · have within : '}' ∉ others ++ '$' :: rest := by simp [unclosed, closed]
        rw [reference_unclosed within] at fits
        simp only [List.length_append, List.length_cons] at fits
        omega

/-! ## How far the parts of a text get -/

/-- Taking part after part from the front of a text, as `ofChars` does, its expansion gets to a rest
of it. -/
inductive Reaches : List Char → List Char → Prop where
  | done {chars : List Char} : Reaches chars chars
  | text {c : Char} {rest behind : List Char} (clear : c ≠ '$')
      (onward : Reaches (rest.drop (rest.takeWhile (· != '$')).length) behind) :
      Reaches (c :: rest) behind
  | dollar {rest behind : List Char} (onward : Reaches (rest.drop (reference rest).2) behind) :
      Reaches ('$' :: rest) behind

namespace Reaches

variable {chars behind rest : List Char}

theorem trans {further : List Char} (first : Reaches chars behind)
    (second : Reaches behind further) : Reaches chars further := by
  induction first with
  | done => exact second
  | text clear _ inductionHypothesis => exact .text clear (inductionHypothesis second)
  | dollar _ inductionHypothesis => exact .dollar (inductionHypothesis second)

theorem length_le (reaches : Reaches chars behind) : behind.length ≤ chars.length := by
  induction reaches with
  | done => exact Nat.le_refl _
  | text _ _ inductionHypothesis =>
      rw [List.length_drop] at inductionHypothesis
      rw [List.length_cons]
      omega
  | dollar _ inductionHypothesis =>
      rw [List.length_drop] at inductionHypothesis
      rw [List.length_cons]
      omega

/-- Behind a run without dollars the next part starts. -/
theorem of_run {c : Char} {run : List Char} (clear : c ≠ '$') (clean : '$' ∉ run)
    (ends : ∀ d ∈ rest.head?, d = '$') : Reaches (c :: (run ++ rest)) rest := by
  have whole : (run ++ rest).takeWhile (· != '$') = run := by
    refine takeWhile_append_of_head? (fun d member => bne_iff_ne.2 ?_) fun d first => ?_
    · rintro rfl
      exact clean member
    · simp [ends d first]
  refine .text clear ?_
  rw [whole, List.drop_left]
  exact .done

theorem of_reference (taken : List Char) {piece : Piece}
    (refers : reference (taken ++ rest) = (piece, taken.length)) :
    Reaches ('$' :: (taken ++ rest)) rest := by
  refine .dollar ?_
  rw [refers, List.drop_left]
  exact .done

/-- Where a part starts with a dollar, the text in front is taken apart as if it stood alone. -/
theorem ofChars_append {before : List Char}
    (reaches : Reaches (before ++ '$' :: rest) ('$' :: rest)) :
    ofChars (before ++ '$' :: rest) = ofChars before ++ ofChars ('$' :: rest) := by
  generalize whole : before ++ '$' :: rest = chars at reaches ⊢
  generalize left : '$' :: rest = behind at reaches ⊢
  induction reaches generalizing before with
  | done =>
      rw [← left] at whole
      rw [List.append_left_eq_self.1 whole]
      simp [ofChars]
  | @text c others behind clear onward inductionHypothesis =>
      cases before with
      | nil => exact absurd (List.cons.inj whole).1.symm clear
      | cons d before =>
          obtain ⟨rfl, rfl⟩ := List.cons.inj whole
          have fits : (before.takeWhile (· != '$')).length ≤ before.length :=
            (List.takeWhile_prefix _).length_le
          have split : (before ++ '$' :: rest).drop (before.takeWhile (· != '$')).length =
              before.drop (before.takeWhile (· != '$')).length ++ '$' :: rest :=
            List.drop_append_of_le_length fits
          rw [List.append_eq, takeWhile_append_dollar] at inductionHypothesis
          rw [List.append_eq, ofChars, if_neg clear, ofChars, if_neg clear, takeWhile_append_dollar]
          simp only
          rw [inductionHypothesis split.symm left, List.cons_append]
  | @dollar others behind onward inductionHypothesis =>
      have short := onward.length_le
      rw [← left, List.length_drop, List.length_cons] at short
      cases before with
      | nil =>
          -- The dollar is the one to be reached, and the part that starts with it goes past it.
          rw [(List.cons.inj whole).2] at short
          omega
      | cons d before =>
          obtain ⟨rfl, rfl⟩ := List.cons.inj whole
          rw [List.append_eq] at short inductionHypothesis ⊢
          rw [List.length_append, List.length_cons] at short
          have fits : (reference (before ++ '$' :: rest)).2 ≤ before.length := by omega
          have same := reference_append fits
          rw [same] at fits inductionHypothesis
          have split : (before ++ '$' :: rest).drop (reference before).2 =
              before.drop (reference before).2 ++ '$' :: rest :=
            List.drop_append_of_le_length fits
          rw [ofChars, if_pos rfl, ofChars, if_pos rfl, same]
          simp only
          rw [inductionHypothesis split.symm left, List.cons_append]

end Reaches

/-- Where the parts of a text stand when they come to a dollar: a part starts there, the dollar is
the second sign of `$$`, or it stands behind an opening brace that is still to be closed. -/
inductive Arrival (before rest : List Char) : Prop where
  | start (reaches : Reaches (before ++ '$' :: rest) ('$' :: rest))
  | sign {front : List Char} (last : before = front ++ ['$'])
      (reaches : Reaches (before ++ '$' :: rest) ('$' :: '$' :: rest))
  | brace {front inside : List Char} (opened : before = front ++ '$' :: '{' :: inside)
      (unclosed : '}' ∉ inside)
      (reaches : Reaches (before ++ '$' :: rest) ('$' :: '{' :: (inside ++ '$' :: rest)))

/-- Parts in front do not matter. -/
theorem Arrival.behind {front before rest : List Char}
    (reaches : Reaches (front ++ before ++ '$' :: rest) (before ++ '$' :: rest))
    (arrival : Arrival before rest) : Arrival (front ++ before) rest := by
  cases arrival with
  | start onward => exact .start (reaches.trans onward)
  | sign last onward =>
      exact .sign (by rw [last, List.append_assoc]) (reaches.trans onward)
  | brace opened unclosed onward =>
      exact .brace (by rw [opened, List.append_assoc]) unclosed (reaches.trans onward)

theorem arrival_text {c : Char} {before rest : List Char} (clear : c ≠ '$')
    (shorter : ∀ others : List Char, others.length ≤ before.length → Arrival others rest) :
    Arrival (c :: before) rest := by
  obtain ⟨run, others, rfl, all, ends⟩ := exists_run (· != '$') before
  have clean : '$' ∉ run := fun member => absurd (all _ member) (by decide)
  have next : ∀ d ∈ (others ++ '$' :: rest).head?, d = '$' := by
    cases others with
    | nil => simp
    | cons d others => simpa using ends d rfl
  have reaches := Reaches.of_run clear clean next
  rw [← List.cons_append, ← List.append_assoc] at reaches
  rw [← List.cons_append]
  exact .behind reaches (shorter others (by rw [List.length_append]; omega))

theorem arrival_dollar {before rest : List Char}
    (shorter : ∀ others : List Char, others.length ≤ before.length → Arrival others rest) :
    Arrival ('$' :: before) rest := by
  cases behindDollar before with
  | lone lone =>
      cases before with
      | nil => exact .sign (List.nil_append _).symm .done
      | cons c others =>
          have reaches : Reaches (['$'] ++ (c :: others) ++ '$' :: rest)
              (c :: others ++ '$' :: rest) := .of_reference [] (reference_of_lone lone)
          exact .behind reaches (shorter _ (Nat.le_refl _))
  | @name name others named ends =>
      have refers := reference_name named (ends_at_dollar ends (by decide) rest)
      have reaches : Reaches ('$' :: name.toList ++ others ++ '$' :: rest)
          (others ++ '$' :: rest) := by
        rw [List.append_assoc]
        exact .of_reference _ refers
      exact .behind reaches (shorter others (by rw [List.length_append]; omega))
  | @sign c others single =>
      have reaches : Reaches ('$' :: [c] ++ others ++ '$' :: rest) (others ++ '$' :: rest) :=
        .of_reference [c] (reference_single single _)
      exact .behind reaches (shorter others (Nat.le_succ _))
  | @braced inner others closed =>
      have refers : reference ('{' :: inner ++ ['}'] ++ (others ++ '$' :: rest)) =
          (braced inner, ('{' :: inner ++ ['}']).length) := by
        simpa using reference_braced closed (others ++ '$' :: rest)
      have reaches : Reaches ('$' :: '{' :: inner ++ ['}'] ++ others ++ '$' :: rest)
          (others ++ '$' :: rest) := by
        rw [List.append_assoc]
        exact .of_reference _ refers
      have arrival := Arrival.behind reaches
        (shorter others (by simp only [List.length_cons, List.length_append]; omega))
      simpa using arrival
  | unclosed unclosed => exact .brace (List.nil_append _).symm unclosed .done

/-- Every dollar of a text is where a part starts, or the second sign of `$$`, or between the
braces of a reference. -/
theorem arrival (before rest : List Char) : Arrival before rest := by
  -- A part takes any number of characters away, so the induction is on the length.
  induction size : before.length using Nat.strong_induction_on generalizing before with
  | _ size inductionHypothesis =>
  subst size
  cases before with
  | nil => exact .start .done
  | cons c before =>
      have shorter : ∀ others : List Char, others.length ≤ before.length → Arrival others rest :=
        fun others atMost =>
          inductionHypothesis others.length (Nat.lt_succ_of_le atMost) others rfl
      by_cases dollar : c = '$'
      · exact dollar ▸ arrival_dollar shorter
      · exact arrival_text dollar shorter

/-! ## What stands between braces -/

/-- The expansion of a text gets to `opening`, and the character at an offset stands behind it and
before the next closing brace. -/
def Encloses (opening text : List Char) (index : Nat) : Prop :=
  ∃ before inner rest, text = before ++ (opening ++ (inner ++ '}' :: rest)) ∧ '}' ∉ inner ∧
    Reaches text (opening ++ (inner ++ '}' :: rest)) ∧
    before.length + opening.length ≤ index ∧
    index < before.length + opening.length + inner.length

/-- What stands in front of a part is expanded as if it stood alone, and so is what is behind. -/
theorem expandVariables_of_reaches {before rest : List Char} {piece : Piece} {width : Nat}
    (reaches : Reaches (before ++ '$' :: rest) ('$' :: rest))
    (refers : reference rest = (piece, width)) (parameters : Parameters) :
    expandVariables parameters (String.ofList (before ++ '$' :: rest)) =
      expandVariables parameters (String.ofList before) ++ piece.render parameters ++
        expandVariables parameters (String.ofList (rest.drop width)) := by
  simp only [expandVariables, ofText, String.toList_ofList]
  rw [reaches.ofChars_append, ofChars_dollar refers]
  simp only [render, List.map_append, List.map_cons, String.join_append, String.join_cons,
    String.append_assoc]

/-- Where the expansion gets to a dollar with a brace, the braces become the value that they ask
for, and no character between them stands for itself. -/
theorem expandVariables_of_reference {text : String} {index : Nat}
    (encloses : Encloses ['$', '{'] text.toList index) :
    ∃ before inner rest : String, text = before ++ "$\x7b" ++ inner ++ "\x7d" ++ rest ∧
      before.length + 2 ≤ index ∧ index < before.length + 2 + inner.length ∧
      ∀ parameters, expandVariables parameters text =
        expandVariables parameters before ++ (braced inner.toList).render parameters ++
          expandVariables parameters rest := by
  obtain ⟨before, inner, rest, spelled, closed, reaches, left, right⟩ := encloses
  rw [spelled] at reaches
  obtain rfl := String.toList_inj.1 (spelled.trans (String.toList_ofList).symm)
  refine ⟨String.ofList before, String.ofList inner, String.ofList rest, ?_, ?_, ?_,
    fun parameters => ?_⟩
  · rw [← String.toList_inj]
    simp
  · simpa using left
  · simpa using right
  · refine (expandVariables_of_reaches reaches (reference_braced closed rest) parameters).trans ?_
    simp

/-- Where it gets to two dollars with a brace, they become the value of `$$`, and the braces are
text as any other. -/
theorem expandVariables_of_sign {text : String} {index : Nat}
    (encloses : Encloses ['$', '$', '{'] text.toList index) :
    ∃ before inner rest : String, text = before ++ "$$\x7b" ++ inner ++ "\x7d" ++ rest ∧
      before.length + 3 ≤ index ∧ index < before.length + 3 + inner.length ∧
      ∀ parameters, expandVariables parameters text =
        expandVariables parameters before ++ (parameters.lookup? "$").getD "" ++
          expandVariables parameters ("\x7b" ++ inner ++ "\x7d" ++ rest) := by
  obtain ⟨before, inner, rest, spelled, closed, reaches, left, right⟩ := encloses
  rw [spelled] at reaches
  obtain rfl := String.toList_inj.1 (spelled.trans (String.toList_ofList).symm)
  have behind : "\x7b" ++ String.ofList inner ++ "\x7d" ++ String.ofList rest =
      String.ofList ('{' :: (inner ++ '}' :: rest)) := by
    rw [← String.toList_inj]
    simp
  refine ⟨String.ofList before, String.ofList inner, String.ofList rest, ?_, ?_, ?_,
    fun parameters => ?_⟩
  · rw [← String.toList_inj]
    simp
  · simpa using left
  · simpa using right
  · have sign : (Text.isDigit '$' || isSpecialParameter '$') = true := by decide
    rw [behind]
    refine (expandVariables_of_reaches reaches (reference_single sign _) parameters).trans ?_
    simp [Piece.render]

/-- Braces behind a dollar are those of a reference, unless the dollar is the second sign of
`$$`. -/
theorem encloses_of_inBraces {text : List Char} {index : Nat} (within : InBraces text index) :
    Encloses ['$', '{'] text index ∨ Encloses ['$', '$', '{'] text index := by
  obtain ⟨before, inner, rest, rfl, closed, left, right⟩ := within
  cases arrival before ('{' :: (inner ++ '}' :: rest)) with
  | start reaches =>
      exact .inl ⟨before, inner, rest, rfl, closed, reaches, left, right⟩
  | @sign front last reaches =>
      rw [last, List.length_append, List.length_singleton] at left right
      exact .inr ⟨front, inner, rest, by simp [last], closed, reaches, left, right⟩
  | @brace front inside opened unclosed reaches =>
      -- The reference has been opened before, and what closes it closes these braces too.
      rw [opened, List.length_append, List.length_cons, List.length_cons] at left right
      refine .inl ⟨front, inside ++ '$' :: '{' :: inner, rest, by simp [opened], ?_, ?_, ?_, ?_⟩
      · simp [unclosed, closed]
      · simpa using reaches
      · simp only [List.length_cons, List.length_nil]
        omega
      · simp only [List.length_append, List.length_cons, List.length_nil]
        omega

end Template

/-- Scan and expansion agree on braces. What needs quotes in an unquoted segment of a word of a line
stands between the braces of a reference that the expansion of the segment finds, or else between
braces whose dollar the expansion has taken for the second sign of `$$`. Ampersands need quotes
where two meet, unless continuations part two of them on the line. -/
theorem encloses_of_needsQuotes {line : String} {tokens : List Token}
    (scanned : Token.scan line = .ok tokens) {word : Word} (isWord : .word word ∈ tokens)
    {segment : Segment} (part : segment ∈ word.segments) (unquoted : segment.quoting = .unquoted)
    {index : Nat} (needs : NeedsQuotesAt segment.text.toList index)
    (lone : segment.text.toList[index]? = some '&' → ¬ PartsAmpersands line.toList) :
    Template.Encloses ['$', '{'] segment.text.toList index ∨
      Template.Encloses ['$', '$', '{'] segment.text.toList index := by
  have woven := woven_of_scan scanned isWord part unquoted
  exact Template.encloses_of_inBraces (woven.inBraces needs lone)

/-- Two ampersands in a fallback, behind a quoted part of the word and a value of `$$`. -/
theorem encloses_of_needsQuotes_fallback :
    Token.scan "'q'$$$\x7bX:-b&&c\x7d;d" =
        .ok [.word ⟨[⟨"q", .single⟩, ⟨"$$$\x7bX:-b&&c\x7d", .unquoted⟩], 0, 15⟩,
          .operator .semicolon 15 16, .word ⟨[⟨"d", .unquoted⟩], 16, 17⟩] ∧
      NeedsQuotesAt "$$$\x7bX:-b&&c\x7d".toList 8 ∧
      ¬ PartsAmpersands "'q'$$$\x7bX:-b&&c\x7d;d".toList ∧
      (Template.Encloses ['$', '{'] "$$$\x7bX:-b&&c\x7d".toList 8 ∨
        Template.Encloses ['$', '$', '{'] "$$$\x7bX:-b&&c\x7d".toList 8) := by
  have scanned : Token.scan "'q'$$$\x7bX:-b&&c\x7d;d" =
      .ok [.word ⟨[⟨"q", .single⟩, ⟨"$$$\x7bX:-b&&c\x7d", .unquoted⟩], 0, 15⟩,
        .operator .semicolon 15 16, .word ⟨[⟨"d", .unquoted⟩], 16, 17⟩] := by cbv
  have needs : NeedsQuotesAt "$$$\x7bX:-b&&c\x7d".toList 8 :=
    ⟨'&', by decide, by decide, fun _ => .inl (by decide)⟩
  have lone : ¬ PartsAmpersands "'q'$$$\x7bX:-b&&c\x7d;d".toList := fun parts =>
    absurd parts.backslash_mem (by decide)
  exact ⟨scanned, needs, lone, encloses_of_needsQuotes scanned List.mem_cons_self
    (List.mem_cons_of_mem _ List.mem_cons_self) rfl needs fun _ => lone⟩

/-- Behind `$$` a scan takes a brace for the opening one of a reference, and the blank behind it
for a part of the word; the expansion takes both for text. -/
theorem exists_blank_outside_references :
    ∃ (word : Word) (segment : Segment) (index : Nat),
      Token.scan "$$\x7ba b\x7d" = .ok [.word word] ∧ segment ∈ word.segments ∧
        segment.quoting = .unquoted ∧ segment.text.toList[index]? = some ' ' ∧
        NeedsQuotesAt segment.text.toList index ∧
        ¬ Template.Encloses ['$', '{'] segment.text.toList index := by
  refine ⟨⟨[⟨"$$\x7ba b\x7d", .unquoted⟩], 0, 7⟩, ⟨"$$\x7ba b\x7d", .unquoted⟩, 4, by cbv,
    List.mem_singleton_self _, rfl, by decide, ⟨' ', by decide, by decide, nofun⟩, ?_⟩
  have chars : "$$\x7ba b\x7d".toList = ['$', '$', '{', 'a', ' ', 'b', '}'] := by decide
  rintro ⟨before, inner, rest, -, -, reaches, -⟩
  simp only [chars] at reaches
  cases reaches with
  | text clear => exact clear rfl
  | dollar onward =>
      have sign : (Template.reference ['$', '{', 'a', ' ', 'b', '}']).2 = 1 := by
        decide +kernel
      rw [sign] at onward
      cases onward with
      | text clear onward =>
          have short := onward.length_le
          simp at short

end VirtualShell
