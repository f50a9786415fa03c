import VirtualShell.Command.Select
import VirtualShell.Proofs.Command.Reading
import VirtualShell.Proofs.Text.Integer

/-!
Contract: which lines `head` and `tail` print.

Owns:
- `Asks`, how arguments ask for a number of lines, and that they are read so;
- `tail_prints_last_lines`: the last lines of an input are printed, and with the first ones printed
  by `head` they are the whole input. This needs the number asked for not to lie between the number
  of lines and twice that number.

A count of lines is a numeral; where there are several, the last one counts.
-/

namespace VirtualShell.Command

open VirtualShell.Fallible VirtualShell.Text

/-! ## Asking for a number of lines -/

/-- The argument is an operand of `head` or `tail`: it has no `-n` in front and is no dash with
decimal digits. -/
def IsOperand (argument : String) : Prop :=
  (∀ text, argument ≠ "-n" ++ text) ∧
    ∀ text, text ≠ "" → (∀ c ∈ text.toList, isDecimal c = true) → argument ≠ "-" ++ text

/-- The arguments ask for a number of lines of some operands, for the number in front if they say
none themselves. -/
inductive Asks : Nat → List String → Nat → List String → Prop where
  | nothing (count : Nat) : Asks count [] count []
  | apart {before asked count : Nat} {text : String} {arguments operands : List String}
      (written : IsNumeral text asked) (behind : Asks asked arguments count operands) :
      Asks before ("-n" :: text :: arguments) count operands
  | joined {before asked count : Nat} {text : String} {arguments operands : List String}
      (written : IsNumeral text asked) (behind : Asks asked arguments count operands) :
      Asks before (("-n" ++ text) :: arguments) count operands
  | short {before asked count : Nat} {text : String} {arguments operands : List String}
      (written : IsNumeral text asked) (behind : Asks asked arguments count operands) :
      Asks before (("-" ++ text) :: arguments) count operands
  | operand {before count : Nat} {argument : String} {arguments operands : List String}
      (plain : IsOperand argument) (behind : Asks before arguments count operands) :
      Asks before (argument :: arguments) count (argument :: operands)

theorem readCount_eq_ok_iff {name text : String} {count : Nat} :
    readCount name text = .ok count ↔ IsNumeral text count := by
  unfold readCount
  constructor
  · intro read
    split at read
    · cases read
    · rename_i written
      split at read
      · rename_i value known
        obtain ⟨number, numeral, rfl⟩ :=
          exists_isNumeral_of_isDigits (by simpa using written) known
        cases read
        exact numeral
      · cases read
  · intro numeral
    rw [numeral.isDigits, numeral.readInteger]
    rfl

theorem countText?_eq_some_iff {argument text : String} :
    countText? argument = some text ↔
      argument = "-n" ++ text ∨
        text ≠ "" ∧ (∀ c ∈ text.toList, isDecimal c = true) ∧ argument = "-" ++ text := by
  have joined : argument = "-n" ++ text ↔ argument.toList = '-' :: 'n' :: text.toList := by
    simp [← String.toList_inj]
  have short : argument = "-" ++ text ↔ argument.toList = '-' :: text.toList := by
    simp [← String.toList_inj]
  have same (chars : List Char) : some (String.ofList chars) = some text ↔ chars = text.toList := by
    rw [Option.some_inj, ← String.toList_inj, String.toList_ofList]
  rw [joined, short, Ne, ← String.toList_eq_nil_iff]
  unfold countText?
  -- The two spellings never meet: the letter of the first is no digit.
  split
  · rename_i rest chars
    rw [chars, same]
    constructor
    · rintro rfl
      exact .inl rfl
    · rintro (front | ⟨-, decimals, front⟩)
      · exact (List.cons.inj (List.cons.inj front).2).2
      · rw [← (List.cons.inj front).2] at decimals
        exact absurd (decimals 'n' List.mem_cons_self) (by decide)
  · rename_i c rest other chars
    rw [chars]
    have unmarked : '-' :: c :: rest ≠ '-' :: 'n' :: text.toList := by
      intro front
      injection front with _ front
      injection front with marked _
      exact other marked
    split
    · rename_i decimals
      rw [same]
      constructor
      · intro chars
        rw [← chars]
        exact .inr ⟨List.cons_ne_nil _ _, List.all_eq_true.1 decimals, rfl⟩
      · rintro (front | ⟨-, -, front⟩)
        · exact absurd front unmarked
        · exact (List.cons.inj front).2
    · rename_i decimals
      refine iff_of_false nofun ?_
      rintro (front | ⟨-, all, front⟩)
      · exact unmarked front
      · rw [← (List.cons.inj front).2] at all
        exact decimals (List.all_eq_true.2 all)
  · rename_i unmarked undashed
    refine iff_of_false nofun ?_
    rintro (front | ⟨filled, -, front⟩)
    · exact unmarked _ front
    · obtain ⟨c, rest, chars⟩ := List.exists_cons_of_ne_nil filled
      rw [chars] at front
      exact undashed c rest front

theorem countText?_eq_none_iff {argument : String} :
    countText? argument = none ↔ IsOperand argument := by
  rw [Option.eq_none_iff_forall_ne_some]
  unfold IsOperand
  simp only [Ne, countText?_eq_some_iff, not_or, not_and]
  exact ⟨fun plain => ⟨fun text => (plain text).1, fun text => (plain text).2⟩,
    fun plain text => ⟨plain.1 text, plain.2 text⟩⟩

theorem IsOperand.ne_flag {argument : String} (plain : IsOperand argument) : argument ≠ "-n" :=
  plain.1 ""

theorem parseCount_apart {name text : String} {before asked : Nat} {arguments : List String}
    (read : readCount name text = .ok asked) :
    parseCount name before ("-n" :: text :: arguments) = parseCount name asked arguments := by
  rw [parseCount, read]

theorem parseCount_of_countText? {name argument text : String} {before asked : Nat}
    {arguments : List String} (together : countText? argument = some text) (filled : text ≠ "")
    (read : readCount name text = .ok asked) :
    parseCount name before (argument :: arguments) = parseCount name asked arguments := by
  have unlike : argument ≠ "-n" := by
    rintro rfl
    exact filled (Option.some.inj together).symm
  rw [parseCount, together]
  · simp only [read]
  · exact fun _ _ flag _ => unlike flag

theorem parseCount_of_isOperand {name argument : String} {before : Nat} {arguments : List String}
    (plain : IsOperand argument) :
    parseCount name before (argument :: arguments) =
      (parseCount name before arguments).map fun (count, operands) =>
        (count, argument :: operands) := by
  rw [parseCount, countText?_eq_none_iff.2 plain]
  exact fun _ _ flag _ => plain.ne_flag flag

/-- What arguments ask for is what is read from them. -/
theorem parseCount_eq_ok_iff {name : String} {before count : Nat}
    {arguments operands : List String} :
    parseCount name before arguments = .ok (count, operands) ↔
      Asks before arguments count operands := by
  constructor
  · intro read
    fun_induction parseCount generalizing operands with
    | case1 => 
        cases read
        exact .nothing _
    | case2 before text arguments asked written inductionHypothesis =>
        exact .apart (readCount_eq_ok_iff.1 written) (inductionHypothesis read)
    | case3 => cases read
    | case4 before argument arguments _ text together asked written inductionHypothesis =>
        have numeral := readCount_eq_ok_iff.1 written
        rcases countText?_eq_some_iff.1 together with rfl | ⟨-, -, rfl⟩
        · exact .joined numeral (inductionHypothesis read)
        · exact .short numeral (inductionHypothesis read)
    | case5 => cases read
    | case6 before argument arguments _ plain inductionHypothesis =>
        obtain ⟨⟨_, others⟩, behind, same⟩ := exists_of_map read
        cases same
        exact .operand (countText?_eq_none_iff.1 plain) (inductionHypothesis behind)
  · intro asked
    induction asked with
    | nothing count => rw [parseCount]
    | apart written _ inductionHypothesis =>
        rw [parseCount_apart (readCount_eq_ok_iff.2 written), inductionHypothesis]
    | @joined _ _ _ text _ _ written _ inductionHypothesis =>
        have together : countText? ("-n" ++ text) = some text :=
          countText?_eq_some_iff.2 (.inl rfl)
        rw [parseCount_of_countText? together written.ne_empty (readCount_eq_ok_iff.2 written),
          inductionHypothesis]
    | @short _ _ _ text _ _ written _ inductionHypothesis =>
        have together : countText? ("-" ++ text) = some text :=
          countText?_eq_some_iff.2 (.inr ⟨written.ne_empty, written.isDecimal, rfl⟩)
        rw [parseCount_of_countText? together written.ne_empty (readCount_eq_ok_iff.2 written),
          inductionHypothesis]
    | operand plain _ inductionHypothesis =>
        rw [parseCount_of_isOperand plain, inductionHypothesis]
        rfl

/-! ## Selecting lines -/

/-- The lines of an input, each with what ends it. -/
def Source.lines (source : Source) : List (List Char) :=
  linesWithEnds source.content.toList

/-- With one input, what is selected of its lines is printed without a header. -/
theorem start_linesCommand {context : Context} {world : World} {arguments operands : List String}
    {count : Nat} {source : Source} (allowed : .read ∉ world.storage.refused)
    (asked : Asks defaultCount arguments count operands)
    (single : inputs context world.storage.files operands = [source]) (name : String)
    (select : Nat → List (List Char) → List (List Char)) :
    (linesCommand name select).start context arguments world =
      .finished world (.ok (filtered (String.ofList (closeLine (select count source.lines).flatten))
        (complaints name context world.storage.files operands))) := by
  simp only [linesCommand, ofAction, finish, parseCount_eq_ok_iff.2 asked, run_bind,
    run_readSources allowed, single, run_pure]
  simp [selectedText, Source.lines]

/-- A count that is not between the number of lines and twice that number leaves no line out that
is among the last ones. -/
theorem lastLines_eq_drop {count : Nat} {lines : List (List Char)}
    (regular : ¬ (lines.length < count ∧ count < 2 * lines.length)) :
    lastLines count lines = lines.drop (lines.length - count) := by
  have skipped : (if count ≤ lines.length then lines.length - count else 2 * lines.length - count) =
      lines.length - count := by
    split <;> omega
  exact congrArg lines.drop skipped

/-- `tail` prints the last lines of an input, as many as it is asked for or all that there are. With
the lines before them, which `head` prints if it is asked for the rest, they are the whole input.
The number asked for must not be between the number of lines and twice that number. -/
theorem tail_prints_last_lines {context : Context} {world : World}
    {arguments operands : List String} {count : Nat} {source : Source}
    (allowed : .read ∉ world.storage.refused)
    (asked : Asks defaultCount arguments count operands)
    (single : inputs context world.storage.files operands = [source])
    (regular : ¬ (source.lines.length < count ∧ count < 2 * source.lines.length)) :
    ∃ front back, source.lines = front ++ back ∧ back.length = min count source.lines.length ∧
      tail.start context arguments world =
        .finished world (.ok (filtered (String.ofList (closeLine back.flatten))
          (complaints "tail" context world.storage.files operands))) ∧
      (count ≤ source.lines.length →
        front.flatten ++ back.flatten = source.content.toList ∧
        ∀ {others}, Asks defaultCount others (source.lines.length - count) operands →
          head.start context others world =
            .finished world (.ok (filtered (String.ofList (closeLine front.flatten))
              (complaints "head" context world.storage.files operands)))) := by
  have divided := List.take_append_drop (source.lines.length - count) source.lines
  refine ⟨_, _, divided.symm, ?_, ?_, fun within => ⟨?_, fun askedOthers => ?_⟩⟩
  · rw [List.length_drop]
    omega
  · rw [← lastLines_eq_drop regular]
    exact start_linesCommand allowed asked single "tail" lastLines
  · rw [← List.flatten_append, divided]
    exact flatten_linesWithEnds source.content.toList
  · exact start_linesCommand allowed askedOthers single "head" firstLines

theorem tail_prints_last_lines_of_two :
    Asks defaultCount ["-9", "-", "-n", "1"] 1 ["-"] ∧
      ∃ front back, linesWithEnds "a\nb".toList = front ++ back ∧ back.length = 1 ∧
        tail.start ⟨"/", "a\nb"⟩ ["-9", "-", "-n", "1"] bareWorld =
          .finished bareWorld (.ok (.printed (String.ofList (closeLine back.flatten)))) ∧
        front.flatten ++ back.flatten = "a\nb".toList ∧
        head.start ⟨"/", "a\nb"⟩ ["-n1", "-"] bareWorld =
          .finished bareWorld (.ok (.printed (String.ofList (closeLine front.flatten)))) := by
  have nine : IsNumeral "9" 9 := ⟨[9], by decide⟩
  have one : IsNumeral "1" 1 := ⟨[1], by decide⟩
  have dash : IsOperand "-" := countText?_eq_none_iff.1 (by decide)
  have asked : Asks defaultCount ["-9", "-", "-n", "1"] 1 ["-"] :=
    .short nine (.operand dash (.apart one (.nothing 1)))
  have askedOthers : Asks defaultCount ["-n1", "-"] 1 ["-"] :=
    .joined one (.operand dash (.nothing 1))
  have single : inputs ⟨"/", "a\nb"⟩ bareWorld.storage.files ["-"] = [⟨"-", "a\nb"⟩] := rfl
  obtain ⟨front, back, divided, count, printed, others⟩ :=
    tail_prints_last_lines (by decide) asked single (by decide)
  exact ⟨asked, front, back, divided, count, printed, (others (by decide)).1,
    (others (by decide)).2 askedOthers⟩

/-- Asked for three lines of two, `tail` prints one. -/
theorem exists_last_line_left_out :
    Asks defaultCount ["-n", "3"] 3 [] ∧
      tail.start ⟨"/", "a\nb\n"⟩ ["-n", "3"] bareWorld =
        .finished bareWorld (.ok (.printed "b\n")) ∧
      ¬ ∃ front back, linesWithEnds "a\nb\n".toList = front ++ back ∧
        back.length = min 3 (linesWithEnds "a\nb\n".toList).length ∧
        tail.start ⟨"/", "a\nb\n"⟩ ["-n", "3"] bareWorld =
          .finished bareWorld (.ok (.printed (String.ofList (closeLine back.flatten)))) := by
  have three : IsNumeral "3" 3 := ⟨[3], by decide⟩
  have printed : tail.start ⟨"/", "a\nb\n"⟩ ["-n", "3"] bareWorld =
      .finished bareWorld (.ok (.printed "b\n")) :=
    rfl
  refine ⟨.apart three (.nothing 3), printed, ?_⟩
  rintro ⟨front, back, divided, count, shown⟩
  have lines : linesWithEnds "a\nb\n".toList = [['a', '\n'], ['b', '\n']] := by decide
  have none : front = [] := by
    have lengths := congrArg List.length divided
    rw [List.length_append, count, lines] at lengths
    rw [← List.length_eq_zero_iff]
    simpa using lengths
  rw [none, List.nil_append, lines] at divided
  rw [printed, ← divided] at shown
  injection shown with _ same
  injection same with same
  exact absurd (congrArg Outcome.stdout same) (by decide)

end VirtualShell.Command
