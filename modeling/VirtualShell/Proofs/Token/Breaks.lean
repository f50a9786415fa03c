import VirtualShell.Proofs.Token.Trim

/-!
Contract: the tokens of a line with line breaks behind it.

Owns:
- `withBreaks`, the line with line breaks behind it, and `breakTokens`, what these are read as;
- `scan_withBreaks`: the tokens of the line stay as they are and the line breaks are read behind
  them, unless the line ends in a backslash.

A backslash at the end of a line stands for itself; in front of a line break it joins lines.
-/

namespace VirtualShell

open VirtualShell.Text

/-- A line with line breaks behind it. -/
def withBreaks (line : String) (count : Nat) : String :=
  line ++ String.ofList (List.replicate count '\n')

theorem toList_withBreaks (line : String) (count : Nat) :
    (withBreaks line count).toList = line.toList ++ List.replicate count '\n' := by
  rw [withBreaks, String.toList_append, String.toList_ofList]

/-- The tokens of line breaks that start at an offset. -/
def breakTokens (position count : Nat) : List Token :=
  (List.range' position count).map fun start => .operator .newline start (start + 1)

theorem breakTokens_succ (position count : Nat) :
    breakTokens position (count + 1) =
      .operator .newline position (position + 1) :: breakTokens (position + 1) count :=
  rfl

namespace Lexeme

variable {rest behind : List Char} {reading : Reading}

/-! ## Lexemes in front of line breaks -/

theorem takeWhile_append_of_lt {p : Char → Bool}
    (stops : (rest.takeWhile p).length < rest.length) :
    (rest ++ behind).takeWhile p = rest.takeWhile p := by
  rw [List.takeWhile_append, if_neg (Nat.ne_of_lt stops)]

/-- A quote that is closed stays closed where it was. -/
theorem readSingle_append_of_ok (found : readSingle rest = .ok reading) :
    readSingle (rest ++ behind) = .ok reading := by
  unfold readSingle at found ⊢
  simp only at found ⊢
  split at found
  · rename_i closed
    rw [← found]
    simp only [takeWhile_append_of_lt closed, List.length_append]
    rw [if_pos (by omega)]
  · cases found

theorem doubleQuoted_append_of_some {buffer : List Char} {found : List Segment × Nat}
    (closed : doubleQuoted buffer rest = some found) :
    doubleQuoted buffer (rest ++ behind) = some found := by
  fun_induction doubleQuoted buffer rest generalizing found with
  | case1 => cases closed
  | case2 => exact closed
  | case3 buffer chars inductionHypothesis =>
      obtain ⟨inner, present, same⟩ := Option.map_eq_some_iff.1 closed
      rw [List.cons_append, List.cons_append, doubleQuoted, inductionHypothesis present, ← same]
      rfl
  | case4 buffer c chars notJoint escape inductionHypothesis =>
      obtain ⟨inner, present, same⟩ := Option.map_eq_some_iff.1 closed
      rw [List.cons_append, List.cons_append, doubleQuoted, if_pos escape,
        inductionHypothesis present, ← same]
      · rfl
      · exact notJoint
  | case5 buffer c chars notJoint plain inductionHypothesis =>
      obtain ⟨inner, present, same⟩ := Option.map_eq_some_iff.1 closed
      have onward := inductionHypothesis present
      rw [List.cons_append] at onward
      rw [List.cons_append, List.cons_append, doubleQuoted, if_neg plain, onward, ← same]
      · rfl
      · exact notJoint
  | case6 buffer c chars notQuote notJoint notEscape inductionHypothesis =>
      obtain ⟨inner, present, same⟩ := Option.map_eq_some_iff.1 closed
      have solid : c ≠ '\\' := by
        rintro rfl
        cases chars with
        | nil => cases present
        | cons d chars => exact notEscape d chars rfl rfl
      rw [List.cons_append, doubleQuoted_cons notQuote solid, inductionHypothesis present, ← same]
      rfl

theorem readDouble_append_of_ok (found : readDouble rest = .ok reading) :
    readDouble (rest ++ behind) = .ok reading := by
  unfold readDouble at found ⊢
  split at found
  · rename_i segments width closed
    rw [doubleQuoted_append_of_some closed]
    exact found
  · cases found

/-- No line break closes a reference. -/
theorem bracedReference?_append_breaks (newlines : ∀ c ∈ behind, c = '\n') :
    bracedReference? (rest ++ behind) = bracedReference? rest := by
  cases rest with
  | nil =>
      rw [List.nil_append]
      cases behind with
      | nil => rfl
      | cons c behind =>
          rw [newlines c List.mem_cons_self]
          rfl
  | cons c rest =>
      by_cases opening : c = '\x7b'
      · rw [opening, List.cons_append]
        unfold bracedReference?
        simp only
        have none : (behind ++ []).takeWhile (· != '\x7d') =
            behind ++ [].takeWhile (· != '\x7d') :=
          List.takeWhile_append_of_pos fun d member => newlines d member ▸ rfl
        rw [List.takeWhile_nil, List.append_nil] at none
        rw [List.takeWhile_append, none]
        split
        · rename_i unclosed
          rw [if_neg (by simp), if_neg (by omega)]
        · rename_i closed
          have shorter := (List.takeWhile_prefix (· != '\x7d') (l := rest)).length_le
          rw [if_pos (by rw [List.length_append]; omega), if_pos (by omega)]
      · rw [List.cons_append, bracedReference?, bracedReference?]
        · exact fun _ same => opening (List.cons.inj same).1
        · exact fun _ same => opening (List.cons.inj same).1

theorem width_readPlain_append_le {inWord : Bool} {c : Char}
    (newlines : ∀ c ∈ behind, c = '\n') :
    (readPlain inWord c (rest ++ behind)).width ≤ rest.length + 1 := by
  cases spelled : operatorAt inWord (c :: (rest ++ behind)) with
  | none =>
      unfold readPlain
      rw [spelled]
      exact Nat.le_add_left 1 rest.length
  | some entry =>
      obtain ⟨spelling, kind⟩ := entry
      rw [readPlain_of_operatorAt spelled]
      exact Scan.width_le_of_operator (fun d member => newlines d member ▸ rfl) spelled

/-- Line breaks behind a lexeme do not matter for it, unless it is a backslash. -/
theorem read_append_breaks {inWord : Bool} {c : Char} (newlines : ∀ c ∈ behind, c = '\n')
    (found : read inWord c rest = .ok reading) (unescaped : c = '\\' → rest ≠ []) :
    read inWord c (rest ++ behind) = .ok reading := by
  cases front inWord c with
  | blank blank =>
      rw [read_blank inWord blank] at found ⊢
      exact found
  | backslash =>
      rw [read_backslash] at found ⊢
      obtain ⟨d, more, rfl⟩ := List.exists_cons_of_ne_nil (unescaped rfl)
      rw [← found]
      exact congrArg Except.ok (readEscape_append
        (by rw [List.cons_append]; unfold readEscape; split <;> simp)).symm
  | singleQuote => exact readSingle_append_of_ok found
  | doubleQuote => exact readDouble_append_of_ok found
  | hash outside =>
      rw [outside, read_hash] at found ⊢
      have same : (rest ++ behind).takeWhile (· != '\n') = rest.takeWhile (· != '\n') := by
        have stops : behind.takeWhile (· != '\n') = [] := by
          cases behind with
          | nil => rfl
          | cons d behind =>
              rw [newlines d List.mem_cons_self]
              rfl
        rw [List.takeWhile_append, stops, List.append_nil]
        split
        · rename_i whole
          exact ((List.takeWhile_prefix _).eq_of_length whole).symm
        · rfl
      rw [← found]
      simp only [same]
  | dollar =>
      rw [read_dollar] at found ⊢
      rw [bracedReference?_append_breaks newlines]
      exact found
  | other plain =>
      rw [plain] at found ⊢
      rw [← readPlain_append (width_readPlain_append_le newlines)]
      exact found

end Lexeme

namespace Scan

variable {scan : Scan} {chars : List Char} {tokens : List Token}

/-! ## Scans -/

/-- Line breaks end the word in progress. -/
theorem finish_breaks (scan : Scan) (count : Nat) :
    scan.finish (List.replicate count '\n') =
      .ok (scan.closedTokens.reverse ++ breakTokens scan.position count) := by
  induction count generalizing scan with
  | zero =>
      rw [List.replicate_zero, finish_nil]
      exact congrArg Except.ok (List.append_nil _).symm
  | succ count inductionHypothesis =>
      rw [List.replicate_succ, finish_cons (Lexeme.read_newline _ _), List.drop_one,
        List.tail_cons, inductionHypothesis, breakTokens_succ]
      simp [advance, closedTokens]

/-- The tokens of a text stay in front of those of the line breaks behind it. -/
theorem finish_append_breaks (finished : scan.finish chars = .ok tokens)
    (unescaped : chars.getLast? ≠ some '\\') (count : Nat) :
    scan.finish (chars ++ List.replicate count '\n') =
      .ok (tokens ++ breakTokens (scan.position + chars.length) count) := by
  fun_induction finish scan chars with
  | case1 scan =>
      cases finished
      exact finish_breaks scan count
  | case2 scan c rest error failed => cases finished
  | case3 scan c rest reading found inductionHypothesis =>
      have newlines : ∀ d ∈ List.replicate count '\n', d = '\n' := fun d member =>
        List.eq_of_mem_replicate member
      have alone : c = '\\' → rest ≠ [] := by
        rintro rfl rfl
        exact unescaped rfl
      have fits := Lexeme.width_le_length found
      have length : ((c :: rest).drop reading.width).length = rest.length + 1 - reading.width :=
        List.length_drop
      have onward := inductionHypothesis finished (by
        rw [List.getLast?_drop]
        split
        · simp
        · exact unescaped)
      rw [position_advance, length] at onward
      rw [List.cons_append, finish_cons (Lexeme.read_append_breaks newlines found alone),
        ← List.cons_append, List.drop_append_of_le_length fits, onward]
      congr 3
      rw [List.length_cons]
      omega

end Scan

/-- A line keeps its tokens in front of the line breaks behind it. -/
theorem scan_withBreaks {line : String} {tokens : List Token}
    (scanned : Token.scan line = .ok tokens) (unescaped : line.toList.getLast? ≠ some '\\')
    (count : Nat) :
    Token.scan (withBreaks line count) =
      .ok (tokens ++ breakTokens line.toList.length count) := by
  have finished := Scan.finish_append_breaks scanned unescaped count
  rw [Token.scan, toList_withBreaks, finished]
  congr 3
  exact Nat.zero_add _

end VirtualShell
