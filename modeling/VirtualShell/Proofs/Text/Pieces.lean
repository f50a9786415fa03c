import VirtualShell.Text.Pieces

/-!
Contract: cutting a text into pieces and joining them are inverse to each other.

Owns:
- the equations of `piecesOf` along the characters of a text;
- no piece contains the separator;
- `piecesOf_joinPieces`: pieces without the separator are what their join is cut into;
- how many pieces there are, and how pieces that are joined start;
- `cutAtMark_eq_none_iff` and `cutAtMark_eq_some_iff`, that a text is cut at the first
  occurrence of a mark;
- `upToLast_append_lastPiece`, the two sides of the last separator.
-/

namespace VirtualShell.Text

variable {separator : Char}

theorem piecesOf_nil (separator : Char) : piecesOf separator [] = [[]] :=
  rfl

theorem piecesOf_cons_separator (separator : Char) (chars : List Char) :
    piecesOf separator (separator :: chars) = [] :: piecesOf separator chars := by
  simp [piecesOf, cutPieces]

theorem piecesOf_cons_of_ne {c : Char} (different : c ≠ separator) (chars : List Char) :
    piecesOf separator (c :: chars) =
      (c :: (piecesOf separator chars).head (piecesOf_ne_nil separator chars)) ::
        (piecesOf separator chars).tail := by
  simp [piecesOf, cutPieces, different]

/-- The pieces on the two sides of an occurrence of the separator are cut apart. -/
theorem piecesOf_append_separator (left right : List Char) :
    piecesOf separator (left ++ separator :: right) =
      piecesOf separator left ++ piecesOf separator right := by
  induction left with
  | nil =>
      rw [List.nil_append, piecesOf_cons_separator, piecesOf_nil]
      rfl
  | cons c left inductionHypothesis =>
      rw [List.cons_append]
      by_cases same : c = separator
      · rw [same, piecesOf_cons_separator, piecesOf_cons_separator, inductionHypothesis]
        rfl
      · rw [piecesOf_cons_of_ne same, piecesOf_cons_of_ne same, List.cons_append]
        simp only [inductionHypothesis, List.head_append_of_ne_nil (piecesOf_ne_nil separator left),
          List.tail_append_of_ne_nil (piecesOf_ne_nil separator left)]

theorem piecesOf_of_notMem {chars : List Char} (absent : separator ∉ chars) :
    piecesOf separator chars = [chars] := by
  induction chars with
  | nil => rfl
  | cons c chars inductionHypothesis =>
      have different : c ≠ separator := fun same => absent (same ▸ List.mem_cons_self)
      have pieces := inductionHypothesis fun member => absent (List.mem_cons_of_mem c member)
      rw [piecesOf_cons_of_ne different]
      simp only [pieces, List.head_cons, List.tail_cons]

/-- A text is one piece, or the first piece stands before the first separator. -/
theorem piecesOf_cases (separator : Char) (chars : List Char) :
    (separator ∉ chars ∧ piecesOf separator chars = [chars]) ∨
      ∃ front back, chars = front ++ separator :: back ∧ separator ∉ front ∧
        piecesOf separator chars = front :: piecesOf separator back := by
  by_cases present : separator ∈ chars
  · obtain ⟨front, back, rfl, absent⟩ := List.eq_append_cons_of_mem present
    refine .inr ⟨front, back, rfl, absent, ?_⟩
    rw [piecesOf_append_separator, piecesOf_of_notMem absent]
    rfl
  · exact .inl ⟨present, piecesOf_of_notMem present⟩

theorem mem_of_mem_piecesOf {piece chars : List Char} (member : piece ∈ piecesOf separator chars)
    {c : Char} (inside : c ∈ piece) : c ∈ chars := by
  induction chars generalizing piece with
  | nil =>
      have empty : piece = [] := by simpa [piecesOf_nil] using member
      exact absurd (empty ▸ inside) List.not_mem_nil
  | cons first chars inductionHypothesis =>
      by_cases same : first = separator
      · rw [same, piecesOf_cons_separator] at member
        rcases List.mem_cons.1 member with rfl | later
        · exact absurd inside List.not_mem_nil
        · exact List.mem_cons_of_mem first (inductionHypothesis later inside)
      · rw [piecesOf_cons_of_ne same] at member
        rcases List.mem_cons.1 member with rfl | later
        · rcases List.mem_cons.1 inside with rfl | behind
          · exact List.mem_cons_self
          · exact List.mem_cons_of_mem first (inductionHypothesis (List.head_mem _) behind)
        · exact List.mem_cons_of_mem first
            (inductionHypothesis (List.mem_of_mem_tail later) inside)

/-- No piece contains the separator. -/
theorem separator_notMem_of_mem_piecesOf {piece chars : List Char}
    (member : piece ∈ piecesOf separator chars) : separator ∉ piece := by
  induction chars generalizing piece with
  | nil =>
      have empty : piece = [] := by simpa [piecesOf_nil] using member
      simp [empty]
  | cons c chars inductionHypothesis =>
      by_cases same : c = separator
      · rw [same, piecesOf_cons_separator] at member
        rcases List.mem_cons.1 member with first | later
        · simp [first]
        · exact inductionHypothesis later
      · rw [piecesOf_cons_of_ne same] at member
        rcases List.mem_cons.1 member with first | later
        · rw [first, List.mem_cons, not_or]
          exact ⟨fun equal => same equal.symm, inductionHypothesis (List.head_mem _)⟩
        · exact inductionHypothesis (List.mem_of_mem_tail later)

/-- There is one piece more than there are separators. -/
theorem length_piecesOf (separator : Char) (chars : List Char) :
    (piecesOf separator chars).length = chars.count separator + 1 := by
  induction chars with
  | nil => rfl
  | cons c chars inductionHypothesis =>
      by_cases same : c = separator
      · rw [same, piecesOf_cons_separator, List.count_cons_self, List.length_cons,
          inductionHypothesis]
      · rw [piecesOf_cons_of_ne same, List.count_cons_of_ne same, List.length_cons,
          List.length_tail, inductionHypothesis]
        rfl

theorem joinPieces_cons_cons (separator : Char) (first second : List Char)
    (others : List (List Char)) :
    joinPieces separator (first :: second :: others) =
      first ++ separator :: joinPieces separator (second :: others) := by
  simp [joinPieces, List.intercalate]

/-- Pieces without the separator are what their join is cut into. -/
theorem piecesOf_joinPieces {pieces : List (List Char)} (present : pieces ≠ [])
    (separated : ∀ piece ∈ pieces, separator ∉ piece) :
    piecesOf separator (joinPieces separator pieces) = pieces := by
  induction pieces with
  | nil => exact absurd rfl present
  | cons first others inductionHypothesis =>
      have alone : separator ∉ first := separated first List.mem_cons_self
      cases others with
      | nil => simpa [joinPieces] using piecesOf_of_notMem alone
      | cons second others =>
          rw [joinPieces_cons_cons, piecesOf_append_separator, piecesOf_of_notMem alone,
            inductionHypothesis (List.cons_ne_nil _ _)
              fun piece member => separated piece (List.mem_cons_of_mem first member)]
          rfl

theorem map_ofList_toList (texts : List String) :
    (texts.map String.toList).map String.ofList = texts := by
  rw [List.map_map]
  exact (List.map_congr_left fun text _ => String.ofList_toList).trans (List.map_id texts)

theorem map_toList_pieces (separator : Char) (text : String) :
    (pieces separator text).map String.toList = piecesOf separator text.toList := by
  unfold pieces
  rw [List.map_map]
  exact (List.map_congr_left fun piece _ => String.toList_ofList).trans (List.map_id _)

/-- Pieces of which the first is not empty start as it does. -/
theorem head?_joinPieces {first : List Char} (present : first ≠ []) (others : List (List Char)) :
    (joinPieces separator (first :: others)).head? = first.head? := by
  cases others with
  | nil => simp [joinPieces]
  | cons second others =>
      obtain ⟨c, rest, rfl⟩ := List.exists_cons_of_ne_nil present
      rw [joinPieces_cons_cons]
      rfl

theorem startsWith_iff_head? {text opening : String} {c : Char} (single : opening.toList = [c]) :
    startsWith text opening = true ↔ text.toList.head? = some c := by
  unfold startsWith
  rw [single]
  cases text.toList <;> simp [@eq_comm Char c]

/-! ## Cutting at a mark -/

variable {mark : List Char}

theorem cutAtMark_eq_none_iff (filled : mark ≠ []) {chars : List Char} :
    cutAtMark mark chars = none ↔ ¬ mark <:+: chars := by
  induction chars with
  | nil => simp [cutAtMark, filled]
  | cons c rest inductionHypothesis =>
      rw [cutAtMark, List.infix_cons_iff]
      by_cases front : mark <+: c :: rest
      · simp [front]
      · simpa [front] using inductionHypothesis

/-- What stands before the mark has no mark in it, and the text is put together again. -/
theorem of_cutAtMark_eq_some (filled : mark ≠ []) {chars before after : List Char}
    (found : cutAtMark mark chars = some (before, after)) :
    chars = before ++ mark ++ after ∧ ¬ mark <:+: before := by
  induction chars generalizing before with
  | nil => simp [cutAtMark, filled] at found
  | cons c rest inductionHypothesis =>
      rw [cutAtMark] at found
      split at found
      · rename_i front
        obtain ⟨others, same⟩ := List.isPrefixOf_iff_prefix.1 front
        cases found
        refine ⟨?_, by simpa using filled⟩
        rw [← same, List.drop_left, List.nil_append]
      · rename_i other
        obtain ⟨⟨front, _⟩, cut, same⟩ := Option.map_eq_some_iff.1 found
        cases same
        obtain ⟨rfl, clear⟩ := inductionHypothesis cut
        refine ⟨rfl, fun inside => ?_⟩
        rcases List.infix_cons_iff.1 inside with first | later
        · have whole : mark <+: c :: front ++ (mark ++ after) :=
            first.trans (List.prefix_append _ _)
          exact other (List.isPrefixOf_iff_prefix.2 (by simpa using whole))
        · exact clear later

/-- A mark of two different characters cannot start before the place where it stands. -/
theorem cutAtMark_append {first second : Char} (different : first ≠ second)
    {before : List Char} (clear : ¬ [first, second] <:+: before) (after : List Char) :
    cutAtMark [first, second] (before ++ first :: second :: after) = some (before, after) := by
  induction before with
  | nil => simp [cutAtMark]
  | cons c rest inductionHypothesis =>
      rw [List.infix_cons_iff, not_or] at clear
      have other : ¬ [first, second] <+: c :: (rest ++ first :: second :: after) := by
        cases rest with
        | nil => simp [List.cons_prefix_cons, different.symm]
        | cons d others => simpa [List.cons_prefix_cons] using clear.1
      simp [cutAtMark, other, inductionHypothesis clear.2]

theorem cutAtMark_eq_some_iff {first second : Char} (different : first ≠ second)
    {chars before after : List Char} :
    cutAtMark [first, second] chars = some (before, after) ↔
      chars = before ++ first :: second :: after ∧ ¬ [first, second] <:+: before := by
  constructor
  · intro found
    simpa using of_cutAtMark_eq_some (List.cons_ne_nil _ _) found
  · rintro ⟨rfl, clear⟩
    exact cutAtMark_append different clear after

/-! ## The last piece -/

theorem upToLast_append_lastPiece (separator : Char) (chars : List Char) :
    upToLast separator chars ++ lastPiece separator chars = chars := by
  rw [upToLast, lastPiece, ← List.reverse_append, List.takeWhile_append_dropWhile,
    List.reverse_reverse]

theorem separator_notMem_lastPiece (separator : Char) (chars : List Char) :
    separator ∉ lastPiece separator chars := by
  intro member
  have inner := List.all_eq_true.1 List.all_takeWhile separator (List.mem_reverse.1 member)
  simp at inner

/-- What stands up to the last separator ends with it. -/
theorem upToLast_cases (separator : Char) (chars : List Char) :
    upToLast separator chars = [] ∨ ∃ front, upToLast separator chars = front ++ [separator] := by
  unfold upToLast
  cases rest : chars.reverse.dropWhile (· != separator) with
  | nil => exact .inl rfl
  | cons c others =>
      have stops := List.head?_dropWhile_not (· != separator) chars.reverse
      rw [rest] at stops
      have last : c = separator := by simpa using stops
      rw [last, List.reverse_cons]
      exact .inr ⟨others.reverse, rfl⟩

end VirtualShell.Text
