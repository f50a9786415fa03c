import VirtualShell.Text.Lines

/-!
Contract: lines that are written one under the other are read back.

Owns:
- `IsLine`, that nothing in a text ends a line, and that the lines of every text are of this kind;
- `lines_joinLines`: such texts are the lines of what they join to.
-/

namespace VirtualShell.Text

/-- Nothing in the text ends a line. -/
def IsLine (text : String) : Prop :=
  ∀ c ∈ text.toList, isLineBreak c = false

theorem isLine_of_mem_lines {line text : String} (member : line ∈ lines text) : IsLine line := by
  obtain ⟨whole, -, rfl⟩ := List.mem_map.1 member
  intro c inside
  rw [String.toList_ofList] at inside
  simpa using List.all_eq_true.1 List.all_takeWhile c inside

theorem pushToLines_of_not_isLineBreak {c : Char} (inner : isLineBreak c = false)
    (line : List Char) (others : List (List Char)) :
    pushToLines c (line :: others) = (c :: line) :: others := by
  simp [pushToLines, inner]

theorem pushToLines_lineFeed (others : List (List Char)) :
    pushToLines '\n' others = ['\n'] :: others := by
  cases others <;> rfl

/-- Characters that end no line are one line with the line feed behind them. -/
theorem linesWithEnds_append_lineFeed {chars : List Char}
    (inner : ∀ c ∈ chars, isLineBreak c = false) (rest : List Char) :
    linesWithEnds (chars ++ '\n' :: rest) = (chars ++ ['\n']) :: linesWithEnds rest := by
  induction chars with
  | nil => exact pushToLines_lineFeed (linesWithEnds rest)
  | cons c chars inductionHypothesis =>
      obtain ⟨first, others⟩ := List.forall_mem_cons.1 inner
      show pushToLines c (linesWithEnds (chars ++ '\n' :: rest)) = _
      rw [inductionHypothesis others, pushToLines_of_not_isLineBreak first]
      rfl

theorem lineBody_append_lineFeed {chars : List Char}
    (inner : ∀ c ∈ chars, isLineBreak c = false) : lineBody (chars ++ ['\n']) = chars := by
  have all : ∀ c ∈ chars, (!isLineBreak c) = true := fun c member => by
    rw [inner c member]
    rfl
  unfold lineBody
  rw [List.takeWhile_append_of_pos all]
  have ends : List.takeWhile (fun c => !isLineBreak c) ['\n'] = [] := by decide
  rw [ends, List.append_nil]

theorem toList_joinLines_cons (text : String) (texts : List String) :
    (joinLines (text :: texts)).toList = text.toList ++ '\n' :: (joinLines texts).toList := by
  simp [joinLines]

/-- Texts that end no line are the lines of what they join to. -/
theorem lines_joinLines {texts : List String} (each : ∀ text ∈ texts, IsLine text) :
    lines (joinLines texts) = texts := by
  induction texts with
  | nil => rfl
  | cons text texts inductionHypothesis =>
      obtain ⟨first, others⟩ := List.forall_mem_cons.1 each
      have behind := inductionHypothesis others
      unfold lines at behind ⊢
      rw [toList_joinLines_cons, linesWithEnds_append_lineFeed first, List.map_cons, behind,
        lineBody_append_lineFeed first, String.ofList_toList]

end VirtualShell.Text
