import VirtualShell.Path
import VirtualShell.Proofs.Text.Pieces

/-!
Contract: the components of a path, and the absolute path that they make.

Owns:
- `Path.IsName`, what may be a component of a path.
- `isName_of_mem_parts`: every component that a path is read into is a name.
- `parts_text`: the absolute path that names make is read into these names, so
  absolute paths and lists of names are the same thing.
-/

namespace VirtualShell.Path

open VirtualShell.Text

/-- What may be a component of a path: not empty, without a slash, and neither `.` nor `..`. -/
structure IsName (name : String) : Prop where
  nonempty : name ≠ ""
  noSlash : '/' ∉ name.toList
  notHere : name ≠ "."
  notUp : name ≠ ".."

instance (name : String) : Decidable (IsName name) :=
  decidable_of_iff (name ≠ "" ∧ '/' ∉ name.toList ∧ name ≠ "." ∧ name ≠ "..")
    ⟨fun ⟨nonempty, noSlash, notHere, notUp⟩ => ⟨nonempty, noSlash, notHere, notUp⟩,
      fun name => ⟨name.nonempty, name.noSlash, name.notHere, name.notUp⟩⟩

theorem isName_ofList {part : List Char} :
    IsName (String.ofList part) ↔
      part ≠ [] ∧ '/' ∉ part ∧ part ≠ ['.'] ∧ part ≠ ['.', '.'] := by
  have asText : ∀ other : List Char, String.ofList part = String.ofList other ↔ part = other :=
    fun other => ⟨fun same => String.ofList_injective same, congrArg String.ofList⟩
  constructor
  · intro name
    exact ⟨fun same => name.nonempty ((asText []).2 same),
      fun slash => name.noSlash (by rwa [String.toList_ofList]),
      fun same => name.notHere ((asText ['.']).2 same),
      fun same => name.notUp ((asText ['.', '.']).2 same)⟩
  · intro ⟨nonempty, noSlash, notHere, notUp⟩
    exact ⟨fun same => nonempty ((asText []).1 same),
      by rwa [String.toList_ofList],
      fun same => notHere ((asText ['.']).1 same),
      fun same => notUp ((asText ['.', '.']).1 same)⟩

/-! ## Reading a path -/

theorem mem_pushPart {parts : List (List Char)} {part other : List Char}
    (member : other ∈ pushPart parts part) :
    other ∈ parts ∨ other = part ∧ part ≠ [] ∧ part ≠ ['.'] ∧ part ≠ ['.', '.'] := by
  unfold pushPart at member
  split at member
  · exact .inl member
  · rename_i solid
    rw [not_or] at solid
    split at member
    · exact .inl (List.mem_of_mem_tail member)
    · rename_i notUp
      rcases List.mem_cons.1 member with same | earlier
      · exact .inr ⟨same, solid.1, solid.2, notUp⟩
      · exact .inl earlier

/-- Every component that a path is read into is a name. -/
theorem isName_of_mem_parts {path name : String} (member : name ∈ parts path) : IsName name := by
  have pushed : ∀ (pieces stack : List (List Char)),
      (∀ piece ∈ pieces, '/' ∉ piece) → (∀ part ∈ stack, IsName (String.ofList part)) →
      ∀ part ∈ pieces.foldl pushPart stack, IsName (String.ofList part) := by
    intro pieces
    induction pieces with
    | nil => exact fun _ _ named => named
    | cons piece pieces inductionHypothesis =>
        intro stack separated named
        apply inductionHypothesis
        · exact fun other member => separated other (List.mem_cons_of_mem piece member)
        · intro part member
          rcases mem_pushPart member with earlier | ⟨same, solid⟩
          · exact named part earlier
          · rw [same]
            exact isName_ofList.2 ⟨solid.1, separated piece List.mem_cons_self, solid.2⟩
  rcases List.mem_map.1 member with ⟨part, present, rfl⟩
  exact pushed _ [] (fun _ => separator_notMem_of_mem_piecesOf) (by simp) part
    (List.mem_reverse.1 present)

/-! ## Writing a path -/

theorem foldl_pushPart_of_isName {parts : List (List Char)}
    (named : ∀ part ∈ parts, IsName (String.ofList part)) (stack : List (List Char)) :
    parts.foldl pushPart stack = parts.reverse ++ stack := by
  induction parts generalizing stack with
  | nil => rfl
  | cons part parts inductionHypothesis =>
      have name := isName_ofList.1 (named part List.mem_cons_self)
      have pushed : pushPart stack part = part :: stack := by
        unfold pushPart
        rw [if_neg (not_or.2 ⟨name.1, name.2.2.1⟩), if_neg name.2.2.2]
      rw [List.foldl_cons, pushed,
        inductionHypothesis fun other member => named other (List.mem_cons_of_mem part member)]
      simp

theorem toList_text (parts : List String) :
    (text parts).toList = '/' :: joinPieces '/' (parts.map String.toList) := by
  simp [text, joinPieces, String.toList_intercalate]

theorem slash_notMem_of_isName {names : List String} (named : ∀ name ∈ names, IsName name) :
    ∀ piece ∈ names.map String.toList, '/' ∉ piece := by
  intro piece member
  rcases List.mem_map.1 member with ⟨name, present, rfl⟩
  exact (named name present).noSlash

theorem foldl_pushPart_names {names : List String} (named : ∀ name ∈ names, IsName name)
    (stack : List (List Char)) :
    (names.map String.toList).foldl pushPart stack =
      (names.map String.toList).reverse ++ stack := by
  apply foldl_pushPart_of_isName
  simpa only [List.mem_map, forall_exists_index, and_imp, forall_apply_eq_imp_iff₂,
    String.ofList_toList] using named

/-- The absolute path that names make is read into these names. -/
theorem parts_text {names : List String} (named : ∀ name ∈ names, IsName name) :
    parts (text names) = names := by
  have read : partsOf (text names).toList = names.map String.toList := by
    unfold partsOf
    rw [toList_text, piecesOf_cons_separator]
    by_cases rooted : names = []
    · rw [rooted]
      rfl
    · rw [piecesOf_joinPieces (mt List.map_eq_nil_iff.1 rooted) (slash_notMem_of_isName named)]
      show ((names.map String.toList).foldl pushPart []).reverse = _
      rw [foldl_pushPart_names named, List.append_nil, List.reverse_reverse]
  unfold parts
  rw [read, map_ofList_toList]

theorem parts_normalize (path : String) : parts (normalize path) = parts path :=
  parts_text fun _ => isName_of_mem_parts

theorem normalize_normalize (path : String) : normalize (normalize path) = normalize path :=
  congrArg text (parts_normalize path)

theorem normalize_resolve (base path : String) :
    normalize (resolve base path) = resolve base path := by
  unfold resolve
  split
  · exact normalize_normalize path
  · exact normalize_normalize (base ++ "/" ++ path)

end VirtualShell.Path
