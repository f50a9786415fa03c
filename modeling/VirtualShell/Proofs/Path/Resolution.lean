import VirtualShell.Proofs.Path.Relative

/-!
Contract: resolving a path in steps is resolving it at once.

Owns:
- `parts_append_congr`: what is put behind a path is read from its components alone;
- `exists_normalize_eq_iff`: which texts are absolute paths in normal form;
- `resolves_in_steps`, the laws that make paths act on directories;
- `child` and `parent`, the path of an entry and of what holds it: one component more and one less.
-/

namespace VirtualShell.Path

open VirtualShell.Text

/-! ## What is behind a path -/

theorem map_toList_parts (path : String) :
    (parts path).map String.toList = partsOf path.toList := by
  unfold parts
  rw [List.map_map]
  exact (List.map_congr_left fun _ _ => String.toList_ofList).trans (List.map_id _)

/-- What is put behind a path is read from the components of the path alone. -/
theorem parts_append_congr {left right : String} (same : parts left = parts right)
    (path : String) : parts (left ++ "/" ++ path) = parts (right ++ "/" ++ path) := by
  have chars (base : String) :
      (base ++ "/" ++ path).toList = base.toList ++ '/' :: path.toList := by
    simp
  have read : partsOf left.toList = partsOf right.toList := by
    rw [← map_toList_parts, same, map_toList_parts]
  unfold parts
  rw [chars, chars, partsOf_append, partsOf_append, read]

theorem normalize_append (base path : String) :
    normalize (normalize base ++ "/" ++ path) = normalize (base ++ "/" ++ path) :=
  congrArg text (parts_append_congr (parts_normalize base) path)

/-! ## The normal form -/

theorem normalize_text {names : List String} (named : ∀ name ∈ names, IsName name) :
    normalize (text names) = text names :=
  congrArg text (parts_text named)

theorem startsWith_of_rooted {path : String} (rooted : normalize path = path) :
    startsWith path "/" = true := by
  rw [startsWith_iff_head? (c := '/') rfl, ← rooted, normalize, toList_text]
  rfl

/-- The absolute paths in normal form are the root, and the names with a slash in front of each. -/
theorem exists_normalize_eq_iff {path : String} :
    (∃ source, normalize source = path) ↔
      path = "/" ∨ ∃ names, names ≠ [] ∧ (∀ name ∈ names, IsName name) ∧
        path = "/" ++ String.intercalate "/" names := by
  have root : text [] = "/" := by decide
  constructor
  · rintro ⟨source, rfl⟩
    by_cases rooted : parts source = []
    · left
      rw [normalize, rooted, root]
    · exact .inr ⟨parts source, rooted, fun _ => isName_of_mem_parts, rfl⟩
  · rintro (rfl | ⟨names, -, named, rfl⟩)
    · exact ⟨text [], (normalize_text (List.forall_mem_nil _)).trans root⟩
    · exact ⟨text names, normalize_text named⟩

/-! ## Steps -/

/-- A path that is not empty starts as it does with more behind it. -/
theorem startsWith_append {path : String} (present : path ≠ "") (more : String) :
    startsWith (path ++ more) "/" = startsWith path "/" := by
  obtain ⟨c, rest, chars⟩ := List.exists_cons_of_ne_nil (mt String.toList_eq_nil_iff.1 present)
  rw [Bool.eq_iff_iff, startsWith_iff_head? (c := '/') rfl, startsWith_iff_head? (c := '/') rfl,
    String.toList_append, chars]
  rfl

theorem resolve_resolve {base path rest : String} (present : path ≠ "")
    (relative : startsWith rest "/" = false) :
    resolve (resolve base path) rest = resolve base (path ++ "/" ++ rest) := by
  have behind : startsWith (path ++ "/" ++ rest) "/" = startsWith path "/" := by
    rw [String.append_assoc, startsWith_append present]
  unfold resolve
  rw [behind, relative, if_neg Bool.false_ne_true]
  split
  · exact normalize_append path rest
  · rw [normalize_append]
    simp only [String.append_assoc]

/-- Normal forms are what is already normal, they are the absolute paths made of names, and what is
resolved step by step is resolved at once. -/
theorem resolves_in_steps :
    (∀ path, normalize (normalize path) = normalize path) ∧
      (∀ path, (∃ source, normalize source = path) ↔
        path = "/" ∨ ∃ names, names ≠ [] ∧ (∀ name ∈ names, IsName name) ∧
          path = "/" ++ String.intercalate "/" names) ∧
      (∀ base path, normalize (normalize base ++ "/" ++ path) = normalize (base ++ "/" ++ path)) ∧
      ∀ base path rest, path ≠ "" → startsWith rest "/" = false →
        resolve (resolve base path) rest = resolve base (path ++ "/" ++ rest) :=
  ⟨normalize_normalize, fun _ => exists_normalize_eq_iff, normalize_append,
    fun _ _ _ => resolve_resolve⟩

theorem resolves_in_steps_above_root :
    "../../.." ≠ "" ∧ startsWith "c/./d" "/" = false ∧
      resolve (resolve "/a/b" "../../..") "c/./d" = resolve "/a/b" ("../../.." ++ "/" ++ "c/./d") ∧
      resolve "/a/b" ("../../.." ++ "/" ++ "c/./d") = "/c/d" :=
  ⟨by decide, by decide, resolves_in_steps.2.2.2 _ _ _ (by decide) (by decide),
    by decide +kernel⟩

/-! ## Entries -/

/-- The path of the entry of a directory under a name. -/
def child (directory name : String) : String :=
  if directory = "/" then "/" ++ name else directory ++ "/" ++ name

/-- The path of the directory that holds the entry at a path; the root is its own. -/
def parent (path : String) : String :=
  text (parentParts (parts path))

theorem eq_root_iff {path : String} (rooted : normalize path = path) :
    path = "/" ↔ parts path = [] := by
  constructor
  · rintro rfl
    decide +kernel
  · intro empty
    rw [← rooted, normalize, empty]
    decide

theorem child_eq_text {directory name : String} (rooted : normalize directory = directory) :
    child directory name = text (parts directory ++ [name]) := by
  unfold child
  split
  · rename_i root
    rw [(eq_root_iff rooted).1 root]
    rfl
  · rename_i deeper
    have chars := congrArg String.toList rooted
    rw [normalize, toList_text_of_ne_nil (mt (eq_root_iff rooted).2 deeper)] at chars
    rw [← String.toList_inj, toList_text_of_ne_nil (by simp), below_append, chars]
    simp [below]

theorem isName_of_mem_concat {directory name : String} (valid : IsName name) :
    ∀ other ∈ parts directory ++ [name], IsName other := by
  intro other member
  rcases List.mem_append.1 member with before | last
  · exact isName_of_mem_parts before
  · rwa [List.mem_singleton.1 last]

theorem parts_child {directory name : String} (rooted : normalize directory = directory)
    (valid : IsName name) : parts (child directory name) = parts directory ++ [name] := by
  rw [child_eq_text rooted, parts_text (isName_of_mem_concat valid)]

theorem parts_resolve_name {base name : String} (valid : IsName name) :
    parts (resolve base name) = parts base ++ [name] := by
  have relative : startsWith name "/" = false := by
    rw [Bool.eq_false_iff, Ne, startsWith_iff_head? (c := '/') rfl]
    exact fun first => valid.noSlash (List.mem_of_mem_head? first)
  have behind : parts (base ++ "/" ++ String.intercalate "/" (List.replicate 0 ".." ++ [name])) =
      (parts base).take ((parts base).length - 0) ++ [name] :=
    parts_append_ups (List.forall_mem_singleton.2 valid) (List.cons_ne_nil _ _)
  rw [List.replicate_zero, List.nil_append, String.intercalate_singleton, Nat.sub_zero,
    List.take_length] at behind
  rw [resolve, relative, if_neg Bool.false_ne_true, parts_normalize, behind]

theorem parts_parent (path : String) : parts (parent path) = parentParts (parts path) :=
  parts_text fun _ member => isName_of_mem_parts ((List.dropLast_sublist _).mem member)

theorem normalize_parent (path : String) : normalize (parent path) = parent path :=
  congrArg text (parts_parent path)

end VirtualShell.Path
