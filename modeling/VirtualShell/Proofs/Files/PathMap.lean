import VirtualShell.Files.Basic

/-!
Contract: a file tree as a map from paths to what is there.

Owns:
- `Files.Entry`, a file with its content or a directory, and `Files.PathMap`, what is at
  each path; a path is the list of its components.
- The changes of a map that file operations stand for: `put`, `withDirectories`,
  `without` and `moved`; and `appended`, the content that a file gets.

Does not own: which operation makes which change
(`VirtualShell.Proofs.Files.Refinement`).
-/

namespace VirtualShell.Files

/-- What is at a path: a file with its content, or a directory. -/
inductive Entry where
  | file (content : String)
  | directory
deriving DecidableEq, Repr

/-- What is at each path, by the components of the path. -/
abbrev PathMap := List String → Option Entry

namespace PathMap

/-- The map with `entry` at one path. -/
def put (map : PathMap) (parts : List String) (entry : Entry) : PathMap :=
  fun other => if other = parts then some entry else map other

/-- The map with directories wherever nothing is on the way to a path, the path included. -/
def withDirectories (map : PathMap) (parts : List String) : PathMap :=
  fun other => if other <+: parts ∧ map other = none then some .directory else map other

/-- The map with nothing at a path and below it. -/
def without (map : PathMap) (parts : List String) : PathMap :=
  fun other => if parts <+: other then none else map other

/-- The map in which what was at `source` and below it is at `target` and below it. -/
def moved (map : PathMap) (source target : List String) : PathMap :=
  fun other =>
    if target <+: other then map (source ++ other.drop target.length)
    else if source <+: other then none
    else map other

/-- What a file holds after text is put behind it; a missing file holds the text only. -/
def appended (map : PathMap) (parts : List String) (text : String) : String :=
  match map parts with
  | some (.file old) => old ++ text
  | _ => text

/-! ## Laws of the changes -/

/-- Nothing is added on the way to a path where everything is there. -/
theorem withDirectories_of_present {map : PathMap} {parts : List String}
    (present : ∀ other, other <+: parts → map other ≠ none) : map.withDirectories parts = map := by
  funext other
  unfold withDirectories
  exact if_neg fun both => present other both.1 both.2

theorem withDirectories_concat {map : PathMap} {parents : List String} {name : String}
    (absent : map (parents ++ [name]) = none) :
    (map.withDirectories parents).put (parents ++ [name]) .directory =
      map.withDirectories (parents ++ [name]) := by
  funext other
  unfold put withDirectories
  simp only [List.prefix_concat_iff]
  by_cases last : other = parents ++ [name]
  · simp [last, absent]
  · simp only [last, if_false, false_or]

theorem withDirectories_self {map : PathMap} {parts : List String} (absent : map parts = none) :
    map.withDirectories parts parts = some .directory :=
  if_pos ⟨List.prefix_refl parts, absent⟩

section Moved

variable {map : PathMap} {source target : List String}

/-- What is below one of two paths apart is not below the other. -/
theorem not_prefix_append (apart : ¬ source <+: target) (outside : ¬ target <+: source)
    (rest : List String) : ¬ target <+: source ++ rest := by
  intro before
  rcases List.prefix_or_prefix_of_prefix before (List.prefix_append source rest) with first | second
  · exact outside first
  · exact apart second

theorem moved_target (rest : List String) :
    map.moved source target (target ++ rest) = map (source ++ rest) := by
  unfold moved
  rw [if_pos (List.prefix_append target rest), List.drop_left]

theorem moved_source (apart : ¬ source <+: target) (outside : ¬ target <+: source)
    (rest : List String) : map.moved source target (source ++ rest) = none := by
  unfold moved
  rw [if_neg (not_prefix_append apart outside rest), if_pos (List.prefix_append source rest)]

theorem moved_other {other : List String} (notSource : ¬ source <+: other)
    (notTarget : ¬ target <+: other) : map.moved source target other = map other := by
  unfold moved
  rw [if_neg notTarget, if_neg notSource]

/-- What is at the target of a move does not matter. -/
theorem moved_without (apart : ¬ source <+: target) (outside : ¬ target <+: source) :
    (map.without target).moved source target = map.moved source target := by
  funext other
  unfold moved without
  split
  · exact if_neg (not_prefix_append apart outside _)
  · rfl

end Moved

end PathMap

end VirtualShell.Files
