import VirtualShell.Proofs.Files.PathMap

/-!
Contract: laying what is at one path over what is at another.

Owns:
- `PathMap.laid`, the map in which some of what is at and below a source lies over what is at
  and below a target, and `overlaid`, in which all of it does;
- `Foreseen`, that whatever is laid into the source while it is still to be read lies there
  already;
- `overlaid_laid`: laying one entry of the source after the other, in order, lays all of it.

Does not own: the operation that copies (`VirtualShell.Proofs.Files.Copying`).
-/

namespace VirtualShell.Files.PathMap

/-- The map with what is at `source` and below it laid over what is at `target` and below it, as
far as `takes` says. Directories that are missing on the way to the target are there. -/
def laid (map : PathMap) (source target : List String) (takes : List String → Bool) : PathMap :=
  fun other =>
    if target <+: other ∧ takes (other.drop target.length) = true ∧
        map (source ++ other.drop target.length) ≠ none then
      map (source ++ other.drop target.length)
    else map.withDirectories target other

/-- The map with all that is at `source` and below it laid over what is at `target`. -/
def overlaid (map : PathMap) (source target : List String) : PathMap :=
  map.laid source target fun _ => true

/-- Whether a path begins with one of some names. -/
def beginsWith (names : List String) (parts : List String) : Bool :=
  parts.head?.any names.contains

/-- What is copied from a source, entry by entry in the order of the names, to a target around it
comes into the source itself while the copy is below `earlier`. An entry behind `earlier` is then
still to be copied. -/
def IsAwaited (map : PathMap) (source target other : List String) : Prop :=
  ∃ before earlier name behind, other = before ++ name :: behind ∧
    target ++ (before ++ [earlier]) <+: source ++ before ∧ earlier < name ∧
    map (source ++ (before ++ [name])) ≠ none

/-- Whatever is laid over an entry of the source that is still to be copied is there already. -/
def Foreseen (map : PathMap) (source target : List String) : Prop :=
  ∀ rest other entry, map (source ++ rest) = some entry → target ++ rest = source ++ other →
    map.IsAwaited source target other → map (source ++ other) = some entry

section

variable {map : PathMap} {source target : List String} {takes : List String → Bool}

/-! ## What lies where -/

theorem withDirectories_ne_none {other : List String} (before : other <+: target) :
    map.withDirectories target other ≠ none := by
  unfold withDirectories
  split
  · exact Option.some_ne_none _
  · rename_i present
    exact fun absent => present ⟨before, absent⟩

theorem withDirectories_eq_self {other : List String}
    (present : other <+: target → map other ≠ none) :
    map.withDirectories target other = map other :=
  if_neg fun both => present both.1 both.2

theorem not_prefix_of_below {rest : List String} (below : rest ≠ []) :
    ¬ target ++ rest <+: target := by
  intro before
  have length := before.length_le
  rw [List.length_append] at length
  exact below (List.length_eq_zero_iff.1 (by omega))

theorem laid_target (rest : List String) :
    map.laid source target takes (target ++ rest) =
      if takes rest = true ∧ map (source ++ rest) ≠ none then map (source ++ rest)
      else map.withDirectories target (target ++ rest) := by
  unfold laid
  rw [List.drop_left]
  simp only [List.prefix_append, true_and]

theorem laid_other {other : List String} (outside : ¬ target <+: other) :
    map.laid source target takes other = map.withDirectories target other :=
  if_neg fun all => outside all.1

theorem laid_congr {other : List String} {more : List String → Bool}
    (same : ∀ rest, other = target ++ rest → takes rest = more rest) :
    map.laid source target takes other = map.laid source target more other := by
  by_cases below : target <+: other
  · obtain ⟨rest, rfl⟩ := below
    rw [laid_target, laid_target, same rest rfl]
  · rw [laid_other below, laid_other below]

/-! ## One entry after the other -/

/-- What comes into a source from below one of its own entries. -/
theorem prefix_of_append_eq {name earlier : String} {rest behind : List String}
    (apart : ¬ source <+: target) (same : target ++ earlier :: rest = source ++ name :: behind) :
    target ++ [earlier] <+: source := by
  obtain ⟨middle, rfl, onward⟩ | ⟨middle, rfl, -⟩ := List.append_eq_append_iff.1 same
  · cases middle with
    | nil => exact absurd (by simp) apart
    | cons first middle =>
        cases onward
        exact ⟨middle, by simp⟩
  · exact absurd (List.prefix_append source middle) apart

section

variable {names : List String} {name : String} (apart : ¬ source <+: target)
  (foreseen : map.Foreseen source target) (listed : map (source ++ [name]) ≠ none)
  (earlier : ∀ other ∈ names, other < name)

include apart foreseen listed earlier

/-- An entry that is still to be copied is not changed before. -/
theorem laid_source (rest : List String) :
    map.laid source target (beginsWith names) (source ++ name :: rest) =
      map (source ++ name :: rest) := by
  have onward : ¬ source ++ name :: rest <+: target := fun before =>
    apart ((List.prefix_append source (name :: rest)).trans before)
  by_cases below : target <+: source ++ name :: rest
  · obtain ⟨taken, same⟩ := below
    rw [← same, laid_target]
    split
    · rename_i copied
      cases taken with
      | nil => simp [beginsWith] at copied
      | cons first taken =>
          obtain ⟨entry, known⟩ := Option.ne_none_iff_exists'.1 copied.2
          have member : first ∈ names := by simpa [beginsWith] using copied.1
          have awaited : map.IsAwaited source target (name :: rest) :=
            ⟨[], first, name, rest, rfl, by simpa using prefix_of_append_eq apart same,
              earlier first member, listed⟩
          rw [known, same, foreseen _ _ entry known same awaited]
    · rw [same]
      exact withDirectories_eq_self fun before => absurd before onward
  · rw [laid_other below]
    exact withDirectories_eq_self fun before => absurd before onward

/-- What is awaited while an entry of the source is copied is awaited while the source is. -/
theorem Foreseen.entry :
    (map.laid source target (beginsWith names)).Foreseen (source ++ [name]) (target ++ [name]) := by
  have kept := laid_source apart foreseen listed earlier
  rintro rest other entry known same ⟨before, first, last, behind, rfl, inside, order, present⟩
  simp only [List.append_assoc, List.cons_append, List.nil_append] at known same inside present ⊢
  rw [kept] at known present ⊢
  exact foreseen (name :: rest) _ entry known same
    ⟨name :: before, first, last, behind, rfl, inside, order, present⟩

/-- Copying one entry more lays one entry more. -/
theorem overlaid_laid :
    (map.laid source target (beginsWith names)).overlaid (source ++ [name]) (target ++ [name]) =
      map.laid source target (beginsWith (names ++ [name])) := by
  have kept := laid_source apart foreseen listed earlier
  have fresh : name ∉ names := fun member => String.lt_irrefl name (earlier name member)
  have way : ∀ other, other <+: target →
      map.laid source target (beginsWith names) other ≠ none := by
    intro other before
    by_cases same : target <+: other
    · obtain rfl := before.eq_of_length_le same.length_le
      have plain : map.laid source other (beginsWith names) (other ++ []) = _ := laid_target []
      rw [List.append_nil, if_neg fun both => by simp [beginsWith] at both] at plain
      rw [plain]
      exact withDirectories_ne_none before
    · rw [laid_other same]
      exact withDirectories_ne_none before
  funext other
  unfold overlaid
  by_cases below : target ++ [name] <+: other
  · obtain ⟨rest, rfl⟩ := below
    have fits : beginsWith (names ++ [name]) (name :: rest) = true := by simp [beginsWith]
    have unfit : ¬ beginsWith names (name :: rest) = true := by simpa [beginsWith] using fresh
    rw [laid_target]
    simp only [List.append_assoc, List.singleton_append, kept, true_and]
    rw [laid_target]
    by_cases copied : map (source ++ name :: rest) = none
    · have deeper : rest ≠ [] := by
        rintro rfl
        exact listed copied
      rw [if_neg fun has => has copied, if_neg fun both => both.2 copied]
      have further : (map.laid source target (beginsWith names)).withDirectories (target ++ [name])
          (target ++ [name] ++ rest) = _ :=
        withDirectories_eq_self fun before => absurd before (not_prefix_of_below deeper)
      rw [List.append_assoc, List.singleton_append] at further
      rw [further, laid_target, if_neg fun both => unfit both.1]
    · rw [if_pos copied, if_pos ⟨fits, copied⟩]
  · rw [laid_other below, withDirectories_eq_self]
    · exact laid_congr fun rest same => by
        cases rest with
        | nil => rfl
        | cons first rest =>
            have other : first ≠ name := by
              rintro rfl
              exact below ⟨rest, by simp [same]⟩
            simp [beginsWith, other]
    · intro before
      obtain same | shorter := List.prefix_concat_iff.1 before
      · exact absurd (same ▸ List.prefix_refl _) below
      · exact way other shorter

end

theorem laid_nil (source : List String) :
    map.laid source target (beginsWith []) = map.withDirectories target := by
  funext other
  by_cases below : target <+: other
  · obtain ⟨rest, rfl⟩ := below
    rw [laid_target, if_neg]
    cases rest <;> simp [beginsWith]
  · exact laid_other below

/-- Once every entry of a directory has been copied, all of the directory has. -/
theorem laid_eq_overlaid {names : List String} (directory : map source = some .directory)
    (made : map.withDirectories target target = some .directory)
    (all : ∀ name rest, map (source ++ name :: rest) ≠ none → name ∈ names) :
    map.laid source target (beginsWith names) = map.overlaid source target := by
  funext other
  unfold overlaid
  by_cases below : target <+: other
  · obtain ⟨rest, rfl⟩ := below
    rw [laid_target, laid_target]
    cases rest with
    | nil => simp [beginsWith, directory, made]
    | cons name rest =>
        by_cases copied : map (source ++ name :: rest) = none
        · simp [copied]
        · simp [beginsWith, all name rest copied]
  · rw [laid_other below, laid_other below]

/-- A copy of a file is the file, written to the target. -/
theorem put_eq_overlaid {content : String} (file : map source = some (.file content))
    (leaf : ∀ name rest, map (source ++ name :: rest) = none)
    (present : ∀ other, other <+: target → other ≠ target → map other ≠ none) :
    map.put target (.file content) = map.overlaid source target := by
  funext other
  unfold overlaid put
  by_cases below : target <+: other
  · obtain ⟨rest, rfl⟩ := below
    rw [laid_target]
    cases rest with
    | nil => simp [file]
    | cons name rest =>
        have deeper : name :: rest ≠ [] := List.cons_ne_nil name rest
        rw [if_neg (by simp), if_neg (by simp [leaf])]
        exact (withDirectories_eq_self fun before =>
          absurd before (not_prefix_of_below deeper)).symm
  · have other_ne : other ≠ target := fun same => below (same ▸ List.prefix_refl _)
    rw [laid_other below, if_neg other_ne]
    exact (withDirectories_eq_self fun before => present other before other_ne).symm

end

/-! ## Laid over something else -/

/-- `after` is `before` with all that was at `source` laid over what was at `target`: a file or
directory of the source takes the place of what was there, all else at the target stays, and what
was missing on the way to it is a directory. Nothing else has changed, the source least of all. -/
structure IsOverlay (before after : PathMap) (source target : List String) : Prop where
  file_iff : ∀ rest content, after (target ++ rest) = some (.file content) ↔
    before (source ++ rest) = some (.file content) ∨
      before (source ++ rest) = none ∧ before (target ++ rest) = some (.file content)
  directory_iff : ∀ rest, after (target ++ rest) = some .directory ↔
    before (source ++ rest) = some .directory ∨
      before (source ++ rest) = none ∧ before (target ++ rest) = some .directory
  way : ∀ other, other <+: target → before other = none → after other = some .directory
  source_kept : ∀ rest, after (source ++ rest) = before (source ++ rest)
  other_kept : ∀ other, ¬ target <+: other → (other <+: target → before other ≠ none) →
    after other = before other

section

variable {map : PathMap} {source target : List String}

/-- Nothing comes into a source from a target beside it. -/
theorem foreseen_of_apart (apart : ¬ source <+: target) (outside : ¬ target <+: source) :
    map.Foreseen source target := by
  intro rest other entry _ same
  have within : target <+: source ++ other := ⟨rest, same⟩
  exact absurd within (not_prefix_append apart outside other)

/-- What is at the target and below it, once something is laid over it. -/
theorem overlaid_target (present : map source ≠ none) (rest : List String) :
    map.overlaid source target (target ++ rest) =
      if map (source ++ rest) ≠ none then map (source ++ rest) else map (target ++ rest) := by
  unfold overlaid
  rw [laid_target]
  simp only [true_and]
  split
  · rfl
  · rename_i absent
    refine withDirectories_eq_self fun before => absurd before (not_prefix_of_below ?_)
    rintro rfl
    exact absent (by rwa [List.append_nil])

theorem isOverlay_overlaid (directory : map source = some .directory)
    (apart : ¬ source <+: target) (outside : ¬ target <+: source) :
    IsOverlay map (map.overlaid source target) source target := by
  have present : map source ≠ none := by simp [directory]
  constructor
  · intro rest content
    rw [overlaid_target present]
    cases map (source ++ rest) <;> simp
  · intro rest
    rw [overlaid_target present]
    cases map (source ++ rest) <;> simp
  · intro other before absent
    by_cases same : target <+: other
    · obtain rfl := before.eq_of_length_le same.length_le
      have top : map.overlaid source other (other ++ []) = _ := overlaid_target present []
      simpa [directory] using top
    · unfold overlaid
      rw [laid_other same]
      exact if_pos ⟨before, absent⟩
  · intro rest
    have beside := not_prefix_append apart outside rest
    unfold overlaid
    rw [laid_other beside]
    exact withDirectories_eq_self fun before =>
      absurd ((List.prefix_append source rest).trans before) apart
  · intro other beside there
    unfold overlaid
    rw [laid_other beside]
    exact withDirectories_eq_self there

end

end VirtualShell.Files.PathMap
