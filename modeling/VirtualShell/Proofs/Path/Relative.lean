import VirtualShell.Proofs.Path
import VirtualShell.Proofs.Text.Order

/-!
Contract: relative paths lead where they are said to lead.

Owns:
- what components add to the path that they are put behind: names, `.` and ways up;
- `resolve_relative`: the relative path from a directory to a place, read from that directory, is
  the place;
- `AreLevel` and `relative_lt_relative`: places to which the same number of ways up leads keep their
  order when they are written as relative paths.
-/

namespace VirtualShell.Path

open VirtualShell.Text

/-! ## Components behind a path -/

theorem partsOf_append (base path : List Char) :
    partsOf (base ++ '/' :: path) =
      ((piecesOf '/' path).foldl pushPart (partsOf base).reverse).reverse := by
  unfold partsOf
  rw [piecesOf_append_separator, List.foldl_append, List.reverse_reverse]

/-- Each way up takes a component back. -/
theorem foldl_pushPart_replicate (count : Nat) (stack : List (List Char)) :
    (List.replicate count ['.', '.']).foldl pushPart stack = stack.drop count := by
  induction count generalizing stack with
  | zero => rfl
  | succ count inductionHypothesis =>
      rw [List.replicate_succ, List.foldl_cons, inductionHypothesis]
      show stack.tail.drop count = stack.drop (count + 1)
      rw [List.drop_tail]

/-- Ways up and names behind a path take components back and put names behind the others. -/
theorem parts_append_ups {base : String} {count : Nat} {names : List String}
    (named : ∀ name ∈ names, IsName name) (present : List.replicate count ".." ++ names ≠ []) :
    parts (base ++ "/" ++ String.intercalate "/" (List.replicate count ".." ++ names)) =
      (parts base).take ((parts base).length - count) ++ names := by
  have pieces : (List.replicate count ".." ++ names).map String.toList =
      List.replicate count ['.', '.'] ++ names.map String.toList := by
    rw [List.map_append, List.map_replicate]
    rfl
  have chars : (base ++ "/" ++ String.intercalate "/" (List.replicate count ".." ++ names)).toList =
      base.toList ++ '/' ::
        joinPieces '/' (List.replicate count ['.', '.'] ++ names.map String.toList) := by
    simp [joinPieces, String.toList_intercalate, pieces]
  have separated : ∀ piece ∈ List.replicate count ['.', '.'] ++ names.map String.toList,
      '/' ∉ piece := by
    intro piece member
    rcases List.mem_append.1 member with up | called
    · rw [List.eq_of_mem_replicate up]
      decide
    · exact slash_notMem_of_isName named piece called
  have joined := piecesOf_joinPieces (pieces ▸ mt List.map_eq_nil_iff.1 present) separated
  unfold parts
  rw [chars, partsOf_append, joined, List.foldl_append, foldl_pushPart_replicate,
    foldl_pushPart_names named, List.reverse_append, List.reverse_reverse, List.drop_reverse,
    List.reverse_reverse, List.map_append, map_ofList_toList, List.length_map, List.map_take]

/-- Names behind a path are put behind its components. -/
theorem parts_append_pieces {base path : String}
    (named : ∀ piece ∈ Text.pieces '/' path, IsName piece) :
    parts (base ++ "/" ++ path) = parts base ++ Text.pieces '/' path := by
  have chars : (base ++ "/" ++ path).toList = base.toList ++ '/' :: path.toList := by
    simp
  have pushed : ∀ piece ∈ piecesOf '/' path.toList, IsName (String.ofList piece) :=
    fun piece member => named _ (List.mem_map_of_mem member)
  unfold parts Text.pieces
  rw [chars, partsOf_append, foldl_pushPart_of_isName pushed, List.reverse_append,
    List.reverse_reverse, List.reverse_reverse, List.map_append]

theorem parts_append_here (base path : String) :
    parts (base ++ "/" ++ ("./" ++ path)) = parts (base ++ "/" ++ path) := by
  have chars : (base ++ "/" ++ ("./" ++ path)).toList =
      base.toList ++ '/' :: (['.'] ++ '/' :: path.toList) := by
    simp
  have further : (base ++ "/" ++ path).toList = base.toList ++ '/' :: path.toList := by
    simp
  unfold parts
  rw [chars, further, partsOf_append, partsOf_append, piecesOf_append_separator]
  rfl

/-! ## The way to a place -/

section

variable {start target : List String}

theorem sharedLength_le : sharedLength start target ≤ start.length := by
  induction start generalizing target with
  | nil => exact Nat.zero_le _
  | cons left start inductionHypothesis =>
      cases target with
      | nil => exact Nat.zero_le _
      | cons right target =>
          unfold sharedLength
          split
          · exact Nat.succ_le_succ inductionHypothesis
          · exact Nat.zero_le _

theorem sharedLength_append (start others : List String) :
    sharedLength start (start ++ others) = start.length := by
  induction start with
  | nil => rfl
  | cons first start inductionHypothesis =>
      rw [List.cons_append, sharedLength, if_pos rfl, inductionHypothesis, List.length_cons]

theorem take_sharedLength :
    start.take (sharedLength start target) = target.take (sharedLength start target) := by
  induction start generalizing target with
  | nil => rfl
  | cons left start inductionHypothesis =>
      cases target with
      | nil => rfl
      | cons right target =>
          unfold sharedLength
          split
          · rename_i same
            rw [List.take_succ_cons, List.take_succ_cons, same, inductionHypothesis]
          · rfl

/-- A place is what it shares with the directory and what is written behind the ways up. -/
theorem take_append_drop_sharedLength :
    start.take (sharedLength start target) ++ target.drop (sharedLength start target) = target := by
  rw [take_sharedLength, List.take_append_drop]

theorem eq_of_relativeParts (rooted : relativeParts start target = []) : target = start := by
  unfold relativeParts at rooted
  rw [List.append_eq_nil_iff, List.replicate_eq_nil_iff] at rooted
  have all : start.take (sharedLength start target) = start :=
    List.take_of_length_le (Nat.le_of_sub_eq_zero rooted.1)
  rw [← @take_append_drop_sharedLength start target, rooted.2, all, List.append_nil]

end

theorem isName_of_mem_drop {path name : String} {count : Nat}
    (member : name ∈ (parts path).drop count) : IsName name :=
  isName_of_mem_parts (List.mem_of_mem_drop member)

/-- The relative path from a directory to a place leads from there to the place. -/
theorem parts_append_relative (start target : String) :
    parts (start ++ "/" ++ relative start target) = parts target := by
  unfold relative
  split
  · rename_i here
    have chars : (start ++ "/" ++ ".").toList = start.toList ++ '/' :: ['.'] := by
      simp
    rw [eq_of_relativeParts here]
    unfold parts
    rw [chars, partsOf_append]
    exact congrArg _ (List.reverse_reverse _)
  · rename_i present
    have led :=
      @parts_append_ups start _ _ (fun name member => isName_of_mem_drop member) present
    rw [relativeParts, led, Nat.sub_sub_self sharedLength_le, take_append_drop_sharedLength]

theorem not_startsWith_relative (start target : String) :
    Text.startsWith (relative start target) "/" = false := by
  unfold relative
  split
  · rfl
  · rename_i present
    have names : ∀ name ∈ relativeParts (parts start) (parts target),
        name ≠ "" ∧ '/' ∉ name.toList := by
      intro name member
      rcases List.mem_append.1 member with up | called
      · rw [List.eq_of_mem_replicate up]
        decide
      · exact ⟨(isName_of_mem_drop called).nonempty, (isName_of_mem_drop called).noSlash⟩
    obtain ⟨head, others, same⟩ := List.exists_cons_of_ne_nil present
    rw [same, Bool.eq_false_iff, Ne, startsWith_iff_head? (c := '/') rfl]
    have first := names head (same ▸ List.mem_cons_self)
    have started : (String.intercalate "/" (head :: others)).toList.head? =
        head.toList.head? := by
      rw [String.toList_intercalate, List.map_cons]
      exact head?_joinPieces (by simpa using first.1) _
    rw [started]
    exact fun slash => first.2 (List.mem_of_head? slash)

/-- The relative path from a directory to a place, read from that directory, is the place. -/
theorem resolve_relative {start target : String} (rooted : normalize target = target) :
    resolve start (relative start target) = target := by
  unfold resolve
  rw [not_startsWith_relative, if_neg (by decide), normalize, parts_append_relative]
  exact rooted

theorem not_startsWith_here (path : String) : Text.startsWith ("./" ++ path) "/" = false := by
  have first : ("./" ++ path).toList.head? = some '.' := by
    rw [String.toList_append]
    rfl
  rw [Bool.eq_false_iff, Ne, startsWith_iff_head? (c := '/') rfl, first]
  decide

theorem resolve_here {start path : String} (relative : Text.startsWith path "/" = false) :
    resolve start ("./" ++ path) = resolve start path := by
  unfold resolve
  rw [not_startsWith_here, relative, if_neg (by decide), normalize, parts_append_here]
  rfl

/-! ## The order of relative paths -/

/-- The text of components behind a directory. -/
def below (names : List String) : List Char :=
  names.flatMap fun name => '/' :: name.toList

theorem below_append (left right : List String) :
    below (left ++ right) = below left ++ below right :=
  List.flatMap_append

theorem toList_intercalate_cons (first : String) (others : List String) :
    (String.intercalate "/" (first :: others)).toList = first.toList ++ below others := by
  induction others generalizing first with
  | nil => simp [below]
  | cons second others inductionHypothesis =>
      have step : (String.intercalate "/" (first :: second :: others)).toList =
          first.toList ++ '/' :: (String.intercalate "/" (second :: others)).toList := by
        simp only [String.toList_intercalate, List.map_cons]
        exact joinPieces_cons_cons '/' _ _ _
      rw [step, inductionHypothesis]
      rfl

theorem toList_text_of_ne_nil {names : List String} (present : names ≠ []) :
    (text names).toList = below names := by
  obtain ⟨first, others, rfl⟩ := List.exists_cons_of_ne_nil present
  unfold text
  rw [String.toList_append, toList_intercalate_cons]
  rfl

/-- Absolute paths are in the order of what is behind the root. -/
theorem text_lt_text_iff {left right : List String} (named : ∀ name ∈ right, IsName name) :
    text left < text right ↔ below left < below right := by
  have root : (text []).toList = ['/'] := by
    simp [text]
  rw [String.lt_iff]
  cases left with
  | nil =>
      cases right with
      | nil => exact iff_of_false (List.lt_irrefl _) (List.lt_irrefl _)
      | cons first others =>
          have solid := (named first List.mem_cons_self).nonempty
          obtain ⟨c, rest, chars⟩ :=
            List.exists_cons_of_ne_nil (mt String.toList_eq_nil_iff.1 solid)
          rw [root, toList_text_of_ne_nil (List.cons_ne_nil first others)]
          refine iff_of_true ?_ (List.nil_lt_cons _ _)
          refine List.cons_lt_cons_self.2 ?_
          rw [chars]
          exact List.nil_lt_cons c _
  | cons first others =>
      rw [toList_text_of_ne_nil (List.cons_ne_nil first others)]
      cases right with
      | nil =>
          rw [root]
          refine iff_of_false (fun before => ?_) (List.not_lt_nil _)
          exact List.not_lt_nil _ (List.cons_lt_cons_self.1 before)
      | cons second more => rw [toList_text_of_ne_nil (List.cons_ne_nil second more)]

theorem piecesOf_below {names : List String} (named : ∀ name ∈ names, IsName name) :
    piecesOf '/' (below names) = [] :: names.map String.toList := by
  have joined : below names = joinPieces '/' ([] :: names.map String.toList) := by
    rw [← List.nil_append (below names)]
    refine (toList_intercalate_cons "" names).symm.trans ?_
    rw [String.toList_intercalate, List.map_cons]
    rfl
  have separated : ∀ piece ∈ [] :: names.map String.toList, '/' ∉ piece := by
    intro piece member
    rcases List.mem_cons.1 member with rfl | called
    · exact List.not_mem_nil
    · exact slash_notMem_of_isName named piece called
  rw [joined, piecesOf_joinPieces (List.cons_ne_nil _ _) separated]

/-- A path other than the root that is written behind some components is below them. -/
theorem parts_of_toList_eq {path : String} {names : List String} {back : List Char}
    (rooted : normalize path = path) (belowRoot : path ≠ "/")
    (named : ∀ name ∈ names, IsName name) (written : path.toList = below names ++ '/' :: back) :
    parts path = names ++ (piecesOf '/' back).map String.ofList := by
  have present : parts path ≠ [] := by
    intro empty
    rw [← rooted, normalize, empty] at belowRoot
    exact belowRoot (by decide)
  have whole : below (parts path) = below names ++ '/' :: back := by
    rw [← toList_text_of_ne_nil present, ← written]
    exact congrArg String.toList rooted
  have pieces := congrArg (piecesOf '/') whole
  rw [piecesOf_append_separator, piecesOf_below fun _ => isName_of_mem_parts,
    piecesOf_below named, List.cons_append] at pieces
  rw [← map_ofList_toList (parts path), (List.cons.inj pieces).2, List.map_append,
    map_ofList_toList]

/-- As many ways up lead from a directory to two places, and to neither of them lead none at all,
unless the directory is both. -/
structure AreLevel (start left right : String) : Prop where
  shared : sharedLength (parts start) (parts left) = sharedLength (parts start) (parts right)
  here : left = start ↔ right = start

/-- What is below a directory is level, as seen from there. -/
theorem areLevel_of_below {start left right : String} {leftRest rightRest : List String}
    (leftParts : parts left = parts start ++ leftRest) (leftFurther : leftRest ≠ [])
    (rightParts : parts right = parts start ++ rightRest) (rightFurther : rightRest ≠ []) :
    AreLevel start left right where
  shared := by rw [leftParts, rightParts, sharedLength_append, sharedLength_append]
  here := by
    refine iff_of_false ?_ ?_
    · rintro rfl
      exact leftFurther (List.append_right_eq_self.1 leftParts.symm)
    · rintro rfl
      exact rightFurther (List.append_right_eq_self.1 rightParts.symm)

theorem AreLevel.split {start left right : String} (level : AreLevel start left right) :
    ∃ ups common leftRest rightRest,
      parts left = common ++ leftRest ∧ parts right = common ++ rightRest ∧
        relativeParts (parts start) (parts left) = List.replicate ups ".." ++ leftRest ∧
        relativeParts (parts start) (parts right) = List.replicate ups ".." ++ rightRest := by
  have rejoined := @take_append_drop_sharedLength (parts start) (parts right)
  rw [← level.shared] at rejoined
  refine ⟨_, _, _, _, take_append_drop_sharedLength.symm, rejoined.symm, rfl, ?_⟩
  rw [relativeParts, ← level.shared]

/-- Places to which the same number of ways up leads keep their order as relative paths. -/
theorem relative_lt_relative {start left right : String} (startRooted : normalize start = start)
    (leftRooted : normalize left = left) (rightRooted : normalize right = right)
    (level : AreLevel start left right) (less : left < right) :
    relative start left < relative start right := by
  obtain ⟨ups, common, leftRest, rightRest, leftParts, rightParts, leftWay, rightWay⟩ := level.split
  have rests : below leftRest < below rightRest := by
    rw [← leftRooted, ← rightRooted, normalize, normalize,
      text_lt_text_iff fun _ => isName_of_mem_parts, leftParts, rightParts,
      below_append, below_append, Text.append_lt_append_iff] at less
    exact less
  unfold relative
  rw [leftWay, rightWay, String.lt_iff]
  cases ups with
  | zero =>
      have further : leftRest ≠ [] := by
        rintro rfl
        have ended : left = start := by
          rw [← leftRooted, ← startRooted, normalize, normalize, eq_of_relativeParts leftWay]
        exact String.lt_irrefl right ((level.here.1 ended).trans ended.symm ▸ less)
      obtain ⟨first, others, rfl⟩ := List.exists_cons_of_ne_nil further
      cases rightRest with
      | nil => exact absurd rests (List.not_lt_nil _)
      | cons second more =>
          show (String.intercalate "/" (first :: others)).toList <
            (String.intercalate "/" (second :: more)).toList
          rw [toList_intercalate_cons, toList_intercalate_cons]
          exact List.cons_lt_cons_self.1 rests
  | succ ups =>
      show (String.intercalate "/" (".." :: (List.replicate ups ".." ++ leftRest))).toList <
        (String.intercalate "/" (".." :: (List.replicate ups ".." ++ rightRest))).toList
      rw [toList_intercalate_cons, toList_intercalate_cons, below_append, below_append,
        Text.append_lt_append_iff, Text.append_lt_append_iff]
      exact rests

end VirtualShell.Path
