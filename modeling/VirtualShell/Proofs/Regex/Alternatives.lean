import VirtualShell.Proofs.Regex.Stages

/-!
Contract: expressions with bars between them match where one of them matches.

Owns:
- `Expression.stages` and what an expression does somewhere in them: it sets flags for the whole,
  has groups, names them, refers to them by number;
- `ComesTo`, a text that is read to the same end wherever an alternative starts that has room for
  it, alone and between marks of whole words;
- `IsSteady`, a view of alternatives that does not depend on the numbers of groups;
- `exists_read_alternatives`: such texts with bars between them are an expression, the alternatives
  of which are theirs in every such view.
-/

namespace VirtualShell.Regex

open Progress

/-! ## Texts -/

theorem signsOf_append {left : List Char} (whole : ¬ EndsBroken (signsOf left))
    (right : List Char) : signsOf (left ++ right) = signsOf left ++ signsOf right := by
  fun_induction signsOf left with
  | case1 => rfl
  | case2 => exact absurd rfl whole
  | case3 c rest inductionHypothesis =>
      exact congrArg (Sign.escaped c :: ·) (inductionHypothesis fun broken => whole (broken.cons _))
  | case4 c rest notLast notEscape inductionHypothesis =>
      have unescaped : c ≠ '\\' := by
        rintro rfl
        cases rest with
        | nil => exact notLast rfl rfl
        | cons d rest => exact notEscape d rest rfl rfl
      rw [List.cons_append, signsOf_cons unescaped,
        inductionHypothesis fun broken => whole (broken.cons _)]
      rfl

/-! ## Expressions -/

/-- The flags that an expression starts with. -/
def startFlags (ignoreCase : Bool) : Flags :=
  { Flags.none with ignoreCase := ignoreCase }

namespace Expression

/-- How far an expression has been read and what is left of it, before each step and at the end. -/
def stages (ignoreCase : Bool) (text : String) : List (Progress × List Sign) :=
  let signs := signsOf text.toList
  (Progress.initial (startFlags ignoreCase)).stages signs.length signs

/-- The expression sets flags for all of it. -/
def setsFlags (ignoreCase : Bool) (text : String) : Bool :=
  (stages ignoreCase text).any fun stage => Progress.setsFlags stage.2

/-- The expression refers to a group by its number. -/
def refersByNumber (ignoreCase : Bool) (text : String) : Bool :=
  (stages ignoreCase text).any fun stage => Progress.refersByNumber stage.2

/-- The expression has a group that captures. -/
def hasGroups (ignoreCase : Bool) (text : String) : Bool :=
  (stages ignoreCase text).any fun stage => 0 < stage.1.groups

/-- The names that the expression gives to groups. -/
def groupNames (ignoreCase : Bool) (text : String) : List String :=
  (stages ignoreCase text).flatMap fun stage => stage.1.names.map Prod.fst

end Expression

variable {ignoreCase : Bool} {text : String} {site : Site} {final : Progress}

/-- Where an alternative starts, no group is counted that the expression might mean by a number and
none has a name that the expression gives. -/
structure Site.HasRoom (site : Site) (ignoreCase : Bool) (text : String) : Prop where
  numberless : site.groups = 0 ∨ Expression.refersByNumber ignoreCase text = false
  fresh : ∀ name ∈ Expression.groupNames ignoreCase text, ∀ known ∈ site.names, name ≠ known.1

theorem Site.HasRoom.admits (room : site.HasRoom ignoreCase text)
    (flagless : Expression.setsFlags ignoreCase text = false) :
    ∀ stage ∈ Expression.stages ignoreCase text, site.Admits stage := by
  intro stage member
  refine ⟨?_, room.numberless.imp_right fun none => ?_, fun entry inside known => ?_⟩
  · simpa using List.any_eq_false.1 flagless stage member
  · simpa using List.any_eq_false.1 none stage member
  · exact room.fresh entry.1 (List.mem_flatMap.2 ⟨stage, member, List.mem_map_of_mem inside⟩) known

/-- The piece made from an expression is read to the same end wherever an alternative starts that
has room for the expression. -/
structure ComesTo (ignoreCase : Bool) (text : String) (piece : List Sign) (final : Progress) :
    Prop where
  rooted : final.IsRooted (startFlags ignoreCase)
  closed : final.outer = []
  faultless : final.isFaulty = false
  bounded : ∀ group ∈ final.conditions, group ≤ final.groups
  numbered : 0 < final.groups → Expression.hasGroups ignoreCase text = true
  named : ∀ entry ∈ final.names, entry.1 ∈ Expression.groupNames ignoreCase text
  whole : ¬ EndsBroken piece
  leads : ∀ ⦃site : Site⦄ ⦃tail : List Sign⦄ ⦃more : Nat⦄, site.HasRoom ignoreCase text →
    IsClosed tail → piece.length + tail.length ≤ more →
    ∃ spare, tail.length ≤ spare ∧
      (site.embed (initial (startFlags ignoreCase))).readAll more (piece ++ tail) =
        (site.embed final).readAll spare tail

/-- An expression that is read alone is read as an alternative if it sets no flags for the whole. -/
theorem exists_comesTo {tree : Pattern} (read : Pattern.parse ignoreCase text = .ok tree)
    (flagless : Expression.setsFlags ignoreCase text = false) :
    ∃ final, ComesTo ignoreCase text (signsOf text.toList) final ∧
      content final.level = tree := by
  obtain ⟨final, rooted, finished, member, whole, leads⟩ :=
    exists_final rfl (isRooted_initial (startFlags ignoreCase))
      (fun stage inside => by simpa using List.any_eq_false.1 flagless stage inside) read
  obtain ⟨closed, -, faultless, bounded, same⟩ := finish_eq_ok finished
  refine ⟨final, ⟨rooted, closed, faultless, ?_, ?_, ?_, whole, ?_⟩, same⟩
  · simpa using bounded
  · exact fun some => List.any_eq_true.2 ⟨_, member, by simpa using some⟩
  · exact fun entry inside => List.mem_flatMap.2 ⟨_, member, List.mem_map_of_mem inside⟩
  · exact fun site tail more room => leads (room.admits flagless)

/-! ## Whole words -/

/-- The signs that ask for an expression to match whole words. -/
def wordSigns (signs : List Sign) : List Sign :=
  .escaped 'b' :: .plain '(' :: .plain '?' :: .plain ':' ::
    (signs ++ [.plain ')', .escaped 'b'])

/-- What is read inside the parenthesis in front of which there is a word boundary. -/
def Site.inWord (site : Site) (flags : Flags) : Site where
  opener := .plain
  alternatives := []
  outer :=
    (site.embed ((initial flags).add (.anchor (.wordBoundary false)))).level ::
      (site.embed ((initial flags).add (.anchor (.wordBoundary false)))).outer
  groups := site.groups
  widths := site.widths
  names := site.names
  conditions := site.conditions
  unconditional := nofun
  bounded := site.bounded

/-- What has been read up to the parenthesis that is closed behind an expression. -/
def Progress.inGroup (final : Progress) : Progress :=
  { final with
    level := ⟨.whole, final.level.flags, [],
      [content final.level, .anchor (.wordBoundary false)]⟩ }

/-- What has been read up to the word boundary behind that. -/
def Progress.inWord (final : Progress) : Progress :=
  final.inGroup.add (.anchor (.wordBoundary false))

theorem wordSigns_length (signs : List Sign) : (wordSigns signs).length = signs.length + 6 := by
  simp [wordSigns]

theorem step_boundary {progress : Progress} (unset : progress.level.flags = startFlags ignoreCase)
    (signs : List Sign) :
    (site.embed progress).step (.escaped 'b') signs =
      .ok (site.embed (progress.add (.anchor (.wordBoundary false))), signs) := by
  unfold step readEscape
  rw [Site.flags_embed, unset, Site.embed_add]
  rfl

theorem step_opening (site : Site) (ignoreCase : Bool) (signs : List Sign) :
    (site.embed ((initial (startFlags ignoreCase)).add (.anchor (.wordBoundary false)))).step
        (.plain '(') (.plain '?' :: .plain ':' :: signs) =
      .ok ((site.inWord (startFlags ignoreCase)).embed (initial (startFlags ignoreCase)), signs) :=
  rfl

theorem content_congr {level other : Level} (alternatives : level.alternatives = other.alternatives)
    (items : level.items = other.items) : content level = content other := by
  unfold content
  rw [alternatives, items]

theorem outer_inWord_embed (closed : final.outer = []) :
    ((site.inWord (startFlags ignoreCase)).embed final).outer ≠ [] := by
  obtain ⟨level, outer, _⟩ := final
  subst closed
  exact List.cons_ne_nil _ _

theorem step_closing (rooted : final.IsRooted (startFlags ignoreCase)) (closed : final.outer = [])
    (signs : List Sign) :
    ((site.inWord (startFlags ignoreCase)).embed final).step (.plain ')') signs =
      .ok (site.embed final.inGroup, signs) := by
  have flags := (rooted.level_eq closed).2
  have read : ((site.inWord (startFlags ignoreCase)).embed final).step (.plain ')') signs =
      ((site.inWord (startFlags ignoreCase)).embed final).close.map fun next => (next, signs) := by
    unfold step
    rw [Site.flags_embed, flags]
    rfl
  have body : content ((site.inWord (startFlags ignoreCase)).ground final.level) =
      (content final.level).raise site.groups := by
    rw [← content_raise]
    exact content_congr (List.append_nil _) rfl
  obtain ⟨⟨opener, inside, alternatives, items⟩, outer, _⟩ := final
  subst closed
  rw [read]
  unfold close inGroup
  dsimp only [Site.embed, Site.stack]
  rw [body]
  cases flags
  rfl

theorem ComesTo.word {signs : List Sign} (comes : ComesTo ignoreCase text signs final) :
    ComesTo ignoreCase text (wordSigns signs) final.inWord := by
  obtain ⟨rooted, closed, faultless, bounded, numbered, named, whole, leads⟩ := comes
  have boundary {rule : CaseRule} : (Pattern.anchor (.wordBoundary false)).HasRule rule :=
    Pattern.hasRule_of_branches rfl nofun
  have grouped : final.StaysRooted final.inGroup :=
    staysRooted_of_level rfl (.inl (rooted.level_eq closed).1.symm) fun uniform =>
      List.forall_mem_cons.2 ⟨uniform.hasRule_content, List.forall_mem_singleton.2 boundary⟩
  refine ⟨staysRooted_add boundary (grouped rooted), closed, faultless, bounded, numbered, named,
    ?_, ?_⟩
  · simp [EndsBroken, wordSigns, List.getLast?_cons, List.getLast?_append]
  · intro site tail more room _ enough
    have pieces : wordSigns signs ++ tail =
        .escaped 'b' :: .plain '(' :: .plain '?' :: .plain ':' ::
          (signs ++ .plain ')' :: .escaped 'b' :: tail) := by
      simp [wordSigns]
    have inside : (site.inWord (startFlags ignoreCase)).HasRoom ignoreCase text :=
      ⟨room.numberless, room.fresh⟩
    rw [wordSigns_length] at enough
    obtain ⟨less, rfl⟩ : ∃ less, more = less + 2 := ⟨more - 2, by omega⟩
    obtain ⟨spare, left, read⟩ := leads inside (isClosed_parenthesis (.escaped 'b' :: tail))
      (show _ ≤ less by simp; omega)
    rw [List.length_cons, List.length_cons] at left
    obtain ⟨spare, rfl⟩ : ∃ less, spare = less + 2 := ⟨spare - 2, by omega⟩
    have unset : final.inGroup.level.flags = startFlags ignoreCase := (rooted.level_eq closed).2
    rw [pieces, readAll_succ (step_boundary rfl _) (by simp),
      readAll_succ (step_opening site ignoreCase _) (by simp), read,
      readAll_succ (step_closing rooted closed _) fun _ => outer_inWord_embed closed,
      readAll_succ (step_boundary unset tail) (by simp)]
    exact ⟨spare, by omega, rfl⟩

/-! ## Bars -/

/-- Behind an alternative, too, every condition is on a group that is there. -/
theorem Site.le_of_mem_conditions (site : Site) {group : Nat}
    (bounded : ∀ group ∈ final.conditions, group ≤ final.groups)
    (inside : group ∈ final.conditions.map (site.groups + ·) ++ site.conditions) :
    group ≤ site.groups + final.groups := by
  rcases List.mem_append.1 inside with own | before
  · obtain ⟨number, member, rfl⟩ := List.mem_map.1 own
    exact Nat.add_le_add_left (bounded number member) _
  · exact Nat.le_add_right_of_le (site.bounded group before)

/-- Where the next alternative starts. -/
def Site.after (site : Site) (final : Progress)
    (bounded : ∀ group ∈ final.conditions, group ≤ final.groups) : Site where
  opener := site.opener
  alternatives :=
    (Pattern.inOrder final.level.items.reverse :: final.level.alternatives).map
      (·.raise site.groups) ++ site.alternatives
  outer := site.outer
  groups := site.groups + final.groups
  widths := final.widths.map (fun entry => (site.groups + entry.1, entry.2)) ++ site.widths
  names := final.names.map (fun entry => (entry.1, site.groups + entry.2)) ++ site.names
  conditions := final.conditions.map (site.groups + ·) ++ site.conditions
  unconditional := site.unconditional
  bounded := fun _ inside => site.le_of_mem_conditions bounded inside

theorem step_bar {signs piece : List Sign} (comes : ComesTo ignoreCase text piece final) :
    (site.embed final).step (.plain '|') signs =
      .ok ((site.after final comes.bounded).embed (initial (startFlags ignoreCase)), signs) := by
  have bar : (site.embed final).step (.plain '|') signs =
      (site.embed final).alternate.map fun next => (next, signs) := by
    unfold step
    rw [Site.flags_embed, (comes.rooted.level_eq comes.closed).2]
    rfl
  obtain ⟨opener, levelFlags⟩ := comes.rooted.level_eq comes.closed
  have next : final.alternate = .ok { final with
      level := ⟨.whole, startFlags ignoreCase,
        Pattern.inOrder final.level.items.reverse :: final.level.alternatives, []⟩ } := by
    unfold alternate
    dsimp only
    rw [opener, ← levelFlags]
  have none := comes.rooted.behindFrom_eq_none comes.closed
  have whole := comes.rooted.whole
  have closed := comes.closed
  have faultless := comes.faultless
  obtain ⟨joint, -⟩ := alternate_embed site comes.rooted next
  rw [bar, joint]
  obtain ⟨level, outer, groups, widths, names, behindFrom, flags, conditions, isFaulty⟩ := final
  subst closed
  subst faultless
  subst none
  subst whole
  rfl

theorem finish_embed {piece : List Sign} (comes : ComesTo ignoreCase text piece final)
    (outermost : site.outer = []) :
    (site.embed final).finish true = .ok (content (site.ground final.level)) := by
  obtain ⟨rooted, closed, faultless, bounded, -⟩ := comes
  have whole := rooted.whole
  have conditions : (site.embed final).conditions.any ((site.embed final).groups < ·) = false := by
    rw [List.any_eq_false]
    intro group inside
    rw [decide_eq_true_iff, Nat.not_lt]
    exact site.le_of_mem_conditions bounded inside
  have outer : (site.embed final).outer.isEmpty = true := by
    unfold Site.embed
    rw [closed, List.isEmpty_iff]
    exact outermost
  have level : (site.embed final).level = site.ground final.level := by
    unfold Site.embed
    rw [closed]
    rfl
  have faulty : (site.embed final).isFaulty = false := faultless
  have flags : (site.embed final).flags = startFlags ignoreCase := whole
  simp only [finish, outer, conditions, level, faulty, flags]
  rfl

/-! ## Branches -/

/-- The alternatives of what a parenthesis holds are those before its last bar and the items behind
it. -/
theorem branches_content (level : Level) :
    (content level).branches =
      level.alternatives.reverse.map (fun pattern => joined pattern.branches) ++
        (Pattern.inOrder level.items.reverse).branches := by
  have folded (others : List Pattern) (right : Pattern) :
      (others.foldl (fun right left => Pattern.either left right) right).branches =
        others.reverse.map (fun pattern => joined pattern.branches) ++ right.branches := by
    induction others generalizing right with
    | nil => rfl
    | cons other others inductionHypothesis =>
        rw [List.foldl_cons, inductionHypothesis, List.reverse_cons, List.map_append,
          List.append_assoc]
        rfl
  unfold content
  cases level.alternatives with
  | nil => rfl
  | cons last others =>
      dsimp only
      rw [folded, List.reverse_cons, List.map_append, List.append_assoc]
      rfl

section

variable {β : Type} {view : List Pattern → β}

/-- What is seen of an alternative does not depend on the numbers that groups have. -/
def IsSteady (view : List Pattern → β) : Prop :=
  ∀ offset branch, view (branch.map (·.raise offset)) = view branch

/-- What is seen of some alternatives that are known, the latest first. -/
def seen (view : List Pattern → β) (alternatives : List Pattern) : List β :=
  alternatives.reverse.map fun pattern => view (joined pattern.branches)

theorem seen_raise (steady : IsSteady view) (offset : Nat) (alternatives : List Pattern) :
    seen view (alternatives.map (·.raise offset)) = seen view alternatives := by
  unfold seen
  rw [← List.map_reverse, List.map_map]
  refine List.map_congr_left fun pattern _ => ?_
  rw [Function.comp_apply, branches_raise, joined_raise, steady]

theorem seen_append (latest others : List Pattern) :
    seen view (latest ++ others) = seen view others ++ seen view latest := by
  rw [seen, List.reverse_append, List.map_append]
  rfl

theorem map_branches_content (view : List Pattern → β) (level : Level) :
    (content level).branches.map view =
      seen view (Pattern.inOrder level.items.reverse :: level.alternatives) := by
  rw [branches_content, Pattern.branches_inOrder, List.map_append, List.map_map, seen,
    List.reverse_cons, List.map_append, List.map_singleton, List.map_singleton,
    Pattern.branches_inOrder]
  rfl

theorem map_branches_ground (steady : IsSteady view) (site : Site) (level : Level) :
    (content (site.ground level)).branches.map view =
      seen view site.alternatives ++ (content level).branches.map view := by
  rw [map_branches_content, map_branches_content, Site.ground, ← raise_inOrder_reverse,
    ← List.cons_append, ← List.map_cons, seen_append, seen_raise steady]

theorem seen_after (steady : IsSteady view) (site : Site) (final : Progress)
    (bounded : ∀ group ∈ final.conditions, group ≤ final.groups) :
    seen view (site.after final bounded).alternatives =
      seen view site.alternatives ++ (content final.level).branches.map view := by
  rw [Site.after, seen_append, seen_raise steady, map_branches_content]

end

/-! ## Alternatives -/

theorem Site.HasRoom.after {piece : List Sign} {other : String}
    (comes : ComesTo ignoreCase text piece final) (room : site.HasRoom ignoreCase other)
    (named : ∀ name ∈ Expression.groupNames ignoreCase text,
      name ∉ Expression.groupNames ignoreCase other)
    (numbered : Expression.hasGroups ignoreCase text = true →
      Expression.refersByNumber ignoreCase other = false) :
    (site.after final comes.bounded).HasRoom ignoreCase other := by
  constructor
  · by_cases none : final.groups = 0
    · refine room.numberless.imp_left fun first => ?_
      show site.groups + final.groups = 0
      rw [first, none]
    · exact .inr (numbered (comes.numbered (Nat.pos_of_ne_zero none)))
  · intro name inside known member same
    rcases List.mem_append.1 member with own | before
    · obtain ⟨entry, given, rfl⟩ := List.mem_map.1 own
      exact named entry.1 (comes.named entry given) (same ▸ inside)
    · exact room.fresh name inside known before same

/-- Texts with bars between them are read as one expression, which has their alternatives behind
those before them. -/
theorem exists_read_alternatives {texts : List String} (present : texts ≠ [])
    {piece : String → String} {finals : String → Progress}
    (comes : ∀ text ∈ texts, ComesTo ignoreCase text (signsOf (piece text).toList) (finals text))
    (named : texts.Pairwise fun first second =>
      ∀ name ∈ Expression.groupNames ignoreCase first,
        name ∉ Expression.groupNames ignoreCase second)
    (numbered : texts.Pairwise fun first second =>
      Expression.hasGroups ignoreCase first = true →
        Expression.refersByNumber ignoreCase second = false)
    (outermost : site.outer = []) (room : ∀ text ∈ texts, site.HasRoom ignoreCase text)
    {fuel : Nat} (enough :
      (signsOf (String.intercalate "|" (texts.map piece)).toList).length ≤ fuel) :
    ∃ tree,
      (site.embed (initial (startFlags ignoreCase))).readAll fuel
        (signsOf (String.intercalate "|" (texts.map piece)).toList) = .ok tree ∧
      ∀ {β : Type} {view : List Pattern → β}, IsSteady view → tree.branches.map view =
        seen view site.alternatives ++
          texts.flatMap fun text => (content (finals text).level).branches.map view := by
  -- Each text is read where the one before it has left off, at a site of its own.
  induction texts generalizing site fuel with
  | nil => exact absurd rfl present
  | cons text others inductionHypothesis =>
      obtain ⟨own, further⟩ := List.forall_mem_cons.1 comes
      obtain ⟨fits, roomBehind⟩ := List.forall_mem_cons.1 room
      obtain ⟨ownNames, named⟩ := List.pairwise_cons.1 named
      obtain ⟨ownGroups, numbered⟩ := List.pairwise_cons.1 numbered
      cases others with
      | nil =>
          rw [List.map_singleton, String.intercalate_singleton] at enough ⊢
          obtain ⟨spare, -, read⟩ := own.leads fits IsClosed.nil (by simpa using enough)
          rw [List.append_nil, readAll_nil, finish_embed own outermost] at read
          refine ⟨_, read, fun steady => ?_⟩
          rw [map_branches_ground steady, List.flatMap_singleton]
      | cons next others =>
          have signs :
              signsOf (String.intercalate "|" ((text :: next :: others).map piece)).toList =
              signsOf (piece text).toList ++ .plain '|' ::
                signsOf (String.intercalate "|" ((next :: others).map piece)).toList := by
            rw [List.map_cons, List.map_cons, String.intercalate_cons_cons, String.toList_append,
              String.toList_append, List.append_assoc, signsOf_append own.whole]
            exact congrArg _ (signsOf_cons (by decide) _)
          rw [signs] at enough ⊢
          rw [List.length_append] at enough
          obtain ⟨spare, left, read⟩ := own.leads fits (isClosed_bar _) enough
          rw [List.length_cons] at left
          obtain ⟨spare, rfl⟩ : ∃ less, spare = less + 1 := ⟨spare - 1, by omega⟩
          rw [read, readAll_succ (step_bar own) nofun]
          obtain ⟨tree, read, same⟩ := @inductionHypothesis (site.after (finals text) own.bounded)
            (List.cons_ne_nil _ _) further named numbered outermost
            (fun other member => (roomBehind other member).after own (ownNames other member)
              (ownGroups other member)) spare (by omega)
          refine ⟨tree, read, fun steady => ?_⟩
          rw [same steady, seen_after steady, List.append_assoc]
          rfl

end VirtualShell.Regex
