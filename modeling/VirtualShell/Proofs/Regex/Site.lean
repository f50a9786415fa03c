import Mathlib.Data.List.Chain
import VirtualShell.Proofs.Regex.Condensing
import VirtualShell.Proofs.Regex.Extension

/-!
Contract: an expression that is read as an alternative of a larger one.

Owns:
- `Site`, what has been read where the alternative starts, and `Site.embed`, how far the larger
  expression has been read once the alternative alone has been read some way;
- `Progress.IsRooted`, that no flags have been set for the whole of an expression, that a look
  behind is known of only while it is open, and that sets have the case rule of the flags in force
  where they stand;
- `embed_add`, `embed_push` and their like: an embedded progress goes on as the progress itself.

Of the larger expression an alternative sees the flags only. Its own groups are counted from those
that were there before.
-/

namespace VirtualShell.Regex

/-! ## Levels -/

/-- What a parenthesis is for, with every group counted `offset` numbers later. -/
def Opener.raise (offset : Nat) : Opener → Opener
  | .whole => .whole
  | .plain => .plain
  | .group number => .group (number.map (offset + ·))
  | .atomic => .atomic
  | .lookAhead negated => .lookAhead negated
  | .lookBehind negated isOutermost => .lookBehind negated isOutermost
  | .condition number set => .condition (offset + number) (set.map (·.raise offset))

/-- What has been read inside a parenthesis, with every group counted `offset` numbers later. -/
def Level.raise (offset : Nat) (level : Level) : Level :=
  ⟨level.opener.raise offset, level.flags, level.alternatives.map (·.raise offset),
    level.items.map (·.raise offset)⟩

theorem raise_inOrder_reverse (offset : Nat) (items : List Pattern) :
    (Pattern.inOrder items.reverse).raise offset =
      Pattern.inOrder (items.map (·.raise offset)).reverse := by
  rw [Pattern.raise_inOrder, List.map_reverse]

theorem content_raise (offset : Nat) (level : Level) :
    Progress.content (level.raise offset) = (Progress.content level).raise offset := by
  obtain ⟨opener, flags, alternatives, items⟩ := level
  cases alternatives with
  | nil => exact (raise_inOrder_reverse offset items).symm
  | cons last others =>
      have folded (right : Pattern) :
          (others.map (·.raise offset)).foldl (fun right left => .either left right)
              (right.raise offset) =
            (others.foldl (fun right left => .either left right) right).raise offset := by
        induction others generalizing right with
        | nil => rfl
        | cons other others inductionHypothesis =>
            exact inductionHypothesis (.either other right)
      have latest := folded (.either last (Pattern.inOrder items.reverse))
      rw [Pattern.raise, raise_inOrder_reverse] at latest
      exact latest

/-- In the alternatives and items the sets have the case rule of the flags in force. -/
def Level.IsUniform (level : Level) : Prop :=
  ∀ pattern ∈ level.alternatives ++ level.items, pattern.HasRule level.flags.caseRule

theorem Level.IsUniform.hasRule_items {level : Level} (uniform : level.IsUniform) :
    (Pattern.inOrder level.items.reverse).HasRule level.flags.caseRule :=
  Pattern.hasRule_inOrder fun _ member =>
    uniform _ (List.mem_append_right _ (List.mem_reverse.1 member))

theorem hasRule_foldl_either {rule : CaseRule} {others : List Pattern}
    (each : ∀ pattern ∈ others, pattern.HasRule rule) {right : Pattern}
    (ruled : right.HasRule rule) :
    (others.foldl (fun right left => .either left right) right).HasRule rule := by
  induction others generalizing right with
  | nil => exact ruled
  | cons other others inductionHypothesis =>
      obtain ⟨next, further⟩ := List.forall_mem_cons.1 each
      exact inductionHypothesis further (next.either ruled)

theorem Level.IsUniform.hasRule_content {level : Level} (uniform : level.IsUniform) :
    (Progress.content level).HasRule level.flags.caseRule := by
  have latest := uniform.hasRule_items
  obtain ⟨opener, flags, alternatives, items⟩ := level
  cases alternatives with
  | nil => exact latest
  | cons last others =>
      obtain ⟨own, further⟩ := List.forall_mem_cons.1 (List.forall_mem_append.1 uniform).1
      exact hasRule_foldl_either further (own.either latest)

/-- A parenthesis that only groups has the flags of the one around it. -/
def Level.IsWithin (level below : Level) : Prop :=
  level.opener = .plain → level.flags = below.flags

/-- The progress with one more level, the innermost one. -/
def Progress.inside (progress : Progress) (level : Level) : Progress :=
  { progress with level := level, outer := progress.level :: progress.outer }

theorem Progress.exists_inside {progress : Progress} (opened : progress.outer ≠ []) :
    ∃ (around : Progress) (level : Level), progress = around.inside level := by
  obtain ⟨level, outer, _⟩ := progress
  cases outer with
  | nil => exact absurd rfl opened
  | cons below outer => exact ⟨⟨below, outer, _, _, _, _, _, _, _⟩, level, rfl⟩

/-! ## Sites -/

/-- Where an alternative starts: the parenthesis around it with the alternatives before it, the
latest first, the parentheses around that one, and the groups, their widths and names and the
conditions up to there. Every condition is on a group that is there. -/
structure Site where
  opener : Opener
  alternatives : List Pattern
  outer : List Level
  groups : Nat
  widths : List (Nat × Width)
  names : List (String × Nat)
  conditions : List Nat
  unconditional : ∀ group set, opener ≠ .condition group set
  bounded : ∀ group ∈ conditions, group ≤ groups

namespace Site

/-- The outermost level of an alternative, in the parenthesis around it. -/
def ground (site : Site) (base : Level) : Level :=
  ⟨site.opener, base.flags, base.alternatives.map (·.raise site.groups) ++ site.alternatives,
    base.items.map (·.raise site.groups)⟩

/-- The innermost level and those around it, in the parenthesis around the alternative. -/
def stack (site : Site) : Level → List Level → Level × List Level
  | base, [] => (site.ground base, site.outer)
  | level, below :: outer =>
      (level.raise site.groups, (site.stack below outer).1 :: (site.stack below outer).2)

/-- How far the larger expression has been read. -/
def embed (site : Site) (progress : Progress) : Progress where
  level := (site.stack progress.level progress.outer).1
  outer := (site.stack progress.level progress.outer).2
  groups := site.groups + progress.groups
  widths := progress.widths.map (fun entry => (site.groups + entry.1, entry.2)) ++ site.widths
  names := progress.names.map (fun entry => (entry.1, site.groups + entry.2)) ++ site.names
  behindFrom := progress.behindFrom.map (site.groups + ·)
  flags := progress.flags
  conditions := progress.conditions.map (site.groups + ·) ++ site.conditions
  isFaulty := progress.isFaulty

/-- No group of the alternative has the name of a group before it. -/
def IsFresh (site : Site) (progress : Progress) : Prop :=
  ∀ entry ∈ progress.names, ∀ known ∈ site.names, entry.1 ≠ known.1

variable {site : Site} {progress : Progress}

@[simp] theorem flags_embed : (site.embed progress).level.flags = progress.level.flags := by
  obtain ⟨level, outer, _⟩ := progress
  cases outer <;> rfl

@[simp] theorem items_embed :
    (site.embed progress).level.items = progress.level.items.map (·.raise site.groups) := by
  obtain ⟨level, outer, _⟩ := progress
  cases outer <;> rfl

/-- The items of the innermost parenthesis are changed where they are. -/
theorem embed_withItems (items : List Pattern) :
    site.embed { progress with level := { progress.level with items := items } } =
      { site.embed progress with
        level := { (site.embed progress).level with
          items := items.map (·.raise site.groups) } } := by
  obtain ⟨level, outer, _⟩ := progress
  cases outer <;> rfl

theorem embed_add (item : Pattern) :
    site.embed (progress.add item) = (site.embed progress).add (item.raise site.groups) := by
  rw [Progress.add, embed_withItems, List.map_cons, Progress.add, items_embed]

theorem embed_push (opener : Opener) (flags : Flags) :
    site.embed (progress.push opener flags) =
      (site.embed progress).push (opener.raise site.groups) flags :=
  rfl

theorem embed_openGroup : site.embed progress.openGroup = (site.embed progress).openGroup := by
  unfold Progress.openGroup
  rw [embed_push, flags_embed]
  rfl

/-- A level inside an embedded progress. -/
theorem embed_inside (level : Level) :
    site.embed (progress.inside level) = (site.embed progress).inside (level.raise site.groups) :=
  rfl

end Site

/-! ## Rooted progress -/

namespace Progress

/-- The outermost level. -/
def base (progress : Progress) : Level :=
  progress.outer.getLastD progress.level

/-- The flags of the whole expression are in force outside of parentheses, groups are counted for a
look behind only while the outermost one is open, and sets have the case rule of the flags that are
in force where they stand. -/
structure IsRooted (flags : Flags) (progress : Progress) : Prop where
  whole : progress.flags = flags
  base_opener : progress.base.opener = .whole
  base_flags : progress.base.flags = flags
  behind : progress.behindFrom.isSome = true →
    ∃ level ∈ progress.level :: progress.outer, ∃ negated, level.opener = .lookBehind negated true
  uniform : ∀ level ∈ progress.level :: progress.outer, level.IsUniform
  nested : (progress.level :: progress.outer).IsChain Level.IsWithin

/-- What is rooted is so afterwards as well. -/
def StaysRooted (progress next : Progress) : Prop :=
  ∀ ⦃flags⦄, progress.IsRooted flags → next.IsRooted flags

variable {progress next : Progress} {flags : Flags}

theorem StaysRooted.trans {last : Progress} (first : progress.StaysRooted next)
    (second : next.StaysRooted last) : progress.StaysRooted last :=
  fun _ rooted => second (first rooted)

theorem isRooted_initial (flags : Flags) : (initial flags).IsRooted flags :=
  ⟨rfl, rfl, rfl, nofun, List.forall_mem_singleton.2 nofun, .singleton _⟩

/-- Where nothing is open any more, nothing is left of a look behind. -/
theorem IsRooted.behindFrom_eq_none (rooted : progress.IsRooted flags)
    (closed : progress.outer = []) : progress.behindFrom = none := by
  cases known : progress.behindFrom with
  | none => rfl
  | some first =>
      obtain ⟨level, member, negated, opened⟩ := rooted.behind (by rw [known]; rfl)
      have whole := rooted.base_opener
      rw [base, closed] at whole
      rw [closed] at member
      cases List.mem_singleton.1 member
      exact nomatch opened.symm.trans whole

theorem IsRooted.level_eq (rooted : progress.IsRooted flags) (closed : progress.outer = []) :
    progress.level.opener = .whole ∧ progress.level.flags = flags := by
  have opener := rooted.base_opener
  have inside := rooted.base_flags
  rw [base, closed] at opener inside
  exact ⟨opener, inside⟩

/-- Nothing but the open parentheses, the flags and the look behinds counts here. -/
theorem staysRooted_of_eq (level : next.level = progress.level)
    (outer : next.outer = progress.outer) (behind : next.behindFrom = progress.behindFrom)
    (whole : next.flags = progress.flags) : progress.StaysRooted next := by
  intro flags rooted
  have same : next.base = progress.base := by rw [base, level, outer, base]
  refine ⟨whole.trans rooted.whole, same ▸ rooted.base_opener, same ▸ rooted.base_flags, ?_, ?_, ?_⟩
  · rw [behind, level, outer]
    exact rooted.behind
  · rw [level, outer]
    exact rooted.uniform
  · rw [level, outer]
    exact rooted.nested

/-- What is inside the innermost parenthesis does not count here but for its case rule, nor does
what a condition is for. -/
theorem staysRooted_of_level {level : Level} (inside : level.flags = progress.level.flags)
    (opener : level.opener = progress.level.opener ∨ ∃ group set other,
      progress.level.opener = .condition group set ∧ level.opener = .condition group other)
    (uniform : progress.level.IsUniform → level.IsUniform) :
    progress.StaysRooted { progress with level := level } := by
  intro flags rooted
  obtain ⟨innermost, outer, _⟩ := progress
  obtain ⟨whole, base_opener, base_flags, behind, each, nested⟩ := rooted
  obtain ⟨own, around⟩ := List.forall_mem_cons.1 each
  have same {kind : Opener} (other : ∀ group set, kind ≠ .condition group set)
      (opened : innermost.opener = kind) : level.opener = kind := by
    rcases opener with same | ⟨group, set, _, condition, -⟩
    · exact same.trans opened
    · exact absurd (opened.symm.trans condition) (other group set)
  have grouping (only : level.opener = .plain) : innermost.opener = .plain := by
    rcases opener with same | ⟨group, _, other, -, condition⟩
    · exact same.symm.trans only
    · exact nomatch only.symm.trans condition
  refine ⟨whole, ?_, ?_, fun known => ?_, List.forall_mem_cons.2 ⟨uniform own, around⟩, ?_⟩
  · cases outer with
    | nil => exact same nofun base_opener
    | cons below outer => exact base_opener
  · cases outer with
    | nil => exact inside.trans base_flags
    | cons below outer => exact base_flags
  · obtain ⟨found, member, negated, opened⟩ := behind known
    rcases List.mem_cons.1 member with rfl | member
    · exact ⟨level, List.mem_cons_self, negated, same nofun opened⟩
    · exact ⟨found, List.mem_cons_of_mem _ member, negated, opened⟩
  · cases outer with
    | nil => exact .singleton _
    | cons below outer =>
        obtain ⟨within, further⟩ := List.isChain_cons_cons.1 nested
        exact .cons_cons (fun only => inside.trans (within (grouping only))) further

theorem staysRooted_add {item : Pattern} (ruled : item.HasRule progress.level.flags.caseRule) :
    progress.StaysRooted (progress.add item) := by
  refine staysRooted_of_level rfl (.inl rfl) fun uniform => ?_
  obtain ⟨alternatives, items⟩ := List.forall_mem_append.1 uniform
  exact List.forall_mem_append.2 ⟨alternatives, List.forall_mem_cons.2 ⟨ruled, items⟩⟩

/-- The innermost level is closed and becomes an item of the one around it. -/
theorem staysRooted_close {level : Level} {item : Pattern} (whole : next.flags = progress.flags)
    (outer : next.outer = progress.outer) (around : next.level = (progress.add item).level)
    (behind : next.behindFrom = none ∨ next.behindFrom = progress.behindFrom ∧
      ∀ negated, level.opener ≠ .lookBehind negated true)
    (ruled : level.IsUniform → level.IsWithin progress.level →
      item.HasRule progress.level.flags.caseRule) :
    (progress.inside level).StaysRooted next := by
  intro flags rooted
  have kept : (progress.inside level).base = progress.base := List.getLastD_cons
  obtain ⟨own, others⟩ := List.forall_mem_cons.1 rooted.uniform
  obtain ⟨within, nested⟩ := List.isChain_cons_cons.1 rooted.nested
  have remains : { progress with behindFrom := next.behindFrom }.IsRooted flags := by
    refine ⟨rooted.whole, kept ▸ rooted.base_opener, kept ▸ rooted.base_flags, fun known => ?_,
      others, nested⟩
    rcases behind with none | ⟨same, other⟩
    · exact nomatch none ▸ known
    · obtain ⟨found, member, negated, opened⟩ := rooted.behind (same ▸ known)
      rcases List.mem_cons.1 member with rfl | member
      · exact absurd opened (other negated)
      · exact ⟨found, member, negated, opened⟩
  have added := @staysRooted_add { progress with behindFrom := next.behindFrom } item
    (ruled own within) flags remains
  have same : ({ progress with behindFrom := next.behindFrom }.add item).StaysRooted next :=
    staysRooted_of_eq around outer rfl whole
  exact same added

theorem staysRooted_push {opener : Opener} {flags : Flags}
    (grouping : opener = .plain → flags = progress.level.flags) :
    progress.StaysRooted (progress.push opener flags) := by
  intro whole rooted
  have base : (progress.push opener flags).base = progress.base :=
    List.getLastD_cons
  refine ⟨rooted.whole, base ▸ rooted.base_opener, base ▸ rooted.base_flags, fun known => ?_,
    List.forall_mem_cons.2 ⟨nofun, rooted.uniform⟩, .cons_cons grouping rooted.nested⟩
  obtain ⟨found, member, opened⟩ := rooted.behind known
  exact ⟨found, List.mem_cons_of_mem _ member, opened⟩

end Progress

end VirtualShell.Regex
