import VirtualShell.Proofs.Regex.Embedding

/-!
Contract: a whole expression is read as an alternative of a larger one.

Owns:
- `Progress.stages`, how far an expression has been read before each step, and what is left of it;
- `Site.Admits`, that a step depends on nothing of what has been read before the alternative;
- `exists_final`: an expression that is read alone comes to the same end wherever an alternative
  starts, if each of its steps is admitted there.
-/

namespace VirtualShell.Regex

open Progress

variable {flags : Flags} {signs tail : List Sign} {progress : Progress}

/-! ## The end of an expression -/

namespace Progress

/-- How far an expression has been read and what is left of it, before each step and at the end. -/
def stages : Nat → Progress → List Sign → List (Progress × List Sign)
  | 0, progress, signs => [(progress, signs)]
  | _ + 1, progress, [] => [(progress, [])]
  | fuel + 1, progress, sign :: rest =>
      (progress, sign :: rest) ::
        match progress.step sign rest with
        | .error _ => []
        | .ok (next, behind) => next.stages fuel behind

theorem mem_stages (fuel : Nat) (progress : Progress) (signs : List Sign) :
    (progress, signs) ∈ progress.stages fuel signs := by
  fun_cases stages fuel progress signs <;> exact List.mem_cons_self

theorem readAll_nil (fuel : Nat) (progress : Progress) :
    progress.readAll fuel [] = progress.finish true := by
  cases fuel <;> rfl

/-- What has been read to the end is a pattern just if nothing is open and nothing is faulty. -/
theorem finish_eq_ok {isComplete : Bool} {pattern : Pattern}
    (read : progress.finish isComplete = .ok pattern) :
    progress.outer = [] ∧ isComplete = true ∧ progress.isFaulty = false ∧
      progress.conditions.any (progress.groups < ·) = false ∧
      content progress.level = pattern := by
  unfold finish at read
  split at read
  · cases read
  · rename_i closed
    split at read
    · cases read
    · split at read
      · cases read
      · rename_i sound
        cases read
        simp only [Bool.or_eq_true, not_or, Bool.not_eq_true, Bool.not_eq_false'] at sound
        simp only [Bool.not_eq_true, Bool.not_eq_false', List.isEmpty_iff] at closed
        exact ⟨closed, sound.1.1, sound.1.2, sound.2, rfl⟩

/-- What is read from a sign on is read by a step and from there on. -/
theorem exists_step_of_readAll {sign : Sign} {rest : List Sign} {fuel : Nat} {pattern : Pattern}
    (read : progress.readAll (fuel + 1) (sign :: rest) = .ok pattern) :
    ∃ next behind, progress.step sign rest = .ok (next, behind) ∧
      next.readAll fuel behind = .ok pattern ∧ (sign = .plain ')' → progress.outer ≠ []) := by
  rw [readAll] at read
  split at read
  · cases (finish_eq_ok read).2.1
  · rename_i going
    cases stepped : progress.step sign rest with
    | error defect =>
        rw [stepped] at read
        cases read
    | ok result =>
        rw [stepped] at read
        exact ⟨result.1, result.2, rfl, read, fun closing ended =>
          going ⟨closing, List.isEmpty_iff.2 ended⟩⟩

end Progress

/-! ## Sites that an expression fits -/

namespace Site

/-- Where a whole expression starts. -/
def front : Site :=
  ⟨.whole, [], [], 0, [], [], [], nofun, nofun⟩

theorem isFresh_front (progress : Progress) : front.IsFresh progress :=
  fun _ _ _ member => absurd member List.not_mem_nil

/-- A step from here depends on nothing of what has been read before the alternative. -/
structure Admits (site : Site) (stage : Progress × List Sign) : Prop where
  flagless : setsFlags stage.2 = false
  numberless : site.groups = 0 ∨ refersByNumber stage.2 = false
  fresh : site.IsFresh stage.1

theorem outer_eq_nil_of_embed {site : Site} (ended : (site.embed progress).outer = []) :
    progress.outer = [] := by
  obtain ⟨level, outer, _⟩ := progress
  cases outer with
  | nil => rfl
  | cons below outer => cases ended

end Site

/-- From wherever an alternative starts that admits the stages, the signs lead from one progress to
the other. -/
def LeadsTo (fuel : Nat) (progress : Progress) (signs : List Sign) (final : Progress) : Prop :=
  ∀ ⦃site : Site⦄ ⦃tail : List Sign⦄ ⦃more : Nat⦄,
    (∀ stage ∈ progress.stages fuel signs, site.Admits stage) → IsClosed tail →
    fuel + tail.length ≤ more →
    ∃ spare, tail.length ≤ spare ∧
      (site.embed progress).readAll more (signs ++ tail) = (site.embed final).readAll spare tail

/-- Reading comes to an end that is the same wherever an alternative starts. -/
theorem exists_final (spaced : flags.verbose = false) (rooted : progress.IsRooted flags)
    {fuel : Nat} {pattern : Pattern}
    (flagless : ∀ stage ∈ progress.stages fuel signs, setsFlags stage.2 = false)
    (read : progress.readAll fuel signs = .ok pattern) :
    ∃ final, final.IsRooted flags ∧ final.finish true = .ok pattern ∧
      (final, []) ∈ progress.stages fuel signs ∧ ¬ EndsBroken signs ∧
      LeadsTo fuel progress signs final := by
  induction fuel generalizing progress signs with
  | zero =>
      cases signs with
      | nil => exact ⟨progress, rooted, read, mem_stages _ _ _, not_endsBroken_nil,
          fun _ _ _ _ _ enough => ⟨_, by omega, rfl⟩⟩
      | cons sign rest => cases read
  | succ fuel inductionHypothesis =>
      cases signs with
      | nil => exact ⟨progress, rooted, read, mem_stages _ _ _, not_endsBroken_nil,
          fun _ _ _ _ _ enough => ⟨_, by omega, rfl⟩⟩
      | cons sign rest =>
          obtain ⟨next, behind, stepped, readBehind, inside⟩ := exists_step_of_readAll read
          have stages : progress.stages (fuel + 1) (sign :: rest) =
              (progress, sign :: rest) :: next.stages fuel behind := by
            rw [Progress.stages, stepped]
          have ended : behind = [] → next.outer = [] := by
            rintro rfl
            exact (finish_eq_ok ((readAll_nil fuel next).symm.trans readBehind)).1
          have step {site : Site} {tail : List Sign} (closed : IsClosed tail) :=
            @step_embed site rest behind tail progress closed flags spaced rooted sign next
              (flagless _ (mem_stages _ _ _))
          rw [stages] at flagless ⊢
          -- A step alone is the same step in front of nothing, which makes its result rooted.
          obtain ⟨-, rootedNext, left⟩ :=
            @step Site.front [] .nil (.inl rfl) stepped (Site.isFresh_front next) ended
          obtain ⟨final, rootedFinal, finished, member, whole, leads⟩ :=
            inductionHypothesis rootedNext
              (fun stage among => flagless stage (List.mem_cons_of_mem _ among)) readBehind
          refine ⟨final, rootedFinal, finished, List.mem_cons_of_mem _ member,
            fun broken => whole (left broken), ?_⟩
          intro site tail more admits closed enough
          obtain ⟨less, rfl⟩ : ∃ less, more = less + 1 := ⟨more - 1, by omega⟩
          rw [stages] at admits
          obtain ⟨admitted, others⟩ := List.forall_mem_cons.1 admits
          obtain ⟨joint, -⟩ := step closed admitted.numberless stepped
            (others _ (mem_stages _ _ _)).fresh ended
          rw [List.cons_append, readAll_succ joint fun closing spent =>
            inside closing (Site.outer_eq_nil_of_embed spent)]
          exact leads others closed (by omega)

end VirtualShell.Regex
