import VirtualShell.Proofs.Fallible
import VirtualShell.Proofs.Statement.Nested

/-!
Contract: the separator in front of the `do` of a loop over words may be left out.

Owns:
- `read_renderWith`: a steady statement is read with the texts of its parts, whichever
  separators are left out inside of it;
- that leaving them out changes nothing else of what is read;
- a statement that is not steady, in which the `done` of a loop closes the loop around it.
-/

namespace VirtualShell.Grammar

open VirtualShell.Statement
open VirtualShell.Fallible (eq_ok_of_toOption)

theorem isChain_marksWith (omits behind : Omission) (clause : Clause)
    (continuation : Option (Joint × Block)) :
    (clause.marksWith omits ++ continuationMarksWith behind continuation).IsChain
      fun mark next => mark.admits next := by
  have phrase := clause.isPhraseWith omits
  cases continuation with
  | none => simpa [continuationMarksWith] using phrase.chained
  | some following =>
      exact (phrase.join (isGap_joint following.1) (following.2.isPhraseWith behind)).chained

/-- A statement is read with the texts of its parts as they are written, and with the text that
follows it. What is left out behind a statement does not matter, as nothing is searched for
there. -/
theorem read_renderWith {omits : Omission} (behind : Omission) (clause : Clause)
    (steady : clause.isSteadyInside omits = true) (continuation : Option (Joint × Block)) :
    Statement.read (clause.renderWith omits ++ renderContinuationWith behind continuation) =
      .ok (some ⟨clause.bodyWith omits, tailWith behind continuation⟩) := by
  have written : (clause.renderWith omits ++ renderContinuationWith behind continuation).toList =
      spell (clause.marksWith omits ++ continuationMarksWith behind continuation) := by
    rw [String.toList_append, clause.toList_renderWith, toList_renderContinuationWith,
      spell_append]
  have scanned := scan_spell (isChain_marksWith omits behind clause continuation)
  rw [← written, String.ofList_toList, tokensAt_append, Nat.zero_add] at scanned
  rw [Statement.read, scanned]
  refine ofTokens_marksWith clause steady ?_ (readRedirections_continuationWith behind _ _)
    (readTail_continuationWith ?_)
  · rw [Stands, written, spell_append]
    exact List.prefix_append _ _
  · rw [written, spell_append, List.drop_left]

/-- A statement without some of its separators is read as the same statement as with all of
them: its parts and what follows it are cut out at the same places, and their texts differ in
the separators only. -/
theorem read_renderWith_and_render (omits behind : Omission) (clause : Clause)
    (steady : clause.isSteadyInside omits = true) (continuation : Option (Joint × Block)) :
    Statement.read (clause.render ++ renderContinuation continuation) =
        .ok (some ⟨clause.bodyWith .none, tailWith .none continuation⟩) ∧
      Statement.read (clause.renderWith omits ++ renderContinuationWith behind continuation) =
        .ok (some ⟨clause.bodyWith omits, tailWith behind continuation⟩) := by
  have separated := read_renderWith .none clause clause.isSteadyInside_none continuation
  rw [clause.renderWith_none, renderContinuationWith_none] at separated
  exact ⟨separated, read_renderWith behind clause steady continuation⟩

/-- The loop `for i in 'a'; do for j in 'b'; do …; done; done`. -/
def loopInLoop (body : Block) : Clause :=
  .forEach ⟨"i", by decide⟩ [⟨"a", by decide⟩]
    (.last (.clause (.forEach ⟨"j", by decide⟩ [⟨"b", by decide⟩] body)))

/-- The loop `for k in 'c'; do 'x'; done`. -/
def innermostLoop : Block :=
  .last (.clause (.forEach ⟨"k", by decide⟩ [⟨"c", by decide⟩]
    (.last (.command 0 (.word ⟨"x", by decide⟩) []))))

/-- The conditional `if 'x'; then …; fi`. -/
def behindCondition (body : Block) : Block :=
  .last (.clause (.conditional (.last (.last (.command 0 (.word ⟨"x", by decide⟩) [])) body)))

/-- All three loops may go without their separators where the innermost one stands behind a
condition. -/
theorem read_renderWith_and_render_nested :
    (loopInLoop (behindCondition innermostLoop)).isSteadyInside (fun _ => true) = true ∧
      Statement.read ((loopInLoop (behindCondition innermostLoop)).render ++
          renderContinuation (some (.pipe, innermostLoop))) =
        .ok (some ⟨(loopInLoop (behindCondition innermostLoop)).bodyWith .none,
          tailWith .none (some (.pipe, innermostLoop))⟩) ∧
      Statement.read ((loopInLoop (behindCondition innermostLoop)).renderWith (fun _ => true) ++
          renderContinuationWith (fun _ => true) (some (.pipe, innermostLoop))) =
        .ok (some ⟨(loopInLoop (behindCondition innermostLoop)).bodyWith (fun _ => true),
          tailWith (fun _ => true) (some (.pipe, innermostLoop))⟩) := by
  have steady : (loopInLoop (behindCondition innermostLoop)).isSteadyInside (fun _ => true) =
      true := by decide
  exact ⟨steady, read_renderWith_and_render _ _ _ steady _⟩

/-- The loop in the middle goes without its separator and its body starts with a loop: the
`done` of the innermost loop closes that in the middle, and the `done` of that the outer one. -/
theorem exists_misread_without_separator :
    ∃ omits : Omission,
      (loopInLoop innermostLoop).renderWith omits =
          "for i in 'a'; do for j in 'b' do for k in 'c'; do 'x'; done; done; done" ∧
        Statement.read ((loopInLoop innermostLoop).renderWith omits) =
          .ok (some ⟨.compound (.forEach "i" "'a'" "for j in 'b' do for k in 'c'; do 'x'; done")
            [], some ⟨.gate .always, "done"⟩⟩) ∧
        Statement.read ((loopInLoop innermostLoop).renderWith omits) ≠
          .ok (some ⟨(loopInLoop innermostLoop).bodyWith omits, tailWith omits none⟩) := by
  have written : (loopInLoop innermostLoop).renderWith (fun place => place == [0]) =
      "for i in 'a'; do for j in 'b' do for k in 'c'; do 'x'; done; done; done" := by
    decide +kernel
  have misread : Statement.read
      "for i in 'a'; do for j in 'b' do for k in 'c'; do 'x'; done; done; done" =
        .ok (some ⟨.compound (.forEach "i" "'a'" "for j in 'b' do for k in 'c'; do 'x'; done") [],
          some ⟨.gate .always, "done"⟩⟩) :=
    eq_ok_of_toOption (by decide +kernel)
  refine ⟨fun place => place == [0], written, ?_, ?_⟩
  · rw [written, misread]
  · rw [written, misread]
    simp [tailWith]

end VirtualShell.Grammar
