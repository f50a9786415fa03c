import VirtualShell.Proofs.Statement.Grammar

/-!
Contract: nested statements in which loops over words are written without a separator in
front of their `do`.

Owns:
- how a block is written then as a text (`renderWith`), what a clause and what follows it are
  with such texts (`bodyWith`, `tailWith`), and that `Omission.none` leaves nothing out;
- `isSteady`, that no loop without its separator has a body that starts with another loop.

Does not own: the marks of such a block (`VirtualShell.Proofs.Statement.Grammar`) and what a
search for a keyword makes of them (`VirtualShell.Proofs.Statement.Balanced`).
-/

namespace VirtualShell.Grammar

theorem Omission.inside_none (part : Nat) : none.inside part = none :=
  rfl

/-! ## As marks -/

mutual

theorem Block.marksWith_none : ∀ block : Block, block.marksWith .none = block.marks
  | .last phrase => phrase.marksWith_none
  | .joined phrase joint rest => by
      simp only [Block.marksWith, Block.marks, Omission.inside_none, phrase.marksWith_none,
        rest.marksWith_none]

theorem Phrase.marksWith_none : ∀ phrase : Phrase, phrase.marksWith .none = phrase.marks
  | .command _ _ _ => rfl
  | .clause clause => clause.marksWith_none

theorem Clause.marksWith_none : ∀ clause : Clause, clause.marksWith .none = clause.marks
  | .conditional branches => by
      simp only [Clause.marksWith, Clause.marks, branches.marksWith_none]
  | .forEach name list body => by
      have separated : upToDo list false = upTo (listMarks list) (keyword "do") := rfl
      simp only [Clause.marksWith, Clause.marks, Omission.inside_none, body.marksWith_none,
        Omission.none, separated]
  | .loop kind condition body => by
      simp only [Clause.marksWith, Clause.marks, Omission.inside_none, condition.marksWith_none,
        body.marksWith_none]
  | .function name body => by
      simp only [Clause.marksWith, Clause.marks, body.marksWith_none]

theorem Branches.marksWith_none : ∀ branches : Branches,
    branches.marksWith .none = branches.marks
  | .last condition body => by
      simp only [Branches.marksWith, Branches.marks, Omission.inside_none,
        condition.marksWith_none, body.marksWith_none]
  | .otherwise condition body alternative => by
      simp only [Branches.marksWith, Branches.marks, Omission.inside_none,
        condition.marksWith_none, body.marksWith_none, alternative.marksWith_none]
  | .elseIf condition body rest => by
      simp only [Branches.marksWith, Branches.marks, Omission.inside_none,
        condition.marksWith_none, body.marksWith_none, rest.marksWith_none]

end

theorem continuationMarksWith_none (continuation : Option (Joint × Block)) :
    continuationMarksWith .none continuation = continuationMarks continuation := by
  cases continuation with
  | none => rfl
  | some following =>
      rw [continuationMarksWith, continuationMarks, following.2.marksWith_none]

/-! ## As texts -/

def Block.renderWith (omits : Omission) (block : Block) : String :=
  String.ofList (spell (block.marksWith omits))

def Clause.renderWith (omits : Omission) (clause : Clause) : String :=
  String.ofList (spell (clause.marksWith omits))

/-- How what follows a statement is written. -/
def renderContinuationWith (omits : Omission) : Option (Joint × Block) → String
  | none => ""
  | some (joint, rest) => renderJoint joint ++ rest.renderWith omits

theorem Clause.toList_renderWith (omits : Omission) (clause : Clause) :
    (clause.renderWith omits).toList = spell (clause.marksWith omits) :=
  String.toList_ofList

theorem toList_renderContinuationWith (omits : Omission)
    (continuation : Option (Joint × Block)) :
    (renderContinuationWith omits continuation).toList =
      spell (continuationMarksWith omits continuation) := by
  cases continuation with
  | none => rfl
  | some following =>
      rw [renderContinuationWith, String.toList_append, toList_renderJoint, Block.renderWith,
        String.toList_ofList, continuationMarksWith, spell_append]

theorem Block.renderWith_none (block : Block) : block.renderWith .none = block.render := by
  rw [renderWith, block.marksWith_none, ← block.toList_render, String.ofList_toList]

theorem Clause.renderWith_none (clause : Clause) : clause.renderWith .none = clause.render := by
  rw [renderWith, clause.marksWith_none, ← clause.toList_render, String.ofList_toList]

theorem renderContinuationWith_none (continuation : Option (Joint × Block)) :
    renderContinuationWith .none continuation = renderContinuation continuation := by
  cases continuation with
  | none => rfl
  | some following =>
      rw [renderContinuationWith, renderContinuation, following.2.renderWith_none]

/-! ## As statements -/

/-- The branches of a conditional, with the texts of their parts. -/
def Branches.storedWith (omits : Omission) : Branches → List Branch
  | .last condition body =>
      [⟨some (condition.renderWith (omits.inside 0)), body.renderWith (omits.inside 1)⟩]
  | .otherwise condition body alternative =>
      [⟨some (condition.renderWith (omits.inside 0)), body.renderWith (omits.inside 1)⟩,
        ⟨none, alternative.renderWith (omits.inside 2)⟩]
  | .elseIf condition body rest =>
      ⟨some (condition.renderWith (omits.inside 0)), body.renderWith (omits.inside 1)⟩ ::
        rest.storedWith (omits.inside 2)

/-- The statement that a clause is, with the texts of its parts. -/
def Clause.bodyWith (omits : Omission) : Clause → StatementBody
  | .conditional branches => .compound (.conditional (branches.storedWith omits)) []
  | .forEach name list body =>
      .compound (.forEach name.text (renderList list) (body.renderWith (omits.inside 0))) []
  | .loop kind condition body =>
      .compound (.loop kind (condition.renderWith (omits.inside 0))
        (body.renderWith (omits.inside 1))) []
  | .function name body => .function name.text (body.renderWith omits)

/-- What follows a statement, with its text. -/
def tailWith (omits : Omission) : Option (Joint × Block) → Option Tail :=
  Option.map fun (joint, rest) => ⟨joint, rest.renderWith omits⟩

theorem Branches.storedWith_none : ∀ branches : Branches,
    branches.storedWith .none = branches.stored
  | .last condition body => by
      simp only [storedWith, stored, Omission.inside_none, Block.renderWith_none]
  | .otherwise condition body alternative => by
      simp only [storedWith, stored, Omission.inside_none, Block.renderWith_none]
  | .elseIf condition body rest => by
      simp only [storedWith, stored, Omission.inside_none, Block.renderWith_none,
        rest.storedWith_none]

theorem Clause.bodyWith_none (clause : Clause) : clause.bodyWith .none = clause.body := by
  cases clause <;>
    simp only [bodyWith, body, Omission.inside_none, Block.renderWith_none,
      Branches.storedWith_none]

theorem tailWith_none (continuation : Option (Joint × Block)) :
    tailWith .none continuation =
      continuation.map fun (joint, rest) => ⟨joint, rest.render⟩ := by
  cases continuation with
  | none => rfl
  | some following => simp only [tailWith, Option.map_some, Block.renderWith_none]

/-! ## Bodies that start with a loop -/

mutual

/-- Whether the first word of a loop stands in front of any operator. -/
def Block.startsWithLoop : Block → Bool
  | .last phrase => phrase.startsWithLoop
  | .joined phrase _ _ => phrase.startsWithLoop

def Phrase.startsWithLoop : Phrase → Bool
  | .command _ _ _ => false
  | .clause clause => clause.startsWithLoop

/-- A conditional starts with what its first condition starts with; the parentheses of a
function are operators. -/
def Clause.startsWithLoop : Clause → Bool
  | .conditional branches => branches.startsWithLoop
  | .forEach _ _ _ | .loop _ _ _ => true
  | .function _ _ => false

def Branches.startsWithLoop : Branches → Bool
  | .last condition _ | .otherwise condition _ _ | .elseIf condition _ _ =>
      condition.startsWithLoop

end

mutual

/-- No loop over words that is written without its separator has a body that starts with a
loop. -/
def Block.isSteady (omits : Omission) : Block → Bool
  | .last phrase => phrase.isSteady omits
  | .joined phrase _ rest => phrase.isSteady (omits.inside 0) && rest.isSteady (omits.inside 1)

def Phrase.isSteady (omits : Omission) : Phrase → Bool
  | .command _ _ _ => true
  | .clause clause => clause.isSteady omits

def Clause.isSteady (omits : Omission) : Clause → Bool
  | .conditional branches => branches.isSteady omits
  | .forEach _ _ body =>
      !(omits [] && body.startsWithLoop) && body.isSteady (omits.inside 0)
  | .loop _ condition body =>
      condition.isSteady (omits.inside 0) && body.isSteady (omits.inside 1)
  | .function _ body => body.isSteady omits

def Branches.isSteady (omits : Omission) : Branches → Bool
  | .last condition body =>
      condition.isSteady (omits.inside 0) && body.isSteady (omits.inside 1)
  | .otherwise condition body alternative =>
      condition.isSteady (omits.inside 0) && (body.isSteady (omits.inside 1) &&
        alternative.isSteady (omits.inside 2))
  | .elseIf condition body rest =>
      condition.isSteady (omits.inside 0) && (body.isSteady (omits.inside 1) &&
        rest.isSteady (omits.inside 2))

end

/-- The same for what is inside of a clause, whether or not the clause has its own separator. -/
def Clause.isSteadyInside (omits : Omission) : Clause → Bool
  | .forEach _ _ body => body.isSteady (omits.inside 0)
  | clause => clause.isSteady omits

mutual

theorem Block.isSteady_none : ∀ block : Block, block.isSteady .none = true
  | .last phrase => phrase.isSteady_none
  | .joined phrase joint rest => by
      simp only [Block.isSteady, Omission.inside_none, phrase.isSteady_none, rest.isSteady_none,
        Bool.and_self]

theorem Phrase.isSteady_none : ∀ phrase : Phrase, phrase.isSteady .none = true
  | .command _ _ _ => rfl
  | .clause clause => clause.isSteady_none

theorem Clause.isSteady_none : ∀ clause : Clause, clause.isSteady .none = true
  | .conditional branches => branches.isSteady_none
  | .forEach name list body => by
      simp [Clause.isSteady, Omission.inside_none, body.isSteady_none, Omission.none]
  | .loop kind condition body => by
      simp only [Clause.isSteady, Omission.inside_none, condition.isSteady_none,
        body.isSteady_none, Bool.and_self]
  | .function name body => body.isSteady_none

theorem Branches.isSteady_none : ∀ branches : Branches, branches.isSteady .none = true
  | .last condition body => by
      simp only [Branches.isSteady, Omission.inside_none, condition.isSteady_none,
        body.isSteady_none, Bool.and_self]
  | .otherwise condition body alternative => by
      simp only [Branches.isSteady, Omission.inside_none, condition.isSteady_none,
        body.isSteady_none, alternative.isSteady_none, Bool.and_self]
  | .elseIf condition body rest => by
      simp only [Branches.isSteady, Omission.inside_none, condition.isSteady_none,
        body.isSteady_none, rest.isSteady_none, Bool.and_self]

end

theorem Clause.isSteadyInside_none (clause : Clause) : clause.isSteadyInside .none = true := by
  cases clause with
  | forEach name list body => exact body.isSteady_none
  | conditional _ | loop _ _ _ | function _ _ => exact Clause.isSteady_none _

end VirtualShell.Grammar
