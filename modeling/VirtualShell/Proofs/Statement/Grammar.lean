import VirtualShell.Proofs.Statement.Layout
import VirtualShell.Proofs.Token.Mark

/-!
Contract: nested statements as they are written on one line.

Owns:
- the grammar: `Item`, `Block`, `Phrase`, `Clause` and `Branches`;
- how each of them is written, as a text (`render`) and mark by mark (`marks`);
- `Omission`, which loops over words are written without the separator in front of `do`, and
  the marks of a block that is written so (`marksWith`);
- `Clause.body` and `Branches.stored`, what a statement is with the texts of its parts.

Does not own: reading such a line (`VirtualShell.Proofs.Statement.Nested`).
-/

namespace VirtualShell.Grammar

open VirtualShell.Statement (loopKeyword)

/-- Whether a name opens, divides or closes a statement. -/
def isKeyword (text : String) : Bool :=
  Statement.startsCompound text || Statement.isStray text

/-- The name of a variable. -/
structure Name where
  text : String
  named : isName text = true

/-- The name of a function. -/
structure FunctionName extends Name where
  free : isKeyword text = false

/-- A part of a command: a quoted word, a redirection to a quoted name, or one stream joined
to another. -/
inductive Item where
  | word (word : Quotable)
  | redirection (kind : Operator) (redirects : kind.redirectionTo?.isSome = true)
      (target : Quotable)
  | duplication (kind : Operator) (duplicates : kind.duplication?.isSome = true)

mutual

/-- Statements behind each other. -/
inductive Block where
  | last (phrase : Phrase)
  | joined (phrase : Phrase) (joint : Joint) (rest : Block)

/-- A command behind some exclamation marks, or a statement that holds others. -/
inductive Phrase where
  | command (negations : Nat) (first : Item) (others : List Item)
  | clause (clause : Clause)

/-- A statement that holds others. -/
inductive Clause where
  | conditional (branches : Branches)
  | forEach (name : Name) (list : List Quotable) (body : Block)
  | loop (kind : LoopKind) (condition body : Block)
  | function (name : FunctionName) (body : Block)

/-- The part of a conditional behind `if` or `elif`. -/
inductive Branches where
  | last (condition body : Block)
  | otherwise (condition body alternative : Block)
  | elseIf (condition body : Block) (rest : Branches)

end

/-! ## As texts -/

/-- How a quoted word is written. -/
def renderQuoted (word : Quotable) : String := "'" ++ word.text ++ "'"

/-- How the words of a loop are written. -/
def renderList (words : List Quotable) : String :=
  Text.joinWith " " (words.map renderQuoted)

def Item.render : Item → String
  | .word quoted => renderQuoted quoted
  | .redirection kind _ target => kind.text ++ " " ++ renderQuoted target
  | .duplication kind _ => kind.text

/-- How a statement is joined to the next one. -/
def renderJoint : Joint → String
  | .pipe => " | "
  | .newline => "\n"
  | .gate .always => "; "
  | .gate .onSuccess => " && "
  | .gate .onFailure => " || "

mutual

def Block.render : Block → String
  | .last phrase => phrase.render
  | .joined phrase joint rest => phrase.render ++ renderJoint joint ++ rest.render

def Phrase.render : Phrase → String
  | .command negations first others =>
      String.join (List.replicate negations "! ") ++ first.render ++
        String.join (others.map fun item => " " ++ item.render)
  | .clause clause => clause.render

def Clause.render : Clause → String
  | .conditional branches => "if " ++ branches.render
  | .forEach name list body =>
      "for " ++ name.text ++ " in " ++ renderList list ++ "; do " ++ body.render ++ "; done"
  | .loop kind condition body =>
      loopKeyword kind ++ " " ++ condition.render ++ "; do " ++ body.render ++ "; done"
  | .function name body => name.text ++ "() \x7b " ++ body.render ++ "; \x7d"

def Branches.render : Branches → String
  | .last condition body => condition.render ++ "; then " ++ body.render ++ "; fi"
  | .otherwise condition body alternative =>
      condition.render ++ "; then " ++ body.render ++ "; else " ++ alternative.render ++ "; fi"
  | .elseIf condition body rest =>
      condition.render ++ "; then " ++ body.render ++ "; elif " ++ rest.render

end

/-- How what follows a statement is written. -/
def renderContinuation : Option (Joint × Block) → String
  | none => ""
  | some (joint, rest) => renderJoint joint ++ rest.render

/-! ## As statements -/

/-- The branches of a conditional, with the texts of their parts. -/
def Branches.stored : Branches → List Branch
  | .last condition body => [⟨some condition.render, body.render⟩]
  | .otherwise condition body alternative =>
      [⟨some condition.render, body.render⟩, ⟨none, alternative.render⟩]
  | .elseIf condition body rest => ⟨some condition.render, body.render⟩ :: rest.stored

/-- The statement that a clause is, with the texts of its parts. -/
def Clause.body : Clause → StatementBody
  | .conditional branches => .compound (.conditional branches.stored) []
  | .forEach name list body => .compound (.forEach name.text (renderList list) body.render) []
  | .loop kind condition body => .compound (.loop kind condition.render body.render) []
  | .function name body => .function name.text body.render

/-! ## As marks -/

/-- A keyword as a word. -/
def keyword (text : String)
    (starts : text.toList.head?.any (fun c => isPlainChar c && !c.isDigit) = true := by decide)
    (plain : text.toList.all isPlainChar = true := by decide) : BareWord :=
  ⟨text, starts, plain⟩

theorem text_keyword (text : String)
    (starts : text.toList.head?.any (fun c => isPlainChar c && !c.isDigit) = true)
    (plain : text.toList.all isPlainChar = true) : (keyword text starts plain).text = text :=
  rfl

/-- What stands in front of a keyword, and the keyword. -/
def upTo (marks : List Mark) (word : BareWord) : List Mark :=
  marks ++ [.operator .semicolon, .blank, .bare word]

def Item.marks : Item → List Mark
  | .word quoted => [.quoted quoted]
  | .redirection kind _ target => [.operator kind, .blank, .quoted target]
  | .duplication kind _ => [.operator kind]

def listMarks : List Quotable → List Mark
  | [] => []
  | [word] => [.quoted word]
  | word :: others => .quoted word :: .blank :: listMarks others

def jointMarks : Joint → List Mark
  | .pipe => [.blank, .operator .pipe, .blank]
  | .newline => [.operator .newline]
  | .gate .always => [.operator .semicolon, .blank]
  | .gate .onSuccess => [.blank, .operator .andThen, .blank]
  | .gate .onFailure => [.blank, .operator .orElse, .blank]

def loopWord : LoopKind → BareWord
  | .whileTrue => keyword "while"
  | .untilTrue => keyword "until"

def bangs : Nat → List Mark
  | 0 => []
  | count + 1 => .bare (keyword "!") :: .blank :: bangs count

mutual

def Block.marks : Block → List Mark
  | .last phrase => phrase.marks
  | .joined phrase joint rest => phrase.marks ++ (jointMarks joint ++ rest.marks)

def Phrase.marks : Phrase → List Mark
  | .command negations first others =>
      bangs negations ++ (first.marks ++ others.flatMap fun item => .blank :: item.marks)
  | .clause clause => clause.marks

def Clause.marks : Clause → List Mark
  | .conditional branches => .bare (keyword "if") :: .blank :: branches.marks
  | .forEach name list body =>
      .bare (keyword "for") :: .blank :: .bare (.ofName name.text name.named) :: .blank ::
        .bare (keyword "in") :: .blank ::
          (upTo (listMarks list) (keyword "do") ++ .blank :: upTo body.marks (keyword "done"))
  | .loop kind condition body =>
      .bare (loopWord kind) :: .blank ::
        (upTo condition.marks (keyword "do") ++ .blank :: upTo body.marks (keyword "done"))
  | .function name body =>
      .bare (.ofName name.text name.named) :: .operator .openParen :: .operator .closeParen ::
        .blank :: .bare (keyword "\x7b") :: .blank :: upTo body.marks (keyword "\x7d")

def Branches.marks : Branches → List Mark
  | .last condition body =>
      upTo condition.marks (keyword "then") ++ .blank :: upTo body.marks (keyword "fi")
  | .otherwise condition body alternative =>
      upTo condition.marks (keyword "then") ++ .blank :: (upTo body.marks (keyword "else") ++
        .blank :: upTo alternative.marks (keyword "fi"))
  | .elseIf condition body rest =>
      upTo condition.marks (keyword "then") ++ .blank :: (upTo body.marks (keyword "elif") ++
        .blank :: rest.marks)

end

/-- What follows a statement, as marks. -/
def continuationMarks : Option (Joint × Block) → List Mark
  | none => []
  | some (joint, rest) => jointMarks joint ++ rest.marks

/-! ## As marks, some separators left out -/

/-- The loops over words that are written without the separator in front of `do`. A loop is
told by its place: from the outside inwards, the numbers of the parts that it is in. -/
abbrev Omission := List Nat → Bool

namespace Omission

/-- No separator is left out. -/
def none : Omission := fun _ => false

/-- What is left out inside of a part. -/
def inside (omits : Omission) (part : Nat) : Omission := fun place => omits (part :: place)

end Omission

/-- What stands between the words of a loop and `do`. -/
def pause (omitted : Bool) : List Mark :=
  if omitted then [.blank] else [.operator .semicolon, .blank]

/-- The words of a loop, and `do`. -/
def upToDo (words : List Quotable) (omitted : Bool) : List Mark :=
  listMarks words ++ (pause omitted ++ [.bare (keyword "do")])

mutual

def Block.marksWith (omits : Omission) : Block → List Mark
  | .last phrase => phrase.marksWith omits
  | .joined phrase joint rest =>
      phrase.marksWith (omits.inside 0) ++ (jointMarks joint ++ rest.marksWith (omits.inside 1))

def Phrase.marksWith (omits : Omission) : Phrase → List Mark
  | .command negations first others => (Phrase.command negations first others).marks
  | .clause clause => clause.marksWith omits

def Clause.marksWith (omits : Omission) : Clause → List Mark
  | .conditional branches => .bare (keyword "if") :: .blank :: branches.marksWith omits
  | .forEach name list body =>
      .bare (keyword "for") :: .blank :: .bare (.ofName name.text name.named) :: .blank ::
        .bare (keyword "in") :: .blank ::
          (upToDo list (omits []) ++
            .blank :: upTo (body.marksWith (omits.inside 0)) (keyword "done"))
  | .loop kind condition body =>
      .bare (loopWord kind) :: .blank ::
        (upTo (condition.marksWith (omits.inside 0)) (keyword "do") ++
          .blank :: upTo (body.marksWith (omits.inside 1)) (keyword "done"))
  | .function name body =>
      .bare (.ofName name.text name.named) :: .operator .openParen :: .operator .closeParen ::
        .blank :: .bare (keyword "\x7b") :: .blank ::
          upTo (body.marksWith omits) (keyword "\x7d")

def Branches.marksWith (omits : Omission) : Branches → List Mark
  | .last condition body =>
      upTo (condition.marksWith (omits.inside 0)) (keyword "then") ++
        .blank :: upTo (body.marksWith (omits.inside 1)) (keyword "fi")
  | .otherwise condition body alternative =>
      upTo (condition.marksWith (omits.inside 0)) (keyword "then") ++
        .blank :: (upTo (body.marksWith (omits.inside 1)) (keyword "else") ++
          .blank :: upTo (alternative.marksWith (omits.inside 2)) (keyword "fi"))
  | .elseIf condition body rest =>
      upTo (condition.marksWith (omits.inside 0)) (keyword "then") ++
        .blank :: (upTo (body.marksWith (omits.inside 1)) (keyword "elif") ++
          .blank :: rest.marksWith (omits.inside 2))

end

/-- What follows a statement, as marks. -/
def continuationMarksWith (omits : Omission) : Option (Joint × Block) → List Mark
  | none => []
  | some (joint, rest) => jointMarks joint ++ rest.marksWith omits

/-! ## Texts and marks agree -/

theorem toList_renderQuoted (word : Quotable) :
    (renderQuoted word).toList = Mark.spelling (.quoted word) := by
  simp [renderQuoted, Mark.spelling]

theorem toList_renderList (words : List Quotable) :
    (renderList words).toList = spell (listMarks words) := by
  induction words with
  | nil => rfl
  | cons word others inductionHypothesis =>
      cases others with
      | nil => simp [renderList, Text.joinWith, listMarks, spell, toList_renderQuoted]
      | cons next others =>
          simp only [renderList, Text.joinWith] at inductionHypothesis
          simp only [renderList, Text.joinWith, List.map_cons] at inductionHypothesis ⊢
          simp [String.intercalate_cons_cons, listMarks, spell_cons, ← inductionHypothesis,
            toList_renderQuoted, Mark.spelling]

theorem Item.toList_render (item : Item) : item.render.toList = spell item.marks := by
  cases item with
  | word quoted => simp [render, marks, spell, toList_renderQuoted]
  | redirection kind redirects target =>
      simp [render, marks, spell, toList_renderQuoted, Mark.spelling]
  | duplication kind duplicates => simp [render, marks, spell, Mark.spelling]

theorem toList_renderItems (items : List Item) :
    (String.join (items.map fun item => " " ++ item.render)).toList =
      spell (items.flatMap fun item => .blank :: item.marks) := by
  induction items with
  | nil => rfl
  | cons item items inductionHypothesis =>
      rw [List.map_cons, String.join_cons, String.toList_append, inductionHypothesis,
        String.toList_append, item.toList_render, List.flatMap_cons, spell_append, spell_cons]
      rfl

theorem toList_renderJoint (joint : Joint) :
    (renderJoint joint).toList = spell (jointMarks joint) := by
  rcases joint with _ | _ | _ | _ | _ <;> rfl

theorem toList_bangs (count : Nat) :
    (String.join (List.replicate count "! ")).toList = spell (bangs count) := by
  induction count with
  | zero => rfl
  | succ count inductionHypothesis =>
      rw [List.replicate_succ, String.join_cons, String.toList_append, inductionHypothesis, bangs,
        spell_cons, spell_cons]
      rfl

theorem spell_upTo (marks : List Mark) (word : BareWord) :
    spell (upTo marks word) = spell marks ++ ([';', ' '] ++ word.text.toList) := by
  rw [upTo, spell_append]
  simp [spell, Mark.spelling, Operator.text]

mutual

theorem Block.toList_render : ∀ block : Block, block.render.toList = spell block.marks
  | .last phrase => phrase.toList_render
  | .joined phrase joint rest => by
      simp only [Block.render, Block.marks, String.toList_append, spell_append,
        phrase.toList_render, rest.toList_render, toList_renderJoint, List.append_assoc]

theorem Phrase.toList_render : ∀ phrase : Phrase, phrase.render.toList = spell phrase.marks
  | .command negations first others => by
      simp only [Phrase.render, Phrase.marks, String.toList_append, spell_append, toList_bangs,
        first.toList_render, toList_renderItems, List.append_assoc]
  | .clause clause => clause.toList_render

theorem Clause.toList_render : ∀ clause : Clause, clause.render.toList = spell clause.marks
  | .conditional branches => by
      simp only [Clause.render, Clause.marks, String.toList_append, spell_cons,
        branches.toList_render]
      rfl
  | .forEach name list body => by
      simp only [Clause.render, Clause.marks, String.toList_append, spell_cons, spell_append,
        spell_upTo, body.toList_render, toList_renderList, List.append_assoc]
      rfl
  | .loop kind condition body => by
      have opening : (loopKeyword kind).toList = Mark.spelling (.bare (loopWord kind)) := by
        cases kind <;> rfl
      simp only [Clause.render, Clause.marks, String.toList_append, spell_cons, spell_append,
        spell_upTo, condition.toList_render, body.toList_render, opening, List.append_assoc]
      rfl
  | .function name body => by
      simp only [Clause.render, Clause.marks, String.toList_append, spell_cons, spell_upTo,
        body.toList_render, List.append_assoc]
      rfl

theorem Branches.toList_render :
    ∀ branches : Branches, branches.render.toList = spell branches.marks
  | .last condition body => by
      simp only [Branches.render, Branches.marks, String.toList_append, spell_cons, spell_append,
        spell_upTo, condition.toList_render, body.toList_render, List.append_assoc]
      rfl
  | .otherwise condition body alternative => by
      simp only [Branches.render, Branches.marks, String.toList_append, spell_cons, spell_append,
        spell_upTo, condition.toList_render, body.toList_render, alternative.toList_render,
        List.append_assoc]
      rfl
  | .elseIf condition body rest => by
      simp only [Branches.render, Branches.marks, String.toList_append, spell_cons, spell_append,
        spell_upTo, condition.toList_render, body.toList_render, rest.toList_render,
        List.append_assoc]
      rfl

end

theorem toList_renderContinuation (continuation : Option (Joint × Block)) :
    (renderContinuation continuation).toList = spell (continuationMarks continuation) := by
  cases continuation with
  | none => rfl
  | some following =>
      rw [renderContinuation, String.toList_append, toList_renderJoint, following.2.toList_render,
        continuationMarks, spell_append]

end VirtualShell.Grammar
