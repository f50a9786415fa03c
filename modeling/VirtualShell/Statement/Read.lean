import VirtualShell.Name
import VirtualShell.Statement
import VirtualShell.Text.Blank
import VirtualShell.Token.Scan

/-!
Contract: the statement that a line is, and the first reason why it is none.

Owns:
- `splitAtKeyword`, the tokens before and after the keyword that closes a part of a
  compound statement.
- `Statement.read`, the statement of a line; `none` for a line with nothing to run.

A keyword counts only as an unquoted word in command position: at the start of the
line, behind a control operator, or behind a keyword that introduces a command. The
closers of the compound statements that are open are kept on a stack, so an inner
`fi` never closes an outer `if`. The keyword `do` of a loop counts anywhere, and a
closing brace counts anywhere as the last token of the line.
-/

namespace VirtualShell

/-- The error at a token, or at the end of the line. -/
def SyntaxError.at? : Option Token → SyntaxError
  | none | some (.operator .newline _ _) => .unexpectedToken "newline"
  | some token => .unexpectedToken token.text

namespace Statement

/-- The keyword that closes what `keyword` opens. -/
def closer? (keyword : String) : Option String :=
  if keyword = "if" then some "fi"
  else if keyword = "for" ∨ keyword = "while" ∨ keyword = "until" then some "done"
  else if keyword = "\x7b" then some "\x7d"
  else none

/-- The keywords behind which a command name stands. -/
def introducesCommand (keyword : String) : Bool :=
  ["if", "then", "elif", "else", "do", "while", "until", "\x7b", "!"].contains keyword

/-- The keywords that a statement starts with. -/
def startsCompound (keyword : String) : Bool :=
  ["if", "for", "while", "until", "function"].contains keyword

/-- The keywords that only a compound statement can hold. -/
def isStray (keyword : String) : Bool :=
  ["then", "elif", "else", "fi", "do", "done", "\x7d"].contains keyword

/-- What is known at a token about the tokens before it: the closers of what is open,
innermost first, whether a command name may stand here, and whether the word before
was `function`. -/
structure Nesting where
  closers : List String
  atCommand : Bool
  afterFunction : Bool

/-- Nothing is open, and a command name may stand here. -/
def Nesting.initial : Nesting := ⟨[], true, false⟩

/-- Whether a word may close something here. -/
def Nesting.mayClose (nesting : Nesting) (word : Option String) (isLast : Bool) : Bool :=
  nesting.atCommand || (word == some "\x7d" && isLast)

/-- What is known behind an operator. -/
def Nesting.passOperator (nesting : Nesting) (kind : Operator) : Nesting :=
  ⟨nesting.closers, !kind.isRedirection, false⟩

/-- What is known behind a word; `word` is absent if it was quoted. -/
def Nesting.passWord (nesting : Nesting) (word : Option String) (isLast : Bool) : Nesting :=
  if nesting.closers.head?.any (fun closer => word == some closer) &&
      nesting.mayClose word isLast then
    ⟨nesting.closers.tail, false, nesting.afterFunction⟩
  else
    let opened := if nesting.atCommand then word.bind closer? else none
    let closers := opened.toList ++ nesting.closers
    if nesting.afterFunction then ⟨closers, true, false⟩
    else
      ⟨closers, nesting.atCommand && word.any introducesCommand,
        nesting.atCommand && word == some "function"⟩

/-- Whether a word is one of the keywords looked for. -/
def Nesting.stopsAt
    (nesting : Nesting)
    (stops : List String)
    (anywhere : Bool)
    (word : Option String)
    (isLast : Bool) : Bool :=
  nesting.closers.isEmpty && word.any stops.contains &&
    (nesting.mayClose word isLast || anywhere)

/-- The tokens before the first keyword of `stops` that is not inside a compound
statement, the keyword, and the tokens after it. -/
def splitAtKeyword
    (stops : List String)
    (anywhere : Bool)
    (nesting : Nesting) :
    List Token → Option (List Token × String × List Token)
  | [] => none
  | .operator kind start stop :: rest =>
      (splitAtKeyword stops anywhere (nesting.passOperator kind) rest).map
        fun (before, found) => (.operator kind start stop :: before, found)
  | .word word :: rest =>
      let bare := word.bare?
      if nesting.stopsAt stops anywhere bare rest.isEmpty then some ([], word.text, rest)
      else
        (splitAtKeyword stops anywhere (nesting.passWord bare rest.isEmpty) rest).map
          fun (before, found) => (.word word :: before, found)

theorem length_of_splitAtKeyword
    {stops : List String}
    {anywhere : Bool}
    {nesting : Nesting}
    {tokens before after : List Token}
    {keyword : String}
    (found : splitAtKeyword stops anywhere nesting tokens = some (before, keyword, after)) :
    before.length + 1 + after.length = tokens.length := by
  induction tokens generalizing nesting before with
  | nil => simp [splitAtKeyword] at found
  | cons token rest inductionHypothesis =>
      cases token with
      | operator kind start stop =>
          simp only [splitAtKeyword, Option.map_eq_some_iff] at found
          obtain ⟨⟨inner, tailFound⟩, innerFound, same⟩ := found
          simp only [Prod.mk.injEq] at same
          obtain ⟨rfl, rfl⟩ := same
          have := inductionHypothesis innerFound
          simp only [List.length_cons]
          omega
      | word word =>
          simp only [splitAtKeyword] at found
          split at found
          · simp only [Option.some.injEq, Prod.mk.injEq] at found
            obtain ⟨rfl, -, rfl⟩ := found
            simp only [List.length_nil, List.length_cons]
            omega
          · simp only [Option.map_eq_some_iff] at found
            obtain ⟨⟨inner, tailFound⟩, innerFound, same⟩ := found
            simp only [Prod.mk.injEq] at same
            obtain ⟨rfl, rfl⟩ := same
            have := inductionHypothesis innerFound
            simp only [List.length_cons]
            omega

/-- Tokens without the separators at their two ends. -/
def trimSeparators (tokens : List Token) : List Token :=
  ((tokens.dropWhile Token.isSeparator).reverse.dropWhile Token.isSeparator).reverse

/-- The characters of `source` from one offset up to another. -/
def slice (source : List Char) (start stop : Nat) : List Char :=
  (source.drop start).take (stop - start)

/-- The text of `source` that some of its tokens span, without separators and white
space at its ends. -/
def spanText (source : List Char) (tokens : List Token) : String :=
  let core := trimSeparators tokens
  match core.head?, core.getLast? with
  | some first, some last =>
      String.ofList (Text.trimChars (slice source first.start last.stop))
  | _, _ => ""

/-- The text of `source` from a token on. -/
def textFrom (source : List Char) (token : Token) : String :=
  String.ofList (Text.trimChars (source.drop token.start))

/-- The text of a part that must not be empty before `keyword`. -/
def filledText (source : List Char) (tokens : List Token) (keyword : String) :
    Except SyntaxError String :=
  let text := spanText source tokens
  if text.isEmpty then .error (.unexpectedToken keyword) else .ok text

/-- The tokens up to a keyword, which must be there. -/
def requireKeyword (stops : List String) (anywhere : Bool) (tokens : List Token) :
    Except SyntaxError (List Token × String × List Token) :=
  match splitAtKeyword stops anywhere .initial tokens with
  | some found => .ok found
  | none => .error .unexpectedEnd

/-- The keywords that divide a conditional. -/
def branchKeywords : List String := ["then", "elif", "else", "fi"]

theorem length_of_requireKeyword
    {stops : List String}
    {anywhere : Bool}
    {tokens before after : List Token}
    {keyword : String}
    (found : requireKeyword stops anywhere tokens = .ok (before, keyword, after)) :
    before.length + 1 + after.length = tokens.length := by
  unfold requireKeyword at found
  split at found
  · rename_i split
    cases found
    exact length_of_splitAtKeyword split
  · contradiction

/-- The part of a conditional behind `else`. -/
def readElse (source : List Char) (tokens : List Token) :
    Except SyntaxError (List Branch × List Token) := do
  let (bodyTokens, keyword, rest) ← requireKeyword branchKeywords false tokens
  if keyword ≠ "fi" then throw (.unexpectedToken keyword)
  let body ← filledText source bodyTokens "fi"
  return ([⟨none, body⟩], rest)

/-- The branches of a conditional behind `if` or `elif`, and the tokens behind `fi`. -/
def readBranches (source : List Char) (tokens : List Token) :
    Except SyntaxError (List Branch × List Token) :=
  match _conditionFound : requireKeyword branchKeywords false tokens with
  | .error error => .error error
  | .ok (conditionTokens, keyword, afterThen) =>
      if keyword ≠ "then" then .error (.unexpectedToken keyword)
      else
        match filledText source conditionTokens "then" with
        | .error error => .error error
        | .ok condition =>
            match _bodyFound : requireKeyword branchKeywords false afterThen with
            | .error error => .error error
            | .ok (bodyTokens, closing, rest) =>
                if closing = "then" then .error (.unexpectedToken "then")
                else
                  match filledText source bodyTokens closing with
                  | .error error => .error error
                  | .ok body =>
                      let branch : Branch := ⟨some condition, body⟩
                      if closing = "elif" then
                        (readBranches source rest).map
                          fun (branches, after) => (branch :: branches, after)
                      else if closing = "else" then
                        (readElse source rest).map
                          fun (branches, after) => (branch :: branches, after)
                      else .ok ([branch], rest)
termination_by tokens.length
decreasing_by
  have := length_of_requireKeyword _conditionFound
  have := length_of_requireKeyword _bodyFound
  omega

/-- The body of a loop behind `do`, and the tokens behind `done`. -/
def readLoopBody (source : List Char) (tokens : List Token) :
    Except SyntaxError (String × List Token) := do
  let (bodyTokens, _, rest) ← requireKeyword ["done"] false tokens
  let body ← filledText source bodyTokens "done"
  return (body, rest)

/-- A loop over words behind `for`. -/
def readForEach (source : List Char) (tokens : List Token) :
    Except SyntaxError (Compound × List Token) := do
  match tokens with
  | .word name :: rest =>
      if !isName name.text then throw (.invalidName name.text)
      if (rest.head?.bind Token.bare?) ≠ some "in" then throw (.at? rest.head?)
      let (listTokens, _, afterDo) ← requireKeyword ["do"] true rest.tail
      let (body, after) ← readLoopBody source afterDo
      return (.forEach name.text (spanText source listTokens) body, after)
  | other => throw (.at? other.head?)

/-- A loop with a condition behind `while` or `until`. -/
def readLoop (kind : LoopKind) (source : List Char) (tokens : List Token) :
    Except SyntaxError (Compound × List Token) := do
  let (conditionTokens, _, afterDo) ← requireKeyword ["do"] true tokens
  let condition ← filledText source conditionTokens "do"
  let (body, after) ← readLoopBody source afterDo
  return (.loop kind condition body, after)

/-- The redirections in front of `tokens`, and the tokens behind them. -/
def readRedirections :
    List Token → Except SyntaxError (List Redirection × List Token)
  | [] => .ok ([], [])
  | .word word :: rest => .ok ([], .word word :: rest)
  | .operator kind start stop :: rest =>
      match kind.duplication? with
      | some redirection =>
          (readRedirections rest).map fun (others, after) => (redirection :: others, after)
      | none =>
          match kind.redirectionTo? with
          | none => .ok ([], .operator kind start stop :: rest)
          | some redirectionTo =>
              match rest with
              | .word target :: behind =>
                  (readRedirections behind).map
                    fun (others, after) => (redirectionTo target :: others, after)
              | other => .error (.at? other.head?)

/-- The text that follows a statement whose tokens have been read up to `tokens`. -/
def readTail (source : List Char) (tokens : List Token) :
    Except SyntaxError (Option Tail) :=
  match tokens with
  | [] => .ok none
  | token :: rest =>
      match token.operator?.bind Operator.joint? with
      | none => .error (.at? (some token))
      | some joint =>
          match rest with
          | [] => if joint.isSeparator then .ok none else .error .unexpectedEnd
          | next :: _ => .ok (some ⟨joint, textFrom source next⟩)

/-- Whether a function definition stands in front of `tokens`. -/
def startsFunction : List Token → Bool
  | .word word :: rest =>
      match word.bare? with
      | none => false
      | some text =>
          text == "function" ||
            (isName text &&
              match rest with
              | .operator .openParen _ _ :: .operator .closeParen _ _ :: _ => true
              | _ => false)
  | _ => false

/-- The body of a function behind its name. -/
def readFunctionBody (source : List Char) (name : String) (tokens : List Token) :
    Except SyntaxError Statement := do
  let opening := tokens.dropWhile fun token => token.operator? == some .newline
  if (opening.head?.bind Token.bare?) ≠ some "\x7b" then throw (.at? opening.head?)
  let (bodyTokens, _, rest) ← requireKeyword ["\x7d"] false opening.tail
  let tail ← readTail source rest
  return ⟨.function name (spanText source bodyTokens), tail⟩

/-- The tokens behind the two parentheses that may follow the name of a function. -/
def skipParens : List Token → Except SyntaxError (List Token)
  | .operator .openParen _ _ :: rest =>
      match rest with
      | .operator .closeParen _ _ :: after => .ok after
      | other => .error (.at? other.head?)
  | other => .ok other

/-- A function definition; `tokens` start with `function` or with a name. -/
def readFunction (source : List Char) (tokens : List Token) :
    Except SyntaxError Statement := do
  if (tokens.head?.bind Token.bare?) = some "function" then
    match tokens.tail with
    | .word name :: rest =>
        if !isName name.text then throw (.invalidName name.text)
        readFunctionBody source name.text (← skipParens rest)
    | other => throw (.at? other.head?)
  else
    readFunctionBody source ((tokens.head?.map Token.text).getD "") (tokens.drop 3)

/-- A compound statement that starts with `keyword`; `tokens` stand behind it. -/
def readCompound (source : List Char) (keyword : String) (tokens : List Token) :
    Except SyntaxError Statement := do
  let (compound, behind) ←
    if keyword = "if" then
      (readBranches source tokens).map fun (branches, after) => (.conditional branches, after)
    else if keyword = "for" then readForEach source tokens
    else readLoop (if keyword = "while" then .whileTrue else .untilTrue) source tokens
  let (redirections, after) ← readRedirections behind
  let tail ← readTail source after
  return ⟨.compound compound redirections, tail⟩

/-- What has been read of ordinary commands; lists hold the latest first. `pending` is
the joint that was read last. -/
structure PipelineDraft where
  pipelines : List Pipeline
  stages : List Stage
  words : List Word
  redirections : List Redirection
  gate : Option Gate
  negations : Nat
  pending : Option Joint

namespace PipelineDraft

/-- Nothing has been read. -/
def initial : PipelineDraft := ⟨[], [], [], [], none, 0, none⟩

/-- Whether the current command has neither words nor redirections. -/
def stageIsEmpty (draft : PipelineDraft) : Bool :=
  draft.words.isEmpty && draft.redirections.isEmpty

/-- Whether a command must still follow. -/
def isOpen (draft : PipelineDraft) : Bool :=
  draft.negations != 0 || draft.pending.any fun joint => !joint.isSeparator

/-- The draft with the current command made a stage. -/
def finishStage (draft : PipelineDraft) : PipelineDraft :=
  let command : SimpleCommand := ⟨draft.words.reverse, draft.redirections.reverse⟩
  { draft with
    stages := ⟨command, draft.gate, draft.negations⟩ :: draft.stages
    words := []
    redirections := []
    negations := 0 }

/-- The pipelines, in order, once the stages have become one of them. -/
def closedPipelines (draft : PipelineDraft) : List Pipeline :=
  (if draft.stages.isEmpty then draft.pipelines
    else ⟨draft.stages.reverse⟩ :: draft.pipelines).reverse

/-- The draft behind a line break. -/
def breakLine (draft : PipelineDraft) : PipelineDraft :=
  if draft.stageIsEmpty && (draft.isOpen || draft.stages.isEmpty) then draft
  else
    let filled := if draft.stageIsEmpty then draft else draft.finishStage
    { filled with
      pipelines := ⟨filled.stages.reverse⟩ :: filled.pipelines
      stages := []
      gate := none
      pending := some .newline }

/-- The draft behind a joint other than a line break. -/
def chain (draft : PipelineDraft) (joint : Joint) : PipelineDraft :=
  { draft.finishStage with gate := joint.stageGate, pending := some joint }

/-- The statement once the line has ended. -/
def finish (draft : PipelineDraft) : Except SyntaxError Statement :=
  if draft.stageIsEmpty then
    if draft.isOpen then .error .unexpectedEnd else .ok ⟨.pipelines draft.closedPipelines, none⟩
  else .ok ⟨.pipelines draft.finishStage.closedPipelines, none⟩

/-- The draft with one more word. -/
def addWord (draft : PipelineDraft) (word : Word) : PipelineDraft :=
  { draft with words := word :: draft.words }

/-- The draft with one more redirection. -/
def addRedirection (draft : PipelineDraft) (redirection : Redirection) : PipelineDraft :=
  { draft with redirections := redirection :: draft.redirections }

end PipelineDraft

/-- What a word is that could name a command. -/
inductive CommandWord where
  | negation
  | stray
  | compound
  | ordinary
deriving DecidableEq, Repr

/-- What the first of `tokens`, a word, is as the name of a command. -/
def commandWord (word : Word) (tokens : List Token) : CommandWord :=
  match word.bare? with
  | none => .ordinary
  | some text =>
      if text = "!" then .negation
      else if isStray text then .stray
      else if startsCompound text || startsFunction tokens then .compound
      else .ordinary

/-- Ordinary commands, up to a compound statement behind one of them, which becomes
the tail. -/
def readPipelines (source : List Char) (draft : PipelineDraft) :
    List Token → Except SyntaxError Statement
  | [] => draft.finish
  | .word word :: rest =>
      if !draft.stageIsEmpty then readPipelines source (draft.addWord word) rest
      else
        match commandWord word (.word word :: rest) with
        | .negation =>
            readPipelines source { draft with negations := draft.negations + 1 } rest
        | .stray => .error (.unexpectedToken word.text)
        | .ordinary => readPipelines source (draft.addWord word) rest
        | .compound =>
            match draft.pending with
            | some joint =>
                if draft.negations = 0 then
                  .ok ⟨.pipelines draft.closedPipelines,
                    some ⟨joint, textFrom source (.word word)⟩⟩
                else readPipelines source (draft.addWord word) rest
            | none => readPipelines source (draft.addWord word) rest
  | .operator kind start stop :: rest =>
      match kind.duplication? with
      | some redirection => readPipelines source (draft.addRedirection redirection) rest
      | none =>
          match kind.redirectionTo? with
          | some redirectionTo =>
              match rest with
              | .word target :: behind =>
                  readPipelines source (draft.addRedirection (redirectionTo target)) behind
              | other => .error (.at? other.head?)
          | none =>
              match kind.joint? with
              | none => .error (.at? (some (.operator kind start stop)))
              | some .newline => readPipelines source draft.breakLine rest
              | some joint =>
                  if draft.stageIsEmpty then .error (.at? (some (.operator kind start stop)))
                  else readPipelines source (draft.chain joint) rest

/-- The statement in front of `tokens`, which come from `source`. -/
def ofTokens (source : List Char) (tokens : List Token) :
    Except SyntaxError (Option Statement) :=
  let tokens := tokens.dropWhile fun token => token.operator? == some .newline
  match tokens with
  | [] => .ok none
  | first :: rest =>
      if startsFunction tokens then (readFunction source tokens).map some
      else
        match first.bare? with
        | some keyword =>
            if startsCompound keyword then (readCompound source keyword rest).map some
            else (readPipelines source .initial tokens).map some
        | none => (readPipelines source .initial tokens).map some

/-- The statement of a line; `none` if the line is blank or a comment. -/
def read (line : String) : Except SyntaxError (Option Statement) := do
  ofTokens line.toList (← Token.scan line)

end Statement

end VirtualShell
