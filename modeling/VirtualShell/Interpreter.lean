import VirtualShell.Builtin
import VirtualShell.Command.Basic
import VirtualShell.Limits
import VirtualShell.Redirect
import VirtualShell.Statement.Read

/-!
Contract: how a line runs.

Owns:
- `Setup`, what does not change while lines run: the limits and the commands.
- `Calls`, the two ways in which running something leads to running something else:
  a nested text, and a command that is called by its name. Each part of a statement
  is run in terms of these.
- `Interpreter.run`, the nested run of a text with a bound on how deep runs nest, and
  `Interpreter.execute`, the run of a line as the shell or a command asks for it.

The rules:
- Every run of a text counts as one command of the line. Beyond the limit, the whole
  line is given up.
- A call too deep fails on its own; a loop with too many passes ends on its own.
- A fault in a command becomes the failure of that command where it was called.
- When runs nest too deep, the innermost call is left as it is, and the whole line
  is given up with the message for its name; the callers around it put back what
  the call had changed.
-/

namespace VirtualShell

/-- Whether a gate lets something run after an exit code. -/
def Gate.allows (gate : Gate) (previous : ExitCode) : Bool :=
  match gate with
  | .always => true
  | .onSuccess => previous == 0
  | .onFailure => previous != 0

/-- What leads to a statement: the gate, and the exit code of what ran before. -/
structure Lead where
  gate : Gate
  previous : ExitCode
deriving DecidableEq, Repr

/-- The lead of a statement before which nothing ran. -/
def Lead.initial : Lead := ⟨.always, 0⟩

/-- Whether the statement runs. -/
def Lead.allows (lead : Lead) : Bool :=
  lead.gate.allows lead.previous

/-- What does not change while lines run. -/
structure Setup where
  limits : Limits
  commands : Table String Command

/-- Runs a text with an input and a lead. -/
abbrev Runner := String → String → Lead → Engine Outcome

/-- The ways in which running something leads to running something else. -/
structure Calls where
  run : Runner
  dispatch : String → List String → String → Engine Outcome

namespace Interpreter

/-- Two outcomes one after the other; the exit code is the second one's. -/
def append (first second : Outcome) : Outcome :=
  ⟨first.stdout ++ second.stdout, first.stderr ++ second.stderr, second.exitCode⟩

/-- An outcome behind the output of another, whose exit code is kept. -/
def appendOutput (first second : Outcome) : Outcome :=
  ⟨first.stdout ++ second.stdout, first.stderr ++ second.stderr, first.exitCode⟩

/-- The outcome with an error message behind it. -/
def failWith (outcome : Outcome) (message : String) : Outcome :=
  ⟨outcome.stdout, outcome.stderr ++ message, 1⟩

/-- Sets the exit code that `$?` stands for. -/
def setLastExitCode (code : ExitCode) : Engine Unit :=
  modify fun session => { session with lastExitCode := code }

/-- Counts one more run of a text. -/
def countRun (setup : Setup) : Engine Unit := do
  modify fun session => { session with commandCount := session.commandCount + 1 }
  if setup.limits.commandCount < (← get).commandCount then
    throw (.limit setup.limits.commandCountMessage)

/-- Records that a limit was hit. -/
def recordBreach (message : String) : Engine Unit :=
  Engine.record .warning (Text.trim message) "guard"

/-! Simple commands and pipelines. -/

/-- Whether a word is an assignment. -/
def isAssignment (word : Word) : Bool :=
  match word.segments.head? with
  | some segment => segment.quoting == .unquoted && (splitAssignment? segment.text).isSome
  | none => false

/-- Carries out an assignment. -/
def assign (word : Word) : Engine Unit := do
  let (name, value) := cutAtEquals (← Redirect.expand word)
  modify fun session => session.assign name (value.getD "")

/-- Where the words of a command are expanded. -/
def surroundings (session : Session) : Surroundings :=
  ⟨session.parameters, session.storage, session.cwd⟩

/-- The arguments that some words stand for. -/
def expandArguments (words : List Word) : Engine (List String) := do
  let around := surroundings (← get)
  Engine.ofFaulty ((words.mapM (expandArgument around)).map List.flatten)

/-- The outcome of the words of a command, before its output is redirected. -/
def runWords (calls : Calls) (words : List Word) (stdin : String) : Engine Outcome := do
  match words with
  | [] => return .success
  | command :: others =>
      if words.all isAssignment then
        words.forM assign
        return .success
      else
        let name ← Redirect.expand command
        let arguments ← expandArguments others
        calls.dispatch name arguments stdin

/-- Runs a simple command. -/
def runCommand (calls : Calls) (command : SimpleCommand) (stdin : String) : Engine Outcome := do
  match ← Redirect.readInput stdin command.redirections with
  | .error failed => return failed
  | .ok input =>
      let outcome ← runWords calls command.words input
      Redirect.applyRedirections outcome command.redirections

/-- Runs commands that pipes join. Each gets the output of the one before it; `before`
is the error output so far. -/
def runPiped (calls : Calls) (stdin before : String) : List Stage → Engine Outcome
  | [] => return ⟨"", before, 0⟩
  | [stage] => do
      let outcome ← runCommand calls stage.command stdin
      return ⟨outcome.stdout, before ++ outcome.stderr, outcome.exitCode⟩
  | stage :: rest => do
      let outcome ← runCommand calls stage.command stdin
      runPiped calls outcome.stdout (before ++ outcome.stderr) rest

/-- The stages of a pipeline, put together where pipes join them: the first stage of a
group, and the stages behind it. -/
def groupStages : List Stage → List (Stage × List Stage)
  | [] => []
  | stage :: rest =>
      match rest, groupStages rest with
      | next :: _, (first, others) :: groups =>
          if next.gate.isNone then (stage, first :: others) :: groups
          else (stage, []) :: (first, others) :: groups
      | _, groups => (stage, []) :: groups

/-- An exit code once an odd number of exclamation marks has turned it round. -/
def negate (negations : Nat) (code : ExitCode) : ExitCode :=
  if negations % 2 = 1 then (if code = 0 then 1 else 0) else code

/-- The outcome so far, and the output of the last group if it is held back. -/
structure Held where
  outcome : Outcome
  held : String
deriving DecidableEq, Repr

/-- Runs the groups of a pipeline that their gates let run. `gate` is the gate of the
first; `holds` says that the output of the last group is held back. -/
def runGroups (calls : Calls) (stdin : String) (holds : Bool) (gate : Gate) (before : Outcome) :
    List (Stage × List Stage) → Engine Held
  | [] => return ⟨before, ""⟩
  | (stage, others) :: rest => do
      let nextGate := ((rest.head?.bind fun group => group.1.gate).getD .always)
      if !gate.allows before.exitCode then runGroups calls stdin holds nextGate before rest
      else
        let outcome ← runPiped calls stdin "" (stage :: others)
        let code := negate stage.negations outcome.exitCode
        setLastExitCode code
        if holds && rest.isEmpty then
          return ⟨⟨before.stdout, before.stderr ++ outcome.stderr, code⟩, outcome.stdout⟩
        else
          runGroups calls stdin holds nextGate
            (append before ⟨outcome.stdout, outcome.stderr, code⟩) rest

/-- Runs a pipeline. -/
def runPipeline (calls : Calls) (pipeline : Pipeline) (stdin : String) (lead : Lead)
    (holds : Bool) : Engine Held :=
  runGroups calls stdin holds lead.gate ⟨"", "", lead.previous⟩ (groupStages pipeline.stages)

/-- Runs pipelines line by line. Each line gets the output of the line before it as its
input; `holds` says that the output of the last group of all is held back. -/
def runLines (calls : Calls) (stdin : String) (holds : Bool) (gate : Gate) (before : Outcome) :
    List Pipeline → Engine Held
  | [] => return ⟨before, ""⟩
  | pipeline :: rest => do
      let result ← runPipeline calls pipeline stdin ⟨gate, before.exitCode⟩ (holds && rest.isEmpty)
      let after := append before result.outcome
      if rest.isEmpty then return ⟨after, result.held⟩
      else runLines calls result.outcome.stdout holds .always after rest

/-- Runs the text that follows a statement, and puts its outcome behind the statement's. -/
def runTail (calls : Calls) (outcome : Outcome) (stdin : String) : Option Tail → Engine Outcome
  | none => return outcome
  | some ⟨.pipe, text⟩ => do
      let piped ← calls.run text outcome.stdout .initial
      return ⟨piped.stdout, outcome.stderr ++ piped.stderr, piped.exitCode⟩
  | some ⟨.newline, text⟩ => do
      let rest ← calls.run text outcome.stdout ⟨.always, outcome.exitCode⟩
      return append outcome rest
  | some ⟨.gate gate, text⟩ => do
      let rest ← calls.run text stdin ⟨gate, outcome.exitCode⟩
      return append outcome rest

/-- Runs pipelines and the text that follows them. -/
def runPipelines
    (calls : Calls)
    (pipelines : List Pipeline)
    (tail : Option Tail)
    (stdin : String)
    (lead : Lead) : Engine Outcome := do
  let before : Outcome := ⟨"", "", lead.previous⟩
  match tail with
  | some ⟨.pipe, text⟩ =>
      let result ← runLines calls stdin true lead.gate before pipelines
      let piped ← calls.run text result.held .initial
      return append result.outcome piped
  | tail =>
      let result ← runLines calls stdin false lead.gate before pipelines
      runTail calls result.outcome stdin tail

/-! Compound statements. -/

/-- Runs the first branch of a conditional whose condition succeeds; `before` is the
output of the conditions so far. -/
def runBranches (calls : Calls) (stdin : String) (before : Outcome) :
    List Branch → Engine Outcome
  | [] => return before
  | branch :: rest => do
      match branch.condition with
      | none => return append before (← calls.run branch.body stdin .initial)
      | some condition =>
          let tested ← calls.run condition stdin .initial
          let after := appendOutput before tested
          if tested.exitCode = 0 then
            return append after (← calls.run branch.body stdin .initial)
          else runBranches calls stdin after rest

/-- The words of a loop. -/
def loopItems (list : String) : Engine (List String) := do
  let around := surroundings (← get)
  match Token.scan list with
  | .error error => throw (.fault (.line error))
  | .ok tokens =>
      Engine.ofFaulty
        (((tokens.filterMap Token.word?).mapM (expandListItem around)).map List.flatten)

/-- The outcome of a loop that needs more passes than it may have. -/
def breachLoop (setup : Setup) (name : String) (before : Outcome) : Engine Outcome := do
  let message := setup.limits.loopMessage name
  recordBreach message
  return failWith before message

/-- Runs the body of a loop for each item, at most `passes` times. -/
def runItems
    (setup : Setup)
    (calls : Calls)
    (variableName body stdin : String) :
    Nat → Outcome → List String → Engine Outcome
  | _, before, [] => return before
  | 0, before, _ :: _ => breachLoop setup "for" before
  | passes + 1, before, item :: rest => do
      modify fun session => session.assign variableName item
      let outcome ← calls.run body stdin .initial
      runItems setup calls variableName body stdin passes (append before outcome) rest

/-- Runs a loop over words; its variable is unset when it ends, however it ends. -/
def runForEach (setup : Setup) (calls : Calls) (variableName list body stdin : String) :
    Engine Outcome := do
  let items ← loopItems list
  Engine.onExit
    (runItems setup calls variableName body stdin setup.limits.loopPasses .success items)
    fun _ session => session.discard variableName

/-- The name of a loop in messages. -/
def loopName : LoopKind → String
  | .whileTrue => "while"
  | .untilTrue => "until"

/-- Whether a loop goes on after its condition has ended with an exit code. -/
def goesOn (kind : LoopKind) (code : ExitCode) : Bool :=
  match kind with
  | .whileTrue => code == 0
  | .untilTrue => code != 0

/-- Runs a loop with a condition, at most `passes` times. -/
def runLoop
    (setup : Setup)
    (calls : Calls)
    (kind : LoopKind)
    (condition body stdin : String) :
    Nat → Outcome → Engine Outcome
  | 0, before => breachLoop setup (loopName kind) before
  | passes + 1, before => do
      let tested ← calls.run condition stdin .initial
      let after := appendOutput before tested
      if goesOn kind tested.exitCode then
        let outcome ← calls.run body stdin .initial
        runLoop setup calls kind condition body stdin passes (append after outcome)
      else return after

/-- Runs a compound statement without its redirections. -/
def runInner (setup : Setup) (calls : Calls) (compound : Compound) (stdin : String) :
    Engine Outcome :=
  match compound with
  | .conditional branches => runBranches calls stdin .success branches
  | .forEach name list body => runForEach setup calls name list body stdin
  | .loop kind condition body =>
      runLoop setup calls kind condition body stdin setup.limits.loopPasses .success

/-- Runs a compound statement with its redirections. -/
def runCompound
    (setup : Setup)
    (calls : Calls)
    (compound : Compound)
    (redirections : List Redirection)
    (stdin : String) : Engine Outcome := do
  match ← Redirect.readInput stdin redirections with
  | .error failed => return failed
  | .ok input =>
      let outcome ← runInner setup calls compound input
      Redirect.applyRedirections outcome redirections

/-- Defines a function. -/
def defineFunction (name body : String) : Engine Outcome := do
  modify fun session => { session with functions := session.functions.insert name body }
  Engine.record .info ("defined function " ++ name) "shell"
  return .success

/-! Statements and texts. -/

/-- The exit code of a statement that is not run, as an outcome. -/
def skipped (lead : Lead) : Outcome := ⟨"", "", lead.previous⟩

/-- Runs a statement and the text that follows it. -/
def runStatement
    (setup : Setup)
    (calls : Calls)
    (statement : Statement)
    (stdin : String)
    (lead : Lead) : Engine Outcome := do
  match statement.body with
  | .pipelines pipelines => runPipelines calls pipelines statement.tail stdin lead
  | .function name body =>
      if !lead.allows then runTail calls (skipped lead) stdin statement.tail
      else
        let outcome ← defineFunction name body
        setLastExitCode outcome.exitCode
        runTail calls outcome stdin statement.tail
  | .compound compound redirections =>
      if !lead.allows then runTail calls (skipped lead) stdin statement.tail
      else
        let outcome ← runCompound setup calls compound redirections stdin
        setLastExitCode outcome.exitCode
        runTail calls outcome stdin statement.tail

/-- The exit code of a line that is no statement. -/
def syntaxErrorCode : ExitCode := 2

/-- Reports that a text is no statement. -/
def reportSyntaxError (error : SyntaxError) : Engine Outcome := do
  Engine.record .warning error.message "shell"
  setLastExitCode syntaxErrorCode
  return .failure ("bash: " ++ error.message ++ "\n") syntaxErrorCode

/-- Reads a text and runs the statement that it is. -/
def runRead (setup : Setup) (calls : Calls) (text stdin : String) (lead : Lead) :
    Engine Outcome := do
  if Text.isBlankText text then return .success
  match Statement.read text with
  | .error error => reportSyntaxError error
  | .ok none => return .success
  | .ok (some statement) => runStatement setup calls statement stdin lead

/-- Counts the run of a text and runs it. -/
def runText (setup : Setup) (calls : Calls) (text stdin : String) (lead : Lead) :
    Engine Outcome := do
  countRun setup
  runRead setup calls text stdin lead

/-! Calls by name. -/

/-- Begins a line from the host: the count of runs starts afresh. -/
def beginLine (line : String) : Engine Unit := do
  modify fun session => { session with commandCount := 0 }
  if !Text.isBlankText line then Engine.record .debug ("exec: " ++ Text.trim line) "shell"

/-- Runs a line as one more line under way. -/
def runLine (run : Runner) (line : String) : Engine Outcome := do
  modify fun session => { session with nesting := session.nesting + 1 }
  (run line "" .initial).onExit fun _ session => { session with nesting := session.nesting - 1 }

/-- Turns a limit on a whole line into its outcome. -/
def endAtLimit (work : Engine Outcome) : Engine Outcome :=
  tryCatch work fun abort => do
    match abort with
    | .limit message =>
        modify fun session =>
          { session with
            journal := session.journal.record ⟨.warning, Text.trim message, "guard", 0⟩ }
        return .failure message 1
    | abort => throw abort

/-- Runs a line as a command or the host asks for it. A line from the host starts the
count of runs afresh, and is where a limit on the whole line becomes its outcome. -/
def execute (run : Runner) (line : String) : Engine Outcome := do
  let session ← get
  if session.nesting == 0 && session.callDepth == 0 then
    beginLine line
    endAtLimit (runLine run line)
  else runLine run line

/-- Runs a function body. -/
def callFunction
    (setup : Setup)
    (run : Runner)
    (name body : String)
    (arguments : List String)
    (stdin : String) : Engine Outcome := do
  let session ← get
  if setup.limits.callDepth ≤ session.callDepth then
    let message := setup.limits.callDepthMessage name
    recordBreach message
    return .failure message 1
  let hidden := Session.hiddenValues session.environment arguments.length
  set (session.enterFunction arguments)
  (run body stdin .initial).onExit fun result after =>
    match result with
    | .error .nestingSpent => after
    | _ => after.leaveFunction session.callDepth session.scopes.length hidden

/-- Lets a process do its work; the lines that it asks for are run by `exec`. -/
def perform (exec : String → Engine Outcome) : Process → Engine Outcome
  | .finished world result => do
      modify fun session =>
        { session with environment := world.environment, storage := world.storage }
      Engine.ofFaulty result
  | .running world line resume => do
      modify fun session =>
        { session with environment := world.environment, storage := world.storage }
      let outcome ← exec line
      let session ← get
      perform exec (resume ⟨session.environment, session.storage⟩ outcome)

/-- The last component of the name of a command. -/
def baseName (name : String) : String :=
  String.ofList (Text.lastPiece '/' name.toList)

/-- Calls a builtin, a function or a command. -/
def callByName
    (setup : Setup)
    (run : Runner)
    (name : String)
    (arguments : List String)
    (stdin : String) : Engine Outcome := do
  let session ← get
  match Builtin.ofName? name, session.functions.get? name, setup.commands.get? (baseName name) with
  | some builtin, _, _ => builtin.run arguments
  | none, some body, _ => callFunction setup run name body arguments stdin
  | none, none, some command =>
      perform (execute run)
        (command.start ⟨session.cwd, stdin⟩ arguments ⟨session.environment, session.storage⟩)
  | none, none, none => return .failure ("bash: " ++ name ++ ": command not found\n") 127

/-- Turns a fault in a command into its failure, and a lack of room for nested runs into
a limit on the whole line. -/
def atBoundary (setup : Setup) (name : String) (abort : Abort) : Engine Outcome :=
  match abort with
  | .limit message => throw (.limit message)
  | .nestingSpent => throw (.limit (setup.limits.callDepthMessage name))
  | .fault fault => do
      Engine.record .error (name ++ ": " ++ fault.message) "dispatch"
      return .failure (name ++ ": " ++ fault.message ++ "\n") 1

/-- Calls a command by its name. -/
def dispatch
    (setup : Setup)
    (run : Runner)
    (name : String)
    (arguments : List String)
    (stdin : String) : Engine Outcome :=
  if name.isEmpty && arguments.isEmpty then return .success
  else tryCatch (callByName setup run name arguments stdin) (atBoundary setup name)

/-- Runs a text; runs nest at most `room` deep. -/
def run (setup : Setup) : Nat → Runner
  | 0 => fun _ _ _ => throw .nestingSpent
  | room + 1 =>
      runText setup ⟨run setup room, dispatch setup (run setup room)⟩

/-- How deep runs nest. -/
def defaultRoom : Nat := 1000

end Interpreter

end VirtualShell
