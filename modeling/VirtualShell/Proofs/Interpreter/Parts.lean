import VirtualShell.Interpreter
import VirtualShell.Proofs.Engine.Following

/-!
Contract: what running a statement is built of.

Owns:
- `Interpreter.Step`, what is done between the calls that a statement makes, and
  `Interpreter.IsReport`, what is reported there.
- `Interpreter.Alike`, that two pieces of work are built in the same way from the same steps
  and from two pairs of calls.
- `Interpreter.runRead_alike`: so are the runs of a text in terms of two pairs of calls.

The proof follows the definitions from simple commands to texts, one lemma per function. It is
the only one that does: whatever the steps keep and the ways of building carry on is known of
runs by induction on `Alike`.
-/

namespace VirtualShell.Interpreter

open VirtualShell.Engine

/-- The words of some loop, as the statement that was read keeps them. -/
def IsLoopList (list : String) : Prop :=
  ∃ text statement name body redirections,
    Statement.read text = .ok (some statement) ∧
      statement.body = .compound (.forEach name list body) redirections

/-- A part of the shell that reports events of its own. -/
def IsReporter (source : String) : Prop :=
  source = "shell" ∨ source = "guard" ∨ source = "dispatch"

/-- What running a statement reports between its calls, and where. -/
inductive IsReport : Level → String → String → Prop where
  | definition (name : String) : IsReport .info ("defined function " ++ name) "shell"
  | syntaxError (error : SyntaxError) : IsReport .warning error.message "shell"
  | breach (limits : Limits) (name : String) :
      IsReport .warning (Text.trim (limits.loopMessage name)) "guard"

theorem IsReport.reporter {level : Level} {message source : String}
    (report : IsReport level message source) : IsReporter source := by
  cases report with
  | definition | syntaxError => exact .inl rfl
  | breach => exact .inr (.inl rfl)

/-- What running a statement does between its calls. -/
inductive Step : {α : Type} → Engine α → Prop where
  | read (path : String) : Step (attempt (Storage.read path))
  | write (path content : String) : Step (attempt (Storage.write path content))
  | append (path content : String) : Step (attempt (Storage.append path content))
  | expandArguments (words : List Word) : Step (expandArguments words)
  | loopItems {list : String} (stored : IsLoopList list) : Step (loopItems list)
  | assign (name value : String) : Step (modify fun session => session.assign name value)
  | define (name body : String) :
      Step (modify fun session => { session with functions := session.functions.insert name body })
  | setLastExitCode (code : ExitCode) : Step (setLastExitCode code)
  | record {level : Level} {message source : String} (report : IsReport level message source) :
      Step (Engine.record level message source)

/-- Two pieces of work are built in the same way from steps and from two pairs of calls. Where
a loop has no pass left on the left, it has none on the right if the limits are the same, and
may be anything if they are not. -/
inductive Alike (setup other : Setup) (left right : Calls) :
    {α : Type} → Engine α → Engine α → Prop where
  | pure {α : Type} (value : α) : Alike setup other left right (pure value) (pure value)
  | bind {α β : Type} {first second : Engine α} {next following : α → Engine β} :
      Alike setup other left right first second →
      (∀ value, Alike setup other left right (next value) (following value)) →
      Alike setup other left right (first >>= next) (second >>= following)
  | get {β : Type} {next following : Session → Engine β} :
      (∀ session journal,
        Alike setup other left right (next session) (following (session.withJournal journal))) →
      Alike setup other left right (MonadState.get >>= next) (MonadState.get >>= following)
  | step {α : Type} {work : Engine α} : Step work → Alike setup other left right work work
  | discarding {α : Type} {first second : Engine α} (name : String) :
      Alike setup other left right first second →
      Alike setup other left right (first.onExit fun _ session => session.discard name)
        (second.onExit fun _ session => session.discard name)
  | breach (name : String) (before : Outcome) (following : Engine Outcome) :
      (other.limits.loopPasses = setup.limits.loopPasses →
        following = breachLoop other name before) →
      Alike setup other left right (breachLoop setup name before) following
  | run (text stdin : String) (lead : Lead) :
      Alike setup other left right (left.run text stdin lead) (right.run text stdin lead)
  | dispatch (name : String) (arguments : List String) (stdin : String) :
      Alike setup other left right (left.dispatch name arguments stdin)
        (right.dispatch name arguments stdin)

section

variable {setup other : Setup} {left right : Calls}

/-! ## Redirections -/

theorem expand_alike (word : Word) :
    Alike setup other left right (Redirect.expand word) (Redirect.expand word) :=
  Alike.get fun _ _ => Alike.pure _

theorem readInput_alike (stdin : String) (redirections : List Redirection) :
    Alike setup other left right (Redirect.readInput stdin redirections)
      (Redirect.readInput stdin redirections) := by
  induction redirections generalizing stdin with
  | nil => exact Alike.pure _
  | cons redirection rest inductionHypothesis =>
      cases redirection with
      | readIn word =>
          refine (expand_alike word).bind fun target => Alike.get fun session journal => ?_
          refine (Alike.step (.read _)).bind fun result => ?_
          cases result with
          | ok content => exact inductionHypothesis content
          | error error => exact Alike.pure _
      | writeOut | writeError | errorToOut | outToError => exact inductionHypothesis stdin

theorem openTarget_alike (word : Word) (append : Bool) :
    Alike setup other left right (Redirect.openTarget word append)
      (Redirect.openTarget word append) := by
  refine (expand_alike word).bind fun target => ?_
  split
  · exact Alike.pure _
  · refine Alike.get fun session journal => ?_
    have opened : Step (attempt (if append then Storage.append (Path.resolve session.cwd target) ""
        else Storage.write (Path.resolve session.cwd target) "")) := by
      cases append
      · exact .write _ _
      · exact .append _ _
    refine (Alike.step opened).bind fun result => ?_
    cases result <;> exact Alike.pure _

theorem route_alike (routing : Routing) (redirections : List Redirection) :
    Alike setup other left right (Redirect.route routing redirections)
      (Redirect.route routing redirections) := by
  induction redirections generalizing routing with
  | nil => exact Alike.pure _
  | cons redirection rest inductionHypothesis =>
      cases redirection with
      | writeOut word append | writeError word append =>
          refine (openTarget_alike word append).bind fun result => ?_
          cases result with
          | ok sink => exact inductionHypothesis _
          | error outcome => exact Alike.pure _
      | readIn | errorToOut | outToError => exact inductionHypothesis _

theorem deliver_alike (text : String) (sink : Sink) (streams : String × String) :
    Alike setup other left right (Redirect.deliver text sink streams)
      (Redirect.deliver text sink streams) := by
  cases sink with
  | stdout | stderr | nowhere => exact Alike.pure _
  | file path label =>
      unfold Redirect.deliver
      dsimp only
      split
      · exact Alike.pure _
      · refine (Alike.step (.append _ _)).bind fun result => ?_
        cases result <;> exact Alike.pure _

theorem applyRedirections_alike (outcome : Outcome) (redirections : List Redirection) :
    Alike setup other left right (Redirect.applyRedirections outcome redirections)
      (Redirect.applyRedirections outcome redirections) := by
  unfold Redirect.applyRedirections
  split
  · exact Alike.pure _
  · refine (route_alike _ _).bind fun routed => ?_
    cases routed with
    | error failed => exact Alike.pure _
    | ok routing =>
        refine (deliver_alike _ _ _).bind fun delivered => ?_
        cases delivered with
        | error failed => exact Alike.pure _
        | ok streams =>
            refine (deliver_alike _ _ _).bind fun delivered => ?_
            cases delivered <;> exact Alike.pure _

/-! ## Simple commands and pipelines -/

theorem assign_alike (words : List Word) :
    Alike setup other left right (words.forM assign) (words.forM assign) := by
  induction words with
  | nil => exact Alike.pure _
  | cons word rest inductionHypothesis =>
      refine Alike.bind ?_ fun _ => inductionHypothesis
      exact (expand_alike word).bind fun text => Alike.step (.assign _ _)

theorem runWords_alike (words : List Word) (stdin : String) :
    Alike setup other left right (runWords left words stdin) (runWords right words stdin) := by
  unfold runWords
  cases words with
  | nil => exact Alike.pure _
  | cons command others =>
      dsimp only
      split
      · exact (assign_alike _).bind fun _ => Alike.pure _
      · refine (expand_alike command).bind fun name => ?_
        exact (Alike.step (.expandArguments others)).bind fun arguments =>
          Alike.dispatch name arguments stdin

theorem runCommand_alike (command : SimpleCommand) (stdin : String) :
    Alike setup other left right (runCommand left command stdin)
      (runCommand right command stdin) := by
  refine (readInput_alike stdin command.redirections).bind fun result => ?_
  cases result with
  | error failed => exact Alike.pure _
  | ok input =>
      exact (runWords_alike _ _).bind fun outcome => applyRedirections_alike outcome _

theorem runPiped_alike (stdin before : String) (stages : List Stage) :
    Alike setup other left right (runPiped left stdin before stages)
      (runPiped right stdin before stages) := by
  fun_induction runPiped left stdin before stages with
  | case1 => exact Alike.pure _
  | case2 stdin before stage =>
      exact (runCommand_alike _ _).bind fun outcome => Alike.pure _
  | case3 stdin before stage rest more inductionHypothesis =>
      cases rest with
      | nil => exact absurd rfl more
      | cons next rest =>
          exact (runCommand_alike _ _).bind fun outcome => inductionHypothesis outcome

theorem runGroups_alike (stdin : String) (holds : Bool) (gate : Gate) (before : Outcome)
    (groups : List (Stage × List Stage)) :
    Alike setup other left right (runGroups left stdin holds gate before groups)
      (runGroups right stdin holds gate before groups) := by
  induction groups generalizing gate before with
  | nil => exact Alike.pure _
  | cons group rest inductionHypothesis =>
      unfold runGroups
      dsimp only
      split
      · exact inductionHypothesis _ _
      · refine (runPiped_alike _ _ _).bind fun outcome => ?_
        refine (Alike.step (.setLastExitCode _)).bind fun _ => ?_
        split
        · exact Alike.pure _
        · exact inductionHypothesis _ _

theorem runLines_alike (stdin : String) (holds : Bool) (gate : Gate) (before : Outcome)
    (pipelines : List Pipeline) :
    Alike setup other left right (runLines left stdin holds gate before pipelines)
      (runLines right stdin holds gate before pipelines) := by
  induction pipelines generalizing stdin gate before with
  | nil => exact Alike.pure _
  | cons pipeline rest inductionHypothesis =>
      refine (runGroups_alike _ _ _ _ _).bind fun result => ?_
      split
      · exact Alike.pure _
      · exact inductionHypothesis _ _ _

theorem runTail_alike (outcome : Outcome) (stdin : String) (tail : Option Tail) :
    Alike setup other left right (runTail left outcome stdin tail)
      (runTail right outcome stdin tail) := by
  match tail with
  | none => exact Alike.pure _
  | some ⟨.pipe, text⟩ | some ⟨.newline, text⟩ | some ⟨.gate gate, text⟩ =>
      exact (Alike.run _ _ _).bind fun _ => Alike.pure _

theorem runPipelines_alike (pipelines : List Pipeline) (tail : Option Tail) (stdin : String)
    (lead : Lead) :
    Alike setup other left right (runPipelines left pipelines tail stdin lead)
      (runPipelines right pipelines tail stdin lead) := by
  unfold runPipelines
  dsimp only
  split
  · refine (runLines_alike _ _ _ _ _).bind fun result => ?_
    exact (Alike.run _ _ _).bind fun _ => Alike.pure _
  · exact (runLines_alike _ _ _ _ _).bind fun result => runTail_alike _ _ _

/-! ## Compound statements -/

theorem runBranches_alike (stdin : String) (before : Outcome) (branches : List Branch) :
    Alike setup other left right (runBranches left stdin before branches)
      (runBranches right stdin before branches) := by
  induction branches generalizing before with
  | nil => exact Alike.pure _
  | cons branch rest inductionHypothesis =>
      unfold runBranches
      split
      · exact (Alike.run _ _ _).bind fun _ => Alike.pure _
      · refine (Alike.run _ _ _).bind fun tested => ?_
        dsimp only
        split
        · exact (Alike.run _ _ _).bind fun _ => Alike.pure _
        · exact inductionHypothesis _

/-- Where the left loop has used up its passes, the right one may go on. -/
theorem runItems_alike (variableName body stdin : String) (passes : Nat) (before : Outcome)
    (items : List String) :
    Alike setup other left right (runItems setup left variableName body stdin passes before items)
      (runItems other right variableName body stdin
        (passes + (other.limits.loopPasses - setup.limits.loopPasses)) before items) := by
  induction items generalizing passes before with
  | nil =>
      simp only [runItems]
      exact Alike.pure _
  | cons item rest inductionHypothesis =>
      cases passes with
      | zero =>
          refine Alike.breach "for" before _ fun same => ?_
          rw [same, Nat.sub_self]
          rfl
      | succ passes =>
          rw [Nat.succ_add]
          refine (Alike.step (.assign _ _)).bind fun _ => ?_
          exact (Alike.run _ _ _).bind fun outcome => inductionHypothesis _ _

theorem runForEach_alike (passes : setup.limits.loopPasses ≤ other.limits.loopPasses)
    (variableName : String) {list : String} (stored : IsLoopList list) (body stdin : String) :
    Alike setup other left right (runForEach setup left variableName list body stdin)
      (runForEach other right variableName list body stdin) := by
  refine (Alike.step (.loopItems stored)).bind fun items => ?_
  have inner : Alike setup other left right _ _ :=
    runItems_alike variableName body stdin setup.limits.loopPasses .success items
  rw [Nat.add_sub_cancel' passes] at inner
  exact inner.discarding variableName

theorem runLoop_alike (kind : LoopKind) (tested body stdin : String) (passes : Nat)
    (before : Outcome) :
    Alike setup other left right (runLoop setup left kind tested body stdin passes before)
      (runLoop other right kind tested body stdin
        (passes + (other.limits.loopPasses - setup.limits.loopPasses)) before) := by
  induction passes generalizing before with
  | zero =>
      refine Alike.breach (loopName kind) before _ fun same => ?_
      rw [same, Nat.sub_self]
      rfl
  | succ passes inductionHypothesis =>
      rw [Nat.succ_add]
      refine (Alike.run _ _ _).bind fun outcome => ?_
      dsimp only
      split
      · exact (Alike.run _ _ _).bind fun outcome => inductionHypothesis _
      · exact Alike.pure _

theorem runInner_alike (passes : setup.limits.loopPasses ≤ other.limits.loopPasses)
    {compound : Compound}
    (stored : ∀ name list body, compound = .forEach name list body → IsLoopList list)
    (stdin : String) :
    Alike setup other left right (runInner setup left compound stdin)
      (runInner other right compound stdin) := by
  cases compound with
  | conditional branches => exact runBranches_alike _ _ _
  | forEach name list body => exact runForEach_alike passes _ (stored name list body rfl) _ _
  | loop kind tested body =>
      have inner : Alike setup other left right _ _ :=
        runLoop_alike kind tested body stdin setup.limits.loopPasses .success
      rwa [Nat.add_sub_cancel' passes] at inner

theorem runCompound_alike (passes : setup.limits.loopPasses ≤ other.limits.loopPasses)
    {compound : Compound}
    (stored : ∀ name list body, compound = .forEach name list body → IsLoopList list)
    (redirections : List Redirection) (stdin : String) :
    Alike setup other left right (runCompound setup left compound redirections stdin)
      (runCompound other right compound redirections stdin) := by
  refine (readInput_alike stdin redirections).bind fun result => ?_
  cases result with
  | error failed => exact Alike.pure _
  | ok input =>
      exact (runInner_alike passes stored _).bind fun outcome => applyRedirections_alike outcome _

theorem defineFunction_alike (name body : String) :
    Alike setup other left right (defineFunction name body) (defineFunction name body) := by
  refine (Alike.step (.define name body)).bind fun _ => ?_
  exact (Alike.step (.record (.definition name))).bind fun _ => Alike.pure _

/-! ## Statements and texts -/

theorem runStatement_alike (passes : setup.limits.loopPasses ≤ other.limits.loopPasses)
    {text : String} {statement : Statement} (read : Statement.read text = .ok (some statement))
    (stdin : String) (lead : Lead) :
    Alike setup other left right (runStatement setup left statement stdin lead)
      (runStatement other right statement stdin lead) := by
  unfold runStatement
  split
  · exact runPipelines_alike _ _ _ _
  · split
    · exact runTail_alike _ _ _
    · refine (defineFunction_alike _ _).bind fun outcome => ?_
      exact (Alike.step (.setLastExitCode _)).bind fun _ => runTail_alike _ _ _
  · rename_i compound redirections same
    have stored : ∀ name list body, compound = .forEach name list body → IsLoopList list := by
      rintro name list body rfl
      exact ⟨text, statement, name, body, redirections, read, same⟩
    split
    · exact runTail_alike _ _ _
    · refine (runCompound_alike passes stored _ _).bind fun outcome => ?_
      exact (Alike.step (.setLastExitCode _)).bind fun _ => runTail_alike _ _ _

theorem reportSyntaxError_alike (error : SyntaxError) :
    Alike setup other left right (reportSyntaxError error) (reportSyntaxError error) := by
  refine (Alike.step (.record (.syntaxError error))).bind fun _ => ?_
  exact (Alike.step (.setLastExitCode _)).bind fun _ => Alike.pure _

/-- The runs of a text in terms of two pairs of calls are built alike. -/
theorem runRead_alike (passes : setup.limits.loopPasses ≤ other.limits.loopPasses)
    (text stdin : String) (lead : Lead) :
    Alike setup other left right (runRead setup left text stdin lead)
      (runRead other right text stdin lead) := by
  unfold runRead
  split
  · exact Alike.pure _
  · split
    · exact reportSyntaxError_alike _
    · exact Alike.pure _
    · rename_i read
      exact runStatement_alike passes read stdin lead

end

end VirtualShell.Interpreter
