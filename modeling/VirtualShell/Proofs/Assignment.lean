import VirtualShell.Proofs.Expansion
import VirtualShell.Proofs.Interpreter.Gating
import VirtualShell.Proofs.Redirect

/-!
Contract: a variable that is assigned a quoted text has exactly this text afterwards.

Owns:
- `Word.Assigns`, a word that assigns a text whatever the variables are, and
  `Becomes.assignment`, that a name, an equals sign and a quoted text are read as such a word;
- what an assignment word is expanded to, and that `splitAssignment?` takes this apart again;
- `execute_of_assignments`: a line of assignment words makes these assignments, one after the
  other, and nothing else.
-/

namespace VirtualShell

open VirtualShell.Fallible

/-! ## Assignments as texts -/

theorem not_mem_of_isName {name : String} (named : isName name = true) {c : Char}
    (foreign : isPlainChar c = false) : c ∉ name.toList := by
  intro member
  have plain := List.all_eq_true.1 (BareWord.ofName name named).plain c member
  rw [foreign] at plain
  cases plain

theorem cutAtEquals_append {name : String} (named : isName name = true) (value : String) :
    cutAtEquals (name ++ "=" ++ value) = (name, some value) := by
  have clear : ∀ c ∈ name.toList, (c != '=') = true := by
    intro c member
    rw [bne_iff_ne]
    rintro rfl
    exact not_mem_of_isName named rfl member
  have chars : (name ++ "=" ++ value).toList = name.toList ++ '=' :: value.toList := by
    simp
  rw [cutAtEquals, Text.cutAt, chars, List.dropWhile_append_of_pos clear,
    List.takeWhile_append_of_pos clear]
  simp

theorem splitAssignment?_append {name : String} (named : isName name = true) (value : String) :
    splitAssignment? (name ++ "=" ++ value) = some (name, value) := by
  rw [splitAssignment?, cutAtEquals_append named]
  exact if_pos named

/-! ## Assignments as words -/

/-- The word is a name and an equals sign, and segments that stand for the value whatever the
variables are. -/
structure Word.Assigns (word : Word) (name value : String) : Prop where
  named : isName name = true
  quoted : ∃ segments, word.segments = ⟨name ++ "=", .unquoted⟩ :: segments ∧
    StandFor segments value.toList

namespace Word.Assigns

variable {word : Word} {name value : String}

/-- An assignment is no keyword. -/
theorem bare? (assigns : word.Assigns name value) : word.bare? = none := by
  obtain ⟨segments, same, stand⟩ := assigns.quoted
  obtain ⟨segment, member⟩ := List.exists_mem_of_ne_nil _ stand.filled
  refine if_pos (List.any_eq_true.2 ⟨segment, ?_, stand.quoted segment member⟩)
  rw [same]
  exact List.mem_cons_of_mem _ member

theorem isAssignment (assigns : word.Assigns name value) :
    Interpreter.isAssignment word = true := by
  obtain ⟨segments, same, -⟩ := assigns.quoted
  have split : splitAssignment? (name ++ "=") = some (name, "") := by
    simpa using splitAssignment?_append assigns.named ""
  simp [Interpreter.isAssignment, same, split]

/-- The name and the equals sign stand for themselves. -/
theorem expandSegment_name (named : isName name = true) (parameters : Parameters) :
    expandSegment parameters true ⟨name ++ "=", .unquoted⟩ = name ++ "=" := by
  have closed : '$' ∉ (name ++ "=").toList := by
    simpa using not_mem_of_isName named rfl
  have tilde : '~' ∉ (name ++ "=").toList := by
    simpa using not_mem_of_isName named rfl
  have kept : ∀ home, expandTilde home (name ++ "=") = name ++ "=" := by
    intro home
    refine if_neg ?_
    rintro (same | starts)
    · rw [same] at tilde
      exact tilde (by decide)
    · obtain ⟨rest, same⟩ := List.isPrefixOf_iff_prefix.1 starts
      rw [← same] at tilde
      exact tilde (by simp)
  simp only [expandSegment, if_true, kept]
  exact expandVariables_of_closed closed parameters

theorem expandWord (assigns : word.Assigns name value) (parameters : Parameters) :
    expandWord parameters word = name ++ "=" ++ value := by
  obtain ⟨segments, same, stand⟩ := assigns.quoted
  have each : segments.map (expandSegment parameters false) = segments.map Segment.text :=
    List.map_congr_left fun segment member =>
      expandSegment_of_closed (stand.quoted segment member) (stand.closed segment member)
        parameters false
  have whole : String.join (segments.map Segment.text) = value := by
    rw [← String.toList_inj, String.toList_join, List.flatMap_map]
    exact stand.text_eq
  simp only [VirtualShell.expandWord, same, expandSegment_name assigns.named, each, whole]

end Word.Assigns

/-! ## Assignments on a line -/

/-- An equals sign goes on with a word. -/
theorem Scan.finish_equals {scan : Scan} {draft : Draft} (opened : scan.draft = some draft)
    (rest : List Char) :
    scan.finish ('=' :: rest) =
      (⟨scan.position + 1, some (draft.addPlain ['=']), scan.tokens⟩ : Scan).finish rest := by
  have read : Lexeme.read scan.draft.isSome '=' rest = .ok ⟨.plain ['='], 1, Nat.one_pos⟩ := by
    rw [opened]
    rfl
  rw [finish_cons read]
  simp [advance, openDraft, opened]

theorem Becomes.assignment {name value : String} {chars : List Char} (named : isName name = true)
    (quotes : Quotes chars value.toList) :
    Becomes EndsWord (name.toList ++ '=' :: chars) fun tokens =>
      ∃ word, tokens = [.word word] ∧ word.Assigns name value := by
  obtain ⟨segments, stand, reads⟩ := quotes
  refine of_draft (fun found => found.settled.reverse = ⟨name ++ "=", .unquoted⟩ :: segments)
    (fun scan rest outside => ?_)
    fun found stop same => ⟨named, segments, same, stand⟩
  have bare := Scan.finish_bare outside (.ofName name named) ('=' :: (chars ++ rest))
  rw [Scan.finish_equals rfl, reads] at bare
  refine ⟨Scan.extended ⟨scan.position + name.toList.length + 1,
    some ⟨scan.position, [], '=' :: name.toList.reverse⟩, scan.tokens⟩ chars.length segments, _, ?_,
    rfl, rfl, ?_⟩
  · simp [Scan.openDraft, Draft.addQuoted, Draft.settled]
  · rw [List.append_assoc]
    exact bare

/-! ## Making assignments -/

/-- The variables after some assignments. -/
def assignedAll (environment : Environment) (pairs : List (String × String)) : Environment :=
  pairs.foldl (fun environment (name, value) => environment.insert name value) environment

/-- A variable has the value that is assigned to it, if each assignment to it has this value. -/
theorem get?_assignedAll {environment : Environment} {pairs : List (String × String)}
    {value : String → String} (each : ∀ pair ∈ pairs, pair.2 = value pair.1) (name : String) :
    (assignedAll environment pairs).get? name =
      if name ∈ pairs.map Prod.fst then some (value name) else environment.get? name := by
  induction pairs generalizing environment with
  | nil => rfl
  | cons pair pairs inductionHypothesis =>
      obtain ⟨own, others⟩ := List.forall_mem_cons.1 each
      have behind : assignedAll environment (pair :: pairs) =
          assignedAll (environment.insert pair.1 pair.2) pairs := rfl
      rw [behind, inductionHypothesis others, Table.get?_insert, own]
      by_cases later : name ∈ pairs.map Prod.fst
      · simp [later]
      · by_cases same : pair.1 = name
        · simp [same]
        · simp [later, same, Ne.symm same]

namespace Interpreter

variable {setup : Setup} {session : Session}

theorem run_assign {word : Word} {name value : String} (assigns : word.Assigns name value) :
    (assign word).run session = (.ok (), session.assign name value) := by
  unfold assign
  rw [run_bind, Redirect.run_expand]
  simp only [assigns.expandWord, cutAtEquals_append assigns.named]
  rfl

theorem run_forM_assign {words : List Word} {pairs : List (String × String)}
    (each : List.Forall₂ (fun word pair => word.Assigns pair.1 pair.2) words pairs) :
    (words.forM assign).run session =
      (.ok (), { session with environment := assignedAll session.environment pairs }) := by
  induction each generalizing session with
  | nil => rfl
  | cons assigns _ inductionHypothesis =>
      change (assign _ >>= fun _ => List.forM _ assign).run session = _
      rw [run_bind, run_assign assigns]
      exact inductionHypothesis

/-- A command of assignments makes them and prints nothing. -/
theorem run_runCommand_of_assignments {words : List Word} {pairs : List (String × String)}
    (each : List.Forall₂ (fun word pair => word.Assigns pair.1 pair.2) words pairs)
    (calls : Calls) (stdin : String) :
    (runCommand calls ⟨words, []⟩ stdin).run session =
      (.ok .success, { session with environment := assignedAll session.environment pairs }) := by
  have assignments : words.all isAssignment = true := by
    rw [List.all_eq_true]
    exact ((List.forall₂_and_left words pairs).1
      (each.imp fun _ _ assigns => ⟨assigns.isAssignment, assigns⟩)).1
  have ran : (runWords calls words stdin).run session =
      (.ok .success, { session with environment := assignedAll session.environment pairs }) := by
    cases each with
    | nil => rfl
    | cons assigns others =>
        simp only [runWords, assignments, if_true]
        rw [run_bind, run_forM_assign (.cons assigns others)]
        rfl
  unfold runCommand
  simp only [Redirect.readInput, pure_bind]
  rw [run_bind, ran]
  rfl

/-- A command on its own ends as the line that it is. -/
theorem run_runPipelines_of_command {calls : Calls} {command : SimpleCommand} {stdin : String}
    {lead : Lead} {outcome : Outcome} {between : Session} (allowed : lead.allows = true)
    (ran : (runCommand calls command stdin).run session = (.ok outcome, between)) :
    (runPipelines calls [⟨[⟨command, none, 0⟩]⟩] none stdin lead).run session =
      (.ok outcome, { between with lastExitCode := outcome.exitCode }) := by
  have pipeline : (runPipeline calls ⟨[⟨command, none, 0⟩]⟩ stdin lead false).run session =
      (.ok ⟨outcome, ""⟩, { between with lastExitCode := outcome.exitCode }) := by
    refine runPipeline_iff.2 ⟨[⟨[⟨command, none, 0⟩], some [outcome]⟩], rfl,
      areGated_cons.2 ⟨allowed.symm, areGated_nil _⟩, .executed (.cons ran .nil) rfl .nil, ?_⟩
    simp [sumUp, stdoutOf, stderrOf, codeAfter, Turn.last, Turn.stderr, Turn.code?, Turn.negations,
      negate]
  unfold runPipelines
  simp only [runLines, List.isEmpty_nil, Bool.and_true, if_true, bind_assoc, pure_bind]
  rw [run_bind, pipeline]
  simp [append, runTail, run_pure]

/-- A text that is read as assignments makes them. -/
theorem run_run_of_assignments {line : String} {words : List Word}
    {pairs : List (String × String)} (solid : Text.isBlankText line = false)
    (reads : Statement.read line = .ok (some ⟨.pipelines [⟨[⟨⟨words, []⟩, none, 0⟩]⟩], none⟩))
    (each : List.Forall₂ (fun word pair => word.Assigns pair.1 pair.2) words pairs)
    (below : session.commandCount < setup.limits.commandCount) (room : Nat) (stdin : String) :
    (run setup (room + 1) line stdin .initial).run session =
      (.ok .success,
        { session with
          commandCount := session.commandCount + 1
          environment := assignedAll session.environment pairs
          lastExitCode := 0 }) := by
  have counted : (countRun setup).run session =
      (.ok (), { session with commandCount := session.commandCount + 1 }) := by
    rw [run_countRun, if_neg (Nat.not_lt.2 below)]
  unfold run runText runRead
  rw [run_bind, counted]
  simp only [solid, Bool.false_eq_true, if_false, reads, runStatement]
  exact run_runPipelines_of_command rfl (run_runCommand_of_assignments each _ stdin)

/-- How many texts have been run when a line starts: a line from the host counts afresh. -/
def countAtStart (session : Session) : Nat :=
  if session.nesting == 0 && session.callDepth == 0 then 0 else session.commandCount

/-- A line that is read as assignments makes them, and leaves all else but the count of runs, the
events and `$?` as it was. -/
theorem execute_of_assignments {line : String} {words : List Word}
    {pairs : List (String × String)} (solid : Text.isBlankText line = false)
    (reads : Statement.read line = .ok (some ⟨.pipelines [⟨[⟨⟨words, []⟩, none, 0⟩]⟩], none⟩))
    (each : List.Forall₂ (fun word pair => word.Assigns pair.1 pair.2) words pairs)
    (below : countAtStart session < setup.limits.commandCount) (room : Nat) :
    ∃ count journal, (execute (run setup (room + 1)) line).run session =
      (.ok .success,
        { session with
          environment := assignedAll session.environment pairs
          commandCount := count
          lastExitCode := 0
          journal := journal }) := by
  have ran : ∀ begun : Session, begun.commandCount < setup.limits.commandCount →
      (runLine (run setup (room + 1)) line).run begun =
        (.ok .success,
          { begun with
            environment := assignedAll begun.environment pairs
            commandCount := begun.commandCount + 1
            lastExitCode := 0 }) := by
    intro begun fits
    have deeper : ({ begun with nesting := begun.nesting + 1 } : Session).commandCount <
        setup.limits.commandCount := fits
    have inner := run_run_of_assignments solid reads each deeper room ""
    unfold runLine
    rw [run_bind, run_modify]
    simp only [Engine.run_onExit, inner]
    rfl
  have begins : ∃ journal, (beginLine line).run session =
      (.ok (), { session with commandCount := 0, journal := journal }) := by
    unfold beginLine
    rw [run_bind, run_modify]
    exact ⟨_, by simp only [solid]; rfl⟩
  unfold countAtStart at below
  unfold execute
  rw [run_bind, run_get]
  dsimp only
  split
  case isTrue idle =>
    rw [if_pos idle] at below
    obtain ⟨journal, begun⟩ := begins
    rw [run_bind, begun]
    unfold endAtLimit
    simp only [run_tryCatch, ran { session with commandCount := 0, journal := journal } below]
    exact ⟨_, _, rfl⟩
  case isFalse busy =>
    rw [if_neg busy] at below
    exact ⟨_, _, ran session below⟩

end Interpreter

end VirtualShell
