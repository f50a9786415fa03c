import Mathlib.Data.List.Chain
import VirtualShell.Proofs.Interpreter.Runs

/-!
Contract: what each line of a script reads.

Owns:
- `Line`, one line of a script, and `ReadsScript`, the lines that a text is read as;
- `run_eq_runFed`: a script is one pass over its lines, wherever its texts are divided;
- `runScript`, where each line reads what the line before it has printed, and the scripts
  that run so.

Simple lines that follow each other are read together, up to a line that is something else;
from there on the text is read afresh. Inside such a stretch each line reads what the line
before it has printed. The line behind the stretch reads what all of the stretch has printed.
-/

namespace VirtualShell.Interpreter

open VirtualShell.Fallible

/-! ## Scripts -/

/-- One line of a script. Nothing stands on a blank one. -/
inductive Line where
  | blank
  | chain (pipeline : Pipeline)
  | compound (compound : Compound) (redirections : List Redirection)
  | function (name body : String)
deriving DecidableEq, Repr

/-- The lines that are read at once: simple ones that follow each other, or one that is
something else. -/
inductive Passage where
  | chains (first : Pipeline) (others : List Pipeline)
  | compound (compound : Compound) (redirections : List Redirection)
  | function (name body : String)
deriving DecidableEq, Repr

def Passage.body : Passage → StatementBody
  | .chains first others => .pipelines (first :: others)
  | .compound inner redirections => .compound inner redirections
  | .function name body => .function name body

def Passage.first : Passage → Line
  | .chains first _ => .chain first
  | .compound inner redirections => .compound inner redirections
  | .function name body => .function name body

def Passage.others : Passage → List Line
  | .chains _ others => others.map .chain
  | .compound _ _ | .function _ _ => []

/-- A line where it stands. `opensText` says that the text is read afresh from there on. -/
structure ScriptLine where
  opensText : Bool
  line : Line
deriving DecidableEq, Repr

/-- The lines of a passage, where they stand. -/
def Passage.lines (passage : Passage) : List ScriptLine :=
  ⟨true, passage.first⟩ :: passage.others.map (⟨false, ·⟩)

/-- A text is read as lines that only line breaks divide. -/
inductive ReadsScript : String → List ScriptLine → Prop where
  | nothing {text : String}
      (empty : Text.isBlankText text = true ∨ Statement.read text = .ok none) :
      ReadsScript text [⟨true, .blank⟩]
  | last {text : String} {passage : Passage} (filled : Text.isBlankText text = false)
      (read : Statement.read text = .ok (some ⟨passage.body, none⟩)) :
      ReadsScript text passage.lines
  | behind {text behind : String} {passage : Passage} {rest : List ScriptLine}
      (filled : Text.isBlankText text = false)
      (read : Statement.read text = .ok (some ⟨passage.body, some ⟨.newline, behind⟩⟩))
      (onward : ReadsScript behind rest) : ReadsScript text (passage.lines ++ rest)

/-! ## One pass over the lines -/

/-- Runs what its lead decides about as a whole. -/
def runLed (lead : Lead) (work : Engine Outcome) : Engine Outcome :=
  if lead.allows then do
    let outcome ← work
    setLastExitCode outcome.exitCode
    return outcome
  else return skipped lead

def Line.run (setup : Setup) (calls : Calls) (line : Line) (stdin : String) (lead : Lead) :
    Engine Outcome :=
  match line with
  | .blank => return .success
  | .chain pipeline => Held.outcome <$> runPipeline calls pipeline stdin lead false
  | .compound inner redirections => runLed lead (runCompound setup calls inner redirections stdin)
  | .function name body => runLed lead (defineFunction name body)

/-- How far a script has come: what it has printed and its exit code, what the line before
has printed, what the lines read together with that line have printed up to there, and how
deep runs can still nest. -/
structure Progress where
  outcome : Outcome
  printed : String
  gathered : String
  room : Nat

/-- How a script starts. Its first line reads what the script reads. -/
def Progress.initial (stdin : String) (previous : ExitCode) (room : Nat) : Progress :=
  ⟨⟨"", "", previous⟩, stdin, stdin, room⟩

/-- Counts the text that a line opens; the rest is how deep runs can nest in the line. -/
def ScriptLine.enter (setup : Setup) (line : ScriptLine) (room : Nat) : Engine Nat :=
  match line.opensText, room with
  | false, room => return room
  | true, 0 => throw .nestingSpent
  | true, room + 1 => do
      countRun setup
      return room

/-- The progress of a script with the outcome of one more line. -/
def Progress.extend (progress : Progress) (line : ScriptLine) (room : Nat) (outcome : Outcome) :
    Progress :=
  ⟨append progress.outcome outcome, outcome.stdout,
    if line.opensText then outcome.stdout else progress.gathered ++ outcome.stdout, room⟩

/-- Runs the lines of a script one after the other. `feed` says what a line reads. -/
def runFed (setup : Setup) (feed : ScriptLine → Progress → String) (gate : Gate)
    (progress : Progress) : List ScriptLine → Engine Progress
  | [] => return progress
  | line :: rest => do
      let room ← line.enter setup progress.room
      let outcome ← line.line.run setup (callsAt setup room) (feed line progress)
        ⟨gate, progress.outcome.exitCode⟩
      runFed setup feed .always (progress.extend line room outcome) rest

/-- What the shell gives a line to read. -/
def ScriptLine.input (line : ScriptLine) (progress : Progress) : String :=
  if line.opensText then progress.gathered else progress.printed

/-- Runs the lines of a script. Each one reads what the line before it has printed. -/
def runScript (setup : Setup) : Gate → Progress → List ScriptLine → Engine Progress :=
  runFed setup fun _ progress => progress.printed

/-- Runs lines that are read together, behind what has been printed before. Each one reads
what the line before it has printed. -/
def runTogether (setup : Setup) (calls : Calls) (stdin : String) (gate : Gate)
    (before : Outcome) : List Line → Engine Outcome
  | [] => return before
  | line :: rest => do
      let outcome ← line.run setup calls stdin ⟨gate, before.exitCode⟩
      runTogether setup calls outcome.stdout .always (append before outcome) rest

section

variable {setup : Setup}

/-! ### Passages -/

theorem runLines_eq_runTogether (calls : Calls) (stdin : String) (gate : Gate)
    (before : Outcome) (pipelines : List Pipeline) :
    Held.outcome <$> runLines calls stdin false gate before pipelines =
      runTogether setup calls stdin gate before (pipelines.map .chain) := by
  induction pipelines generalizing stdin gate before with
  | nil => simp [runLines, runTogether]
  | cons pipeline rest inductionHypothesis =>
      simp only [runLines, Bool.false_and, List.map_cons, runTogether, Line.run, map_bind,
        bind_map_left]
      congr 1
      funext result
      cases rest with
      | nil => simp [runTogether]
      | cons next rest =>
          exact inductionHypothesis result.outcome.stdout .always (append before result.outcome)

/-- A statement is the lines of its passage, and the text on the next line. -/
theorem runStatement_passage (calls : Calls) (passage : Passage) {tail : Option Tail}
    (apart : tailPiped tail = false) (stdin : String) (lead : Lead) :
    runStatement setup calls ⟨passage.body, tail⟩ stdin lead =
      runTogether setup calls stdin lead.gate ⟨"", "", lead.previous⟩
          (passage.first :: passage.others) >>= fun outcome =>
        runTail calls outcome stdin tail := by
  cases passage with
  | chains first others =>
      have together :
          Held.outcome <$> runLines calls stdin false lead.gate ⟨"", "", lead.previous⟩
              (first :: others) =
            runTogether setup calls stdin lead.gate ⟨"", "", lead.previous⟩
              ((first :: others).map .chain) :=
        runLines_eq_runTogether ..
      simp only [Passage.first, Passage.others, ← List.map_cons, ← together, bind_map_left]
      rcases tail with _ | ⟨_ | _ | gate, text⟩
      · rfl
      · simp [tailPiped] at apart
      · rfl
      · rfl
  | compound inner redirections =>
      by_cases allowed : lead.allows = true <;>
        simp [runStatement, Passage.body, Passage.first, Passage.others, runTogether, Line.run,
          runLed, allowed, append_blank]
  | function name body =>
      by_cases allowed : lead.allows = true <;>
        simp [runStatement, Passage.body, Passage.first, Passage.others, runTogether, Line.run,
          runLed, allowed, append_blank]

/-! ### Texts -/

/-- A progress behind the output of something that ran before. -/
def Progress.behind (first : Outcome) (progress : Progress) : Progress :=
  { progress with outcome := append first progress.outcome }

theorem Progress.behind_initial (first : Outcome) (stdin : String) (room : Nat) :
    (Progress.initial stdin first.exitCode room).behind first =
      ⟨first, stdin, stdin, room⟩ := by
  simp [Progress.behind, Progress.initial, append]

/-- What has been printed before stands in front of what a script prints. -/
theorem runFed_behind (first : Outcome) (gate : Gate) (progress : Progress)
    (lines : List ScriptLine) :
    runFed setup ScriptLine.input gate (progress.behind first) lines =
      Progress.behind first <$> runFed setup ScriptLine.input gate progress lines := by
  induction lines generalizing gate progress with
  | nil => simp [runFed]
  | cons line rest inductionHypothesis =>
      have extended (room : Nat) (outcome : Outcome) :
          (progress.behind first).extend line room outcome =
            (progress.extend line room outcome).behind first := by
        simp [Progress.extend, Progress.behind, append_assoc]
      simp only [runFed, map_bind, extended, inductionHypothesis]
      rfl

/-- Whether the text is read afresh from the first of some lines on. -/
def OpensText (lines : List ScriptLine) : Prop :=
  ∀ line ∈ lines.head?, line.opensText = true

theorem ReadsScript.opensText {text : String} {lines : List ScriptLine}
    (reads : ReadsScript text lines) : OpensText lines := by
  cases reads <;> simp [OpensText, Passage.lines]

/-- What the last line has printed does not matter where the text is read afresh. -/
theorem runFed_opensText {lines : List ScriptLine} (opens : OpensText lines) (gate : Gate)
    (progress : Progress) (printed : String) :
    Progress.outcome <$> runFed setup ScriptLine.input gate { progress with printed := printed }
        lines =
      Progress.outcome <$> runFed setup ScriptLine.input gate progress lines := by
  cases lines with
  | nil => simp [runFed]
  | cons line rest =>
      have opened : line.opensText = true := opens line rfl
      simp [runFed, ScriptLine.input, Progress.extend, opened]

/-- Lines that are read together with one before them. What they have printed so far is all
that counts for the line behind them. -/
theorem runFed_others {behind : List ScriptLine} (opens : OpensText behind) (stdin : String)
    (before : Outcome) (room : Nat) (lines : List Line) :
    Progress.outcome <$>
        runFed setup ScriptLine.input .always ⟨before, stdin, before.stdout, room⟩
          (lines.map (⟨false, ·⟩) ++ behind) =
      runTogether setup (callsAt setup room) stdin .always before lines >>= fun after =>
        Progress.outcome <$>
          runFed setup ScriptLine.input .always ⟨after, after.stdout, after.stdout, room⟩
            behind := by
  induction lines generalizing stdin before with
  | nil =>
      exact (runFed_opensText opens .always ⟨before, stdin, before.stdout, room⟩ _).symm
  | cons line rest inductionHypothesis =>
      simp only [List.map_cons, List.cons_append, runFed, runTogether, map_bind, bind_assoc]
      simp only [ScriptLine.enter, pure_bind]
      congr 1
      funext outcome
      exact inductionHypothesis outcome.stdout (append before outcome)

theorem runFed_passage {behind : List ScriptLine} (opens : OpensText behind) (stdin : String)
    (lead : Lead) (room : Nat) (passage : Passage) :
    Progress.outcome <$>
        runFed setup ScriptLine.input lead.gate (.initial stdin lead.previous (room + 1))
          (passage.lines ++ behind) =
      countRun setup >>= fun _ =>
        runTogether setup (callsAt setup room) stdin lead.gate ⟨"", "", lead.previous⟩
            (passage.first :: passage.others) >>= fun after =>
          Progress.outcome <$>
            runFed setup ScriptLine.input .always ⟨after, after.stdout, after.stdout, room⟩
              behind := by
  simp only [Passage.lines, List.cons_append, runFed, runTogether, map_bind, bind_assoc]
  simp only [ScriptLine.enter, Progress.initial, bind_assoc, pure_bind]
  congr 1
  funext _
  congr 1
  funext outcome
  have extended : Progress.extend ⟨⟨"", "", lead.previous⟩, stdin, stdin, room + 1⟩
      ⟨true, passage.first⟩ room outcome = ⟨outcome, outcome.stdout, outcome.stdout, room⟩ := by
    simp [Progress.extend, append_blank]
  rw [extended, append_blank]
  exact runFed_others opens outcome.stdout outcome room passage.others

/-- A script is its first passage and what follows it, once what follows is a pass as well. -/
theorem run_eq_of_onward {text : String} {passage : Passage} {tail : Option Tail}
    {behind : List ScriptLine} (filled : Text.isBlankText text = false)
    (read : Statement.read text = .ok (some ⟨passage.body, tail⟩))
    (apart : tailPiped tail = false) (opens : OpensText behind) (stdin : String) (lead : Lead)
    (onward : ∀ room outcome, runTail (callsAt setup room) outcome stdin tail =
      Progress.outcome <$>
        runFed setup ScriptLine.input .always ⟨outcome, outcome.stdout, outcome.stdout, room⟩
          behind)
    (room : Nat) :
    run setup room text stdin lead =
      Progress.outcome <$>
        runFed setup ScriptLine.input lead.gate (.initial stdin lead.previous room)
          (passage.lines ++ behind) := by
  cases room with
  | zero => rfl
  | succ room =>
      rw [run_of_read filled read, runFed_passage opens]
      congr 1
      funext _
      rw [runStatement_passage (callsAt setup room) passage apart]
      congr 1
      funext outcome
      exact onward room outcome

theorem run_of_nothing {text : String}
    (empty : Text.isBlankText text = true ∨ Statement.read text = .ok none) (stdin : String)
    (lead : Lead) (room : Nat) :
    run setup (room + 1) text stdin lead = countRun setup >>= fun _ => return .success := by
  obtain blank | read := empty
  · simp [run, runText, runRead, blank]
  · simp [run, runText, runRead, read]

/-- A script is one pass over its lines. -/
theorem run_eq_runFed {text : String} {lines : List ScriptLine} (reads : ReadsScript text lines)
    (stdin : String) (lead : Lead) (room : Nat) :
    run setup room text stdin lead =
      Progress.outcome <$>
        runFed setup ScriptLine.input lead.gate (.initial stdin lead.previous room) lines := by
  induction reads generalizing stdin lead room with
  | @nothing text empty =>
      cases room with
      | zero => rfl
      | succ room => simp [run_of_nothing empty, runFed, ScriptLine.enter, Progress.initial,
          Progress.extend, Line.run, append_blank]
  | @last text passage filled read =>
      rw [← List.append_nil passage.lines]
      refine run_eq_of_onward filled read rfl (by simp [OpensText]) stdin lead
        (fun room outcome => ?_) room
      simp [runTail, runFed]
  | @behind text behind passage rest filled read onward inductionHypothesis =>
      refine run_eq_of_onward filled read rfl onward.opensText stdin lead
        (fun room outcome => ?_) room
      -- What follows runs as a script of its own; `behind` puts the output so far in front.
      show append outcome <$> run setup room behind outcome.stdout ⟨.always, outcome.exitCode⟩ = _
      rw [inductionHypothesis, ← Progress.behind_initial, runFed_behind]
      simp [Progress.behind]

/-! ### What each line reads -/

/-- A line that is read afresh reads what the line before it has printed, if that line was
read alone. -/
theorem runFed_eq_runScript {lines : List ScriptLine}
    (alone : lines.IsChain fun before line => line.opensText → before.opensText)
    (gate : Gate) {progress : Progress}
    (fresh : ∀ line ∈ lines.head?, line.opensText → progress.gathered = progress.printed) :
    runFed setup ScriptLine.input gate progress lines = runScript setup gate progress lines := by
  unfold runScript
  induction lines generalizing gate progress with
  | nil => rfl
  | cons line rest inductionHypothesis =>
      have input : line.input progress = progress.printed := by
        by_cases opens : line.opensText = true
        · simp [ScriptLine.input, opens, fresh line rfl opens]
        · simp [ScriptLine.input, opens]
      simp only [runFed, input]
      congr 1
      funext room
      congr 1
      funext outcome
      refine inductionHypothesis alone.tail .always fun next among opens => ?_
      have opened : line.opensText = true := by
        cases rest with
        | nil => simp at among
        | cons head others =>
            obtain rfl : head = next := by simpa using among
            exact (List.isChain_cons_cons.1 alone).1 opens
      simp [Progress.extend, opened]

/-- Each line of a script reads what the line before it has printed, if no line that is
read afresh is behind lines that were read together. -/
theorem run_eq_runScript {text : String} {lines : List ScriptLine}
    (reads : ReadsScript text lines)
    (alone : lines.IsChain fun before line => line.opensText → before.opensText)
    (stdin : String) (lead : Lead) (room : Nat) :
    run setup room text stdin lead =
      Progress.outcome <$>
        runScript setup lead.gate (.initial stdin lead.previous room) lines := by
  rw [run_eq_runFed reads, runFed_eq_runScript alone lead.gate fun _ _ _ => rfl]

end

/-- A compound statement between two simple lines. -/
theorem run_eq_runScript_compound :
    ∃ lines, ReadsScript "echo a\nif true; then cat; fi\ncat" lines ∧
      (lines.IsChain fun before line => line.opensText → before.opensText) ∧
      run librarySetup 4 "echo a\nif true; then cat; fi\ncat" "" .initial =
        Progress.outcome <$> runScript librarySetup .always (.initial "" 0 4) lines := by
  have simple : ReadsScript "cat"
      (Passage.lines (.chains ⟨[⟨⟨[⟨[⟨"cat", .unquoted⟩], 0, 3⟩], []⟩, none, 0⟩]⟩ [])) :=
    .last (by decide +kernel) (eq_ok_of_toOption (by decide +kernel))
  have compound : ReadsScript "if true; then cat; fi\ncat"
      (Passage.lines (.compound (.conditional [⟨some "true", "cat"⟩]) []) ++ _) :=
    .behind (by decide +kernel) (eq_ok_of_toOption (by decide +kernel)) simple
  have reads : ReadsScript "echo a\nif true; then cat; fi\ncat"
      (Passage.lines (.chains
        ⟨[⟨⟨[⟨[⟨"echo", .unquoted⟩], 0, 4⟩, ⟨[⟨"a", .unquoted⟩], 5, 6⟩], []⟩,
          none, 0⟩]⟩ []) ++ _) :=
    .behind (by decide +kernel) (eq_ok_of_toOption (by decide +kernel)) compound
  exact ⟨_, reads, by decide, run_eq_runScript reads (by decide) "" .initial 4⟩

/-- A compound statement behind two simple lines reads what both of them have printed. -/
theorem exists_run_ne_runScript :
    ∃ lines, ReadsScript "echo a\necho b\nif true; then cat; fi" lines ∧
      ((run librarySetup 4 "echo a\necho b\nif true; then cat; fi" "" .initial).run
          bareShell.session).1.toOption = some ⟨"a\nb\na\nb\n", "", 0⟩ ∧
      ((runScript librarySetup .always (.initial "" 0 4) lines).run
          bareShell.session).1.toOption.map Progress.outcome = some ⟨"a\nb\nb\n", "", 0⟩ := by
  have compound : ReadsScript "if true; then cat; fi"
      (Passage.lines (.compound (.conditional [⟨some "true", "cat"⟩]) [])) :=
    .last (by decide +kernel) (eq_ok_of_toOption (by decide +kernel))
  have reads : ReadsScript "echo a\necho b\nif true; then cat; fi"
      (Passage.lines (.chains
        ⟨[⟨⟨[⟨[⟨"echo", .unquoted⟩], 0, 4⟩, ⟨[⟨"a", .unquoted⟩], 5, 6⟩], []⟩, none, 0⟩]⟩
        [⟨[⟨⟨[⟨[⟨"echo", .unquoted⟩], 7, 11⟩, ⟨[⟨"b", .unquoted⟩], 12, 13⟩], []⟩,
          none, 0⟩]⟩]) ++ _) :=
    .behind (by decide +kernel) (eq_ok_of_toOption (by decide +kernel)) compound
  exact ⟨_, reads, by decide +kernel, by decide +kernel⟩

end VirtualShell.Interpreter
