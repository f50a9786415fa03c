import VirtualShell.Interpreter

/-!
Contract: how the commands and compound statements of one line are chained.

Owns:
- `Chain`, a line as it is read part by part, and `Link`, what one gate and one row of
  exclamation marks act on: simple commands that pipes join, or a compound statement;
- `run_eq_runLinks`: a line is one pass over its links, wherever its texts are divided.

A text is divided in front of each compound statement and behind it. Behind a pipe a link
always runs; its input is what the link before it has printed, and that is the input of
the rest of the line from there on.
-/

namespace VirtualShell.Interpreter

/-! ## Lines that are chains -/

/-- What is read at once: simple commands that pipes and gates join, or a compound statement. -/
inductive Part where
  | stages (first : Stage) (others : List Stage)
  | compound (compound : Compound) (redirections : List Redirection)
deriving DecidableEq, Repr

/-- Parts, each joined to the next one. -/
inductive Chain where
  | last (part : Part)
  | joined (part : Part) (joint : Joint) (rest : Chain)
deriving DecidableEq, Repr

/-- The statement that a part is. -/
def Part.body : Part → StatementBody
  | .stages first others => .pipelines [⟨first :: others⟩]
  | .compound inner redirections => .compound inner redirections

/-- A text is read as parts that no line break divides, one after the other. -/
inductive ReadsAs : String → Chain → Prop where
  | last {text : String} {part : Part} (filled : Text.isBlankText text = false)
      (read : Statement.read text = .ok (some ⟨part.body, none⟩)) : ReadsAs text (.last part)
  | joined {text behind : String} {part : Part} {joint : Joint} {rest : Chain}
      (filled : Text.isBlankText text = false)
      (read : Statement.read text = .ok (some ⟨part.body, some ⟨joint, behind⟩⟩))
      (sameLine : joint ≠ .newline) (onward : ReadsAs behind rest) :
      ReadsAs text (.joined part joint rest)

/-! ## Links -/

/-- What a link runs. -/
inductive Work where
  | commands (stages : List Stage)
  | compound (compound : Compound) (redirections : List Redirection)
deriving DecidableEq, Repr

/-- What one gate and one row of exclamation marks act on. `opensText` says that a text of
its own starts with it. -/
structure Link where
  joint : Joint
  opensText : Bool
  negations : Nat
  work : Work
deriving DecidableEq, Repr

/-- The links of a pipeline, the first one behind a gate. -/
def groupLinks (gate : Gate) : List (Stage × List Stage) → List Link
  | [] => []
  | (stage, others) :: rest =>
      ⟨.gate gate, false, stage.negations, .commands (stage :: others)⟩ ::
        groupLinks ((rest.head?.bind fun group => group.1.gate).getD .always) rest

/-- The links of a part, the first one behind a gate. -/
def Part.links (gate : Gate) : Part → List Link
  | .stages first others => groupLinks gate (groupStages (first :: others))
  | .compound inner redirections => [⟨.gate gate, false, 0, .compound inner redirections⟩]

/-- Links with which a text starts behind a joint. -/
def openText (joint : Joint) : List Link → List Link
  | [] => []
  | link :: rest => { link with joint := joint, opensText := true } :: rest

/-- The links of a line behind a joint. -/
def Chain.links (joint : Joint) : Chain → List Link
  | .last part => openText joint (part.links .always)
  | .joined part next rest => openText joint (part.links .always) ++ rest.links next

/-! ## One pass over the links -/

/-- How far a line has come: what it has printed and its exit code, what is held back for
the next link, the input of the rest, and how deep runs can still nest. -/
structure Standing where
  outcome : Outcome
  held : String
  input : String
  room : Nat

/-- How a line starts. -/
def Standing.initial (stdin : String) (previous : ExitCode) (room : Nat) : Standing :=
  ⟨⟨"", "", previous⟩, "", stdin, room⟩

/-- Calls from a text below which so many runs can nest. -/
def callsAt (setup : Setup) (room : Nat) : Calls :=
  ⟨run setup room, dispatch setup (run setup room)⟩

/-- Runs what a link holds. -/
def runWork (setup : Setup) (room : Nat) (work : Work) (input : String) : Engine Outcome :=
  match work with
  | .commands stages => runPiped (callsAt setup room) input "" stages
  | .compound inner redirections =>
      runCompound setup (callsAt setup room) inner redirections input

/-- Whether a link runs after an exit code. -/
def Link.runsAfter (link : Link) (previous : ExitCode) : Bool :=
  match link.joint with
  | .gate gate => gate.allows previous
  | .pipe | .newline => true

/-- The input of a link: what is held back for it, or what the rest of the line has. -/
def Link.input (link : Link) (standing : Standing) : String :=
  if link.joint = .pipe then standing.held else standing.input

/-- Whether a pipe leads to the links. -/
def startsPiped (links : List Link) : Bool :=
  links.head?.any fun link => link.joint = .pipe

/-- Counts the text that a link opens; the rest is how deep runs can nest in it. -/
def enter (setup : Setup) (link : Link) (room : Nat) : Engine Nat :=
  if link.opensText then
    match room with
    | 0 => throw .nestingSpent
    | room + 1 => do
        countRun setup
        return room
  else return room

/-- An outcome, its output held back if a pipe follows. -/
def holdBack (piped : Bool) (outcome : Outcome) : Held :=
  if piped then ⟨⟨"", outcome.stderr, outcome.exitCode⟩, outcome.stdout⟩ else ⟨outcome, ""⟩

/-- Runs a link. The exit code is turned round by an odd number of exclamation marks. -/
def runMember (setup : Setup) (link : Link) (negations : Nat) (piped : Bool)
    (standing : Standing) : Engine Standing := do
  let room ← enter setup link standing.room
  let input := link.input standing
  let outcome ← runWork setup room link.work input
  let code := negate negations outcome.exitCode
  setLastExitCode code
  let after := holdBack piped ⟨outcome.stdout, outcome.stderr, code⟩
  return ⟨append standing.outcome after.outcome, after.held, input, room⟩

/-- Leaves a link out: nothing is printed, and the exit code stays. -/
def skipMember (setup : Setup) (link : Link) (standing : Standing) : Engine Standing := do
  let room ← enter setup link standing.room
  return ⟨standing.outcome, "", link.input standing, room⟩

/-- Runs a link, or leaves it out. -/
def runLink (setup : Setup) (link : Link) (piped : Bool) (standing : Standing) :
    Engine Standing :=
  if link.runsAfter standing.outcome.exitCode then
    runMember setup link link.negations piped standing
  else skipMember setup link standing

/-- Runs the links of a line one after the other. -/
def runLinks (setup : Setup) (standing : Standing) : List Link → Engine Standing
  | [] => return standing
  | link :: rest => do
      let after ← runLink setup link (startsPiped rest) standing
      runLinks setup after rest

/-- Runs the links of a line for their outcome. -/
def passLinks (setup : Setup) (standing : Standing) (links : List Link) :
    Engine Outcome :=
  Standing.outcome <$> runLinks setup standing links

section

variable {setup : Setup}

/-! ### What has been printed before -/

theorem append_assoc (first second third : Outcome) :
    append (append first second) third = append first (append second third) := by
  simp [append, String.append_assoc]

theorem append_blank (outcome : Outcome) (code : ExitCode) :
    append ⟨"", "", code⟩ outcome = outcome := by
  simp [append]

/-- A standing behind the output of something that ran before. -/
def Standing.behind (first : Outcome) (standing : Standing) : Standing :=
  { standing with outcome := append first standing.outcome }

theorem Standing.behind_initial (first : Outcome) (stdin : String) (code : ExitCode) (room : Nat) :
    (Standing.initial stdin code room).behind first =
      ⟨{ first with exitCode := code }, "", stdin, room⟩ := by
  simp [Standing.behind, Standing.initial, append]

theorem runLink_behind (link : Link) (piped : Bool) (first : Outcome)
    (standing : Standing) :
    runLink setup link piped (standing.behind first) =
      Standing.behind first <$> runLink setup link piped standing := by
  show (if link.runsAfter standing.outcome.exitCode then _ else _) = _
  unfold runLink
  split
  · simp [runMember, Standing.behind, Link.input, append_assoc]
  · simp [skipMember, Standing.behind, Link.input]

/-- What has been printed before stands in front of what the links print. -/
theorem runLinks_behind (first : Outcome) (standing : Standing) (links : List Link) :
    runLinks setup (standing.behind first) links =
      Standing.behind first <$> runLinks setup standing links := by
  induction links generalizing standing with
  | nil => simp [runLinks]
  | cons link rest inductionHypothesis =>
      simp [runLinks, runLink_behind, inductionHypothesis]

theorem passLinks_behind (first : Outcome) (standing : Standing) (links : List Link) :
    passLinks setup (standing.behind first) links =
      append first <$> passLinks setup standing links := by
  unfold passLinks
  rw [runLinks_behind]
  simp [Standing.behind]

/-! ### The first link -/

/-- Behind a gate it does not matter what is held back. -/
theorem runLink_gate (link : Link) (gate : Gate) (piped : Bool) (standing : Standing)
    (held : String) :
    runLink setup { link with joint := .gate gate } piped { standing with held := held } =
      runLink setup { link with joint := .gate gate } piped standing := by
  simp [runLink, runMember, skipMember, enter, Link.input, Link.runsAfter]

/-- A pipe leads to a link as a gate would if the input were what is held back; the exit
code before it does not matter. -/
theorem runLink_pipe (link : Link) (piped : Bool) (standing : Standing) (code : ExitCode) :
    runLink setup { link with joint := .pipe } piped standing =
      runLink setup { link with joint := .gate .always } piped
        { standing with
          outcome := { standing.outcome with exitCode := code }, input := standing.held } := by
  simp [runLink, runMember, enter, Link.input, Link.runsAfter, Gate.allows, append]

/-! ### Groups of commands -/

theorem startsPiped_groupLinks (gate : Gate) (groups : List (Stage × List Stage))
    (behind : List Link) :
    startsPiped (groupLinks gate groups ++ behind) = (startsPiped behind && groups.isEmpty) := by
  cases groups with
  | nil => simp [groupLinks]
  | cons group rest => simp [groupLinks, startsPiped]

/-- The groups of a pipeline are run as links. -/
theorem runLinks_groups (behind : List Link) (input : String) (room : Nat) (gate : Gate)
    (before : Outcome) (groups : List (Stage × List Stage)) :
    runLinks setup ⟨before, "", input, room⟩ (groupLinks gate groups ++ behind) =
      runGroups (callsAt setup room) input (startsPiped behind) gate before groups >>= fun after =>
        runLinks setup ⟨after.outcome, after.held, input, room⟩ behind := by
  induction groups generalizing gate before with
  | nil => simp [groupLinks, runGroups]
  | cons group rest inductionHypothesis =>
      obtain ⟨stage, others⟩ := group
      simp only [groupLinks, List.cons_append, runLinks, runGroups,
        startsPiped_groupLinks, runLink, Link.runsAfter]
      by_cases allowed : gate.allows before.exitCode = true
      · simp only [allowed, Bool.not_true, if_true, if_false, Bool.false_eq_true, runMember, enter,
          Link.input, runWork, pure_bind, bind_assoc, reduceCtorEq, holdBack]
        congr 1
        funext outcome
        congr 1
        funext _
        -- Only the last group of a pipeline can have its output held back.
        cases rest with
        | nil =>
            by_cases piped : startsPiped behind = true <;>
              simp [piped, groupLinks, runGroups, append]
        | cons next rest => simp [inductionHypothesis]
      · simp [allowed, skipMember, enter, Link.input, inductionHypothesis]

/-! ### Parts -/

/-- Runs a part; the output of its last link is held back if a pipe follows. -/
def runPart (setup : Setup) (calls : Calls) (part : Part) (stdin : String) (lead : Lead)
    (piped : Bool) : Engine Held :=
  match part with
  | .stages first others => runPipeline calls ⟨first :: others⟩ stdin lead piped
  | .compound inner redirections =>
      if lead.allows then do
        let outcome ← runCompound setup calls inner redirections stdin
        setLastExitCode outcome.exitCode
        return holdBack piped outcome
      else return holdBack piped (skipped lead)

/-- Runs the text that follows a part. -/
def runBehind (calls : Calls) (stdin : String) (after : Held) : Option Tail → Engine Outcome
  | none => return after.outcome
  | some ⟨.pipe, text⟩ => append after.outcome <$> calls.run text after.held .initial
  | some ⟨.newline, text⟩ =>
      append after.outcome <$>
        calls.run text after.outcome.stdout ⟨.always, after.outcome.exitCode⟩
  | some ⟨.gate gate, text⟩ =>
      append after.outcome <$> calls.run text stdin ⟨gate, after.outcome.exitCode⟩

/-- Whether a pipe leads to the text that follows a part. -/
def tailPiped (tail : Option Tail) : Bool :=
  tail.any fun tail => tail.joint = .pipe

theorem runTail_eq_runBehind (calls : Calls) (outcome : Outcome) (stdin : String)
    (tail : Option Tail) :
    runTail calls outcome stdin tail =
      runBehind calls stdin (holdBack (tailPiped tail) outcome) tail := by
  rcases tail with _ | ⟨_ | _ | gate, text⟩
  · rfl
  · have held (rest : Outcome) : append ⟨"", outcome.stderr, outcome.exitCode⟩ rest =
        ⟨rest.stdout, outcome.stderr ++ rest.stderr, rest.exitCode⟩ := by simp [append]
    simp [runTail, runBehind, tailPiped, holdBack, ← held]
  · simp only [runTail, runBehind, map_eq_pure_bind]
    rfl
  · simp only [runTail, runBehind, map_eq_pure_bind]
    rfl

/-- A statement is its part, and what follows it. -/
theorem runStatement_part (calls : Calls) (part : Part) (tail : Option Tail) (stdin : String)
    (lead : Lead) :
    runStatement setup calls ⟨part.body, tail⟩ stdin lead =
      runPart setup calls part stdin lead (tailPiped tail) >>= fun after =>
        runBehind calls stdin after tail := by
  cases part with
  | stages first others =>
      rcases tail with _ | ⟨_ | _ | gate, text⟩ <;>
        simp [runStatement, Part.body, runPipelines, runLines, runPart, tailPiped, runBehind,
          runTail, append_blank]
  | compound inner redirections =>
      by_cases allowed : lead.allows = true <;>
        simp [runStatement, Part.body, runPart, allowed, runTail_eq_runBehind]

theorem runLinks_part (behind : List Link) (stdin : String) (room : Nat) (lead : Lead)
    (part : Part) :
    runLinks setup (.initial stdin lead.previous room) (part.links lead.gate ++ behind) =
      runPart setup (callsAt setup room) part stdin lead (startsPiped behind) >>= fun after =>
        runLinks setup ⟨after.outcome, after.held, stdin, room⟩ behind := by
  cases part with
  | stages first others => exact runLinks_groups behind stdin room lead.gate _ _
  | compound inner redirections =>
      by_cases allowed : lead.gate.allows lead.previous = true
      · simp [Part.links, runLinks, runLink, Link.runsAfter, Standing.initial, runPart,
          Lead.allows, allowed, runMember, enter, Link.input, runWork, negate, append_blank]
      · simp [Part.links, runLinks, runLink, Link.runsAfter, Standing.initial, runPart,
          Lead.allows, allowed, skipMember, enter, Link.input, skipped, holdBack]

/-! ### Texts -/

/-- A part starts with a link that opens no text, whatever its gate is. -/
theorem Part.exists_links (part : Part) :
    ∃ (link : Link) (rest : List Link), link.opensText = false ∧
      ∀ gate, part.links gate = { link with joint := .gate gate } :: rest := by
  cases part with
  | stages first others =>
      obtain ⟨⟨stage, members⟩, groups, grouped⟩ :
          ∃ group groups, groupStages (first :: others) = group :: groups := by
        unfold groupStages
        split
        · split <;> exact ⟨_, _, rfl⟩
        · exact ⟨_, _, rfl⟩
      refine ⟨⟨.pipe, false, stage.negations, .commands (stage :: members)⟩,
        groupLinks ((groups.head?.bind fun group => group.1.gate).getD .always) groups,
        rfl, fun gate => ?_⟩
      show groupLinks gate (groupStages (first :: others)) = _
      rw [grouped]
      rfl
  | compound inner redirections =>
      exact ⟨⟨.pipe, false, 0, .compound inner redirections⟩, [], rfl, fun gate => rfl⟩

/-- The run of a text is counted in front of the first link. -/
theorem runLink_opensText (link : Link) (closed : link.opensText = false)
    (piped : Bool) (standing : Standing) (room : Nat) :
    runLink setup { link with opensText := true } piped { standing with room := room + 1 } =
      countRun setup >>= fun _ =>
        runLink setup link piped { standing with room := room } := by
  show (if link.runsAfter standing.outcome.exitCode then _ else _) = _
  unfold runLink
  split
  · simp [runMember, enter, closed, Link.input]
  · simp [skipMember, enter, closed, Link.input]

theorem runLinks_openText (gate : Gate) (part : Part) (behind : List Link)
    (standing : Standing) (room : Nat) :
    runLinks setup { standing with room := room + 1 }
        (openText (.gate gate) (part.links .always) ++ behind) =
      countRun setup >>= fun _ =>
        runLinks setup { standing with room := room } (part.links gate ++ behind) := by
  obtain ⟨link, rest, closed, links⟩ := part.exists_links
  rw [links, links]
  let gated : Link := { link with joint := .gate gate }
  have opened (piped : Bool) :
      runLink setup { gated with opensText := true } piped { standing with room := room + 1 } =
        countRun setup >>= fun _ =>
          runLink setup gated piped { standing with room := room } :=
    runLink_opensText gated closed piped standing room
  simp only [openText, List.cons_append, runLinks]
  rw [opened, bind_assoc]

theorem runLinks_noRoom (gate : Gate) (part : Part) (behind : List Link)
    {standing : Standing} (spent : standing.room = 0) :
    runLinks setup standing (openText (.gate gate) (part.links .always) ++ behind) =
      throw .nestingSpent := by
  obtain ⟨link, rest, closed, links⟩ := part.exists_links
  rw [links]
  simp only [openText, List.cons_append, runLinks, runLink, runMember, skipMember, enter,
    spent]
  split <;> rfl

/-- Only the joint of the first link of a line depends on what leads to the line. -/
theorem Chain.exists_links (chain : Chain) :
    ∃ (link : Link) (rest : List Link),
      ∀ joint, chain.links joint = { link with joint := joint } :: rest := by
  cases chain with
  | last part =>
      obtain ⟨link, rest, -, links⟩ := part.exists_links
      refine ⟨{ link with opensText := true }, rest, fun joint => ?_⟩
      rw [Chain.links, links]
      rfl
  | joined part next behind =>
      obtain ⟨link, rest, -, links⟩ := part.exists_links
      refine ⟨{ link with opensText := true }, rest ++ behind.links next, fun joint => ?_⟩
      rw [Chain.links, links]
      rfl

theorem passLinks_gate (chain : Chain) (gate : Gate) (standing : Standing) (held : String) :
    passLinks setup { standing with held := held } (chain.links (.gate gate)) =
      passLinks setup standing (chain.links (.gate gate)) := by
  obtain ⟨link, rest, links⟩ := chain.exists_links
  rw [links]
  simp only [passLinks, runLinks]
  rw [runLink_gate link gate]

/-- Behind a pipe a line runs as behind its gate, with what is held back as its input. -/
theorem passLinks_pipe (chain : Chain) (standing : Standing) (code : ExitCode) :
    passLinks setup standing (chain.links .pipe) =
      passLinks setup
        { standing with
          outcome := { standing.outcome with exitCode := code }, input := standing.held }
        (chain.links (.gate .always)) := by
  obtain ⟨link, rest, links⟩ := chain.exists_links
  rw [links, links]
  simp only [passLinks, runLinks]
  rw [runLink_pipe _ _ _ code]

theorem run_of_read {text : String} {statement : Statement}
    (filled : Text.isBlankText text = false)
    (read : Statement.read text = .ok (some statement)) (stdin : String) (lead : Lead)
    (room : Nat) :
    run setup (room + 1) text stdin lead =
      countRun setup >>= fun _ => runStatement setup (callsAt setup room) statement stdin lead := by
  simp [run, runText, runRead, filled, read, callsAt]

/-- A text is its first part and what follows it, once what follows is a pass as well. -/
theorem run_eq_of_behind {text : String} {part : Part} {tail : Option Tail}
    {behind : List Link} (filled : Text.isBlankText text = false)
    (read : Statement.read text = .ok (some ⟨part.body, tail⟩))
    (stdin : String) (lead : Lead)
    (piped : tailPiped tail = startsPiped behind)
    (onward : ∀ room after, runBehind (callsAt setup room) stdin after tail =
      passLinks setup ⟨after.outcome, after.held, stdin, room⟩ behind)
    (room : Nat) :
    run setup room text stdin lead =
      passLinks setup (.initial stdin lead.previous room)
        (openText (.gate lead.gate) (part.links .always) ++ behind) := by
  unfold passLinks
  cases room with
  | zero =>
      rw [runLinks_noRoom]
      · rfl
      · rfl
  | succ room =>
      rw [run_of_read filled read, runStatement_part]
      have next (after : Held) : runBehind (callsAt setup room) stdin after tail =
          Standing.outcome <$>
            runLinks setup ⟨after.outcome, after.held, stdin, room⟩ behind := onward room after
      simp only [next]
      rw [piped, ← map_bind, ← runLinks_part, ← map_bind]
      exact congrArg (Standing.outcome <$> ·)
        (runLinks_openText lead.gate part behind (.initial stdin lead.previous room) room).symm

/-- A line is one pass over its links. -/
theorem run_eq_runLinks {text : String} {chain : Chain} (reads : ReadsAs text chain)
    (stdin : String) (lead : Lead) (room : Nat) :
    run setup room text stdin lead =
      passLinks setup (.initial stdin lead.previous room) (chain.links (.gate lead.gate)) := by
  induction reads generalizing stdin lead room with
  | @last text part filled read =>
      show _ = passLinks setup _ (openText (.gate lead.gate) (part.links .always))
      rw [← List.append_nil (openText _ _)]
      refine run_eq_of_behind filled read stdin lead rfl (fun room after => ?_) room
      simp [runBehind, passLinks, runLinks]
  | @joined text behind part joint rest filled read sameLine onward inductionHypothesis =>
      refine run_eq_of_behind filled read stdin lead ?_ (fun room after => ?_) room
      · obtain ⟨link, others, links⟩ := rest.exists_links
        rw [links]
        simp [tailPiped, startsPiped]
      · cases joint with
        | newline => exact absurd rfl sameLine
        -- What follows runs as a line of its own; `behind` puts the output so far in front of it.
        | gate gate =>
            show append after.outcome <$> run setup room behind stdin _ = _
            rw [inductionHypothesis, ← passLinks_behind, Standing.behind_initial]
            exact (passLinks_gate rest gate _ after.held).symm
        | pipe =>
            show append after.outcome <$> run setup room behind after.held .initial = _
            rw [inductionHypothesis, ← passLinks_behind, Standing.behind_initial,
              passLinks_pipe rest _ 0]
            exact (passLinks_gate rest .always _ after.held).symm

end

end VirtualShell.Interpreter
