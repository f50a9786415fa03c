import VirtualShell.Proofs.Interpreter.Balance
import VirtualShell.Proofs.Interpreter.Chain

/-!
Contract: the runs of a line, the stretches that pipes join and gates divide.

Owns:
- `Run` and `Run.gather`, the runs among the links of a line;
- `runRuns`, where a gate and the exclamation marks of a run act on all of it, and the lines
  that run so;
- `runPlumbed`, where what is piped into one run reaches no other, and the lines that run so.

A line does neither in general. The pipe next to a compound statement divides its text: what
follows the pipe runs whatever the gate of the run says, has exclamation marks of its own, and
hands the piped text on to the runs behind it.
-/

namespace VirtualShell.Interpreter

open VirtualShell.Fallible

/-! ## Runs -/

/-- Links that pipes join. -/
structure Run where
  first : Link
  others : List Link
  piped : ∀ member ∈ others, member.joint = .pipe

/-- The links of a run. -/
def Run.members (run : Run) : List Link :=
  run.first :: run.others

/-- Some runs with one more link in front of them, which the first of them takes in if a
pipe leads there. -/
def Run.prepend (link : Link) : List Run → List Run
  | [] => [⟨link, [], by simp⟩]
  | run :: runs =>
      if joint : run.first.joint = .pipe then
        ⟨link, run.members, List.forall_mem_cons.2 ⟨joint, run.piped⟩⟩ :: runs
      else ⟨link, [], by simp⟩ :: run :: runs

/-- The runs that some links make up. -/
def Run.gather : List Link → List Run
  | [] => []
  | link :: rest => prepend link (gather rest)

/-! ## Runs as a whole -/

/-- Runs the members of a run. What the exclamation marks turn round is the exit code of the
last one. -/
def runMembers (setup : Setup) (negations : Nat) (standing : Standing) (member : Link) :
    List Link → Engine Standing
  | [] => runMember setup member negations false standing
  | next :: others => do
      let after ← runMember setup member 0 true standing
      runMembers setup negations after next others

/-- Runs a run, or leaves it out as a whole. -/
def runRun (setup : Setup) (standing : Standing) (run : Run) : Engine Standing :=
  if run.first.runsAfter standing.outcome.exitCode then
    runMembers setup run.first.negations standing run.first run.others
  else skipMember setup run.first standing

/-- Runs the runs of a line one after the other. -/
def runRuns (setup : Setup) (standing : Standing) : List Run → Engine Standing
  | [] => return standing
  | run :: rest => do
      let after ← runRun setup standing run
      runRuns setup after rest

/-- A run that its first link decides about: it has no other, or it runs after every exit
code and turns none round. -/
def Run.IsDirect (run : Run) : Prop :=
  run.others = [] ∨
    run.first.joint = .gate .always ∧ ∀ member ∈ run.members, member.negations % 2 = 0

instance (run : Run) : Decidable run.IsDirect :=
  inferInstanceAs (Decidable (_ ∨ _ ∧ _))

/-! ## Pipes that end -/

/-- Runs the links of a line. Each one that no pipe leads to reads what the line was
started with. -/
def runPlumbed (setup : Setup) (stdin : String) (standing : Standing) :
    List Link → Engine Standing
  | [] => return standing
  | link :: rest => do
      let after ← runLink setup link (startsPiped rest) { standing with input := stdin }
      runPlumbed setup stdin after rest

section

variable {setup : Setup}

/-! ### The runs of some links -/

theorem Run.members_prepend (link : Link) (runs : List Run) :
    (Run.prepend link runs).flatMap Run.members = link :: runs.flatMap Run.members := by
  cases runs with
  | nil => rfl
  | cons run rest =>
      rw [Run.prepend]
      split <;> rfl

theorem Run.members_gather (links : List Link) :
    (Run.gather links).flatMap Run.members = links := by
  induction links with
  | nil => rfl
  | cons link rest inductionHypothesis =>
      rw [Run.gather, Run.members_prepend, inductionHypothesis]

/-- A gate leads to each run but the first. -/
theorem Run.joint_of_mem_gather (links : List Link) :
    ∀ run ∈ (Run.gather links).tail, run.first.joint ≠ .pipe := by
  induction links with
  | nil => simp [Run.gather]
  | cons link rest inductionHypothesis =>
      rw [Run.gather]
      cases runs : Run.gather rest with
      | nil => simp [Run.prepend]
      | cons run others =>
          rw [runs] at inductionHypothesis
          rw [Run.prepend]
          split
          · exact inductionHypothesis
          · rename_i gated
            exact List.forall_mem_cons.2 ⟨gated, inductionHypothesis⟩

theorem startsPiped_members {runs : List Run} (gated : ∀ run ∈ runs, run.first.joint ≠ .pipe) :
    startsPiped (runs.flatMap Run.members) = false := by
  cases runs with
  | nil => rfl
  | cons run rest => simp [startsPiped, Run.members, gated run (List.mem_cons_self ..)]

/-! ### Direct runs -/

theorem runMember_of_parity {negations others : Nat} (parity : negations % 2 = others % 2)
    (link : Link) (piped : Bool) (standing : Standing) :
    runMember setup link negations piped standing =
      runMember setup link others piped standing := by
  unfold runMember negate
  rw [parity]

/-- Behind a pipe every member of a run runs, and no exclamation mark acts on it. -/
theorem runLinks_members {negations : Nat} {first : Link} {others : List Link}
    (even : negations % 2 = 0)
    (none : ∀ member ∈ first :: others, member.negations % 2 = 0)
    (piped : ∀ member ∈ others, member.joint = .pipe)
    {standing : Standing} (runs : first.runsAfter standing.outcome.exitCode = true)
    {behind : List Link} (gated : startsPiped behind = false) :
    runLinks setup standing (first :: others ++ behind) =
      runMembers setup negations standing first others >>= fun after =>
        runLinks setup after behind := by
  induction others generalizing first standing with
  | nil =>
      simp only [List.cons_append, List.nil_append, runLinks, runLink, runs, gated, if_true,
        runMembers]
      rw [runMember_of_parity ((none first (List.mem_cons_self ..)).trans even.symm)]
  | cons next others inductionHypothesis =>
      have follows : startsPiped (next :: others ++ behind) = true := by
        simp [startsPiped, piped next (List.mem_cons_self ..)]
      have always (code : ExitCode) : next.runsAfter code = true := by
        simp [Link.runsAfter, piped next (List.mem_cons_self ..)]
      -- The exit code of a member that others follow is turned round by nothing.
      rw [List.cons_append, runLinks, follows]
      simp only [runLink, runs, if_true, runMembers, bind_assoc]
      have even : first.negations % 2 = 0 % 2 := none first (List.mem_cons_self ..)
      rw [runMember_of_parity even]
      congr 1
      funext after
      exact inductionHypothesis (fun member among => none member (List.mem_cons_of_mem _ among))
        (fun member among => piped member (List.mem_cons_of_mem _ among)) (always _)

theorem runLinks_run {run : Run} (direct : run.IsDirect) (standing : Standing)
    {behind : List Link} (gated : startsPiped behind = false) :
    runLinks setup standing (run.members ++ behind) =
      runRun setup standing run >>= fun after => runLinks setup after behind := by
  obtain ⟨first, others, piped⟩ := run
  unfold runRun
  obtain rfl | ⟨joint, even⟩ := direct
  · simp [Run.members, runLinks, runLink, gated, runMembers]
  · have runs : first.runsAfter standing.outcome.exitCode = true := by
      simp only at joint
      simp [Link.runsAfter, joint, Gate.allows]
    rw [if_pos runs]
    exact runLinks_members (even first (List.mem_cons_self ..)) even piped runs gated

theorem runLinks_runs {runs : List Run} (direct : ∀ run ∈ runs, run.IsDirect)
    (gated : ∀ run ∈ runs.tail, run.first.joint ≠ .pipe) (standing : Standing) :
    runLinks setup standing (runs.flatMap Run.members) = runRuns setup standing runs := by
  induction runs generalizing standing with
  | nil => rfl
  | cons run rest inductionHypothesis =>
      have apart : startsPiped (rest.flatMap Run.members) = false := startsPiped_members gated
      rw [List.flatMap_cons, runLinks_run (direct run (List.mem_cons_self ..)) standing apart]
      unfold runRuns
      congr 1
      funext after
      exact inductionHypothesis (fun run among => direct run (List.mem_cons_of_mem _ among))
        (fun run among => gated run (List.mem_of_mem_tail among)) after

/-- A gate and the exclamation marks of a run act on all of it in a line of direct runs. -/
theorem run_eq_runRuns {text : String} {chain : Chain} (reads : ReadsAs text chain)
    {lead : Lead}
    (direct : ∀ run ∈ Run.gather (chain.links (.gate lead.gate)), run.IsDirect)
    (stdin : String) (room : Nat) :
    run setup room text stdin lead =
      Standing.outcome <$>
        runRuns setup (.initial stdin lead.previous room)
          (Run.gather (chain.links (.gate lead.gate))) := by
  rw [run_eq_runLinks reads, passLinks,
    ← runLinks_runs direct (Run.joint_of_mem_gather _), Run.members_gather]

end

/-- The commands and the limits of a shell that is told nothing about them. -/
def librarySetup : Setup :=
  ⟨.default, .ofList (Command.library.map fun command => (command.name, command))⟩

/-- A run that is left out, and a pipe to a compound statement behind it. -/
theorem run_eq_runRuns_skipped :
    ∃ chain, ReadsAs "false && ! true; echo a | if true; then cat; fi" chain ∧
      (∀ run ∈ Run.gather (chain.links (.gate .always)), run.IsDirect) ∧
      run librarySetup 4 "false && ! true; echo a | if true; then cat; fi" "" .initial =
        Standing.outcome <$>
          runRuns librarySetup (.initial "" 0 4) (Run.gather (chain.links (.gate .always))) := by
  have compound : ReadsAs "if true; then cat; fi"
      (.last (.compound (.conditional [⟨some "true", "cat"⟩]) [])) :=
    .last (by decide +kernel) (eq_ok_of_toOption (by decide +kernel))
  have reads : ReadsAs "false && ! true; echo a | if true; then cat; fi"
      (.joined
        (.stages ⟨⟨[⟨[⟨"false", .unquoted⟩], 0, 5⟩], []⟩, none, 0⟩
          [⟨⟨[⟨[⟨"true", .unquoted⟩], 11, 15⟩], []⟩, some .onSuccess, 1⟩,
            ⟨⟨[⟨[⟨"echo", .unquoted⟩], 17, 21⟩, ⟨[⟨"a", .unquoted⟩], 22, 23⟩], []⟩,
              some .always, 0⟩])
        .pipe (.last (.compound (.conditional [⟨some "true", "cat"⟩]) []))) :=
    .joined (by decide +kernel) (eq_ok_of_toOption (by decide +kernel)) (by decide) compound
  exact ⟨_, reads, by decide, run_eq_runRuns reads (by decide) "" 4⟩

/-- A compound statement behind a pipe runs although the gate of its run leaves the run out. -/
theorem exists_run_ne_runRuns :
    ∃ chain, ReadsAs "false && echo a | if true; then echo X; fi" chain ∧
      ((run librarySetup 4 "false && echo a | if true; then echo X; fi" "" .initial).run
          bareShell.session).1.toOption = some ⟨"X\n", "", 0⟩ ∧
      ((runRuns librarySetup (.initial "" 0 4) (Run.gather (chain.links (.gate .always)))).run
          bareShell.session).1.toOption.map Standing.outcome = some ⟨"", "", 1⟩ := by
  have compound : ReadsAs "if true; then echo X; fi"
      (.last (.compound (.conditional [⟨some "true", "echo X"⟩]) [])) :=
    .last (by decide +kernel) (eq_ok_of_toOption (by decide +kernel))
  have reads : ReadsAs "false && echo a | if true; then echo X; fi"
      (.joined
        (.stages ⟨⟨[⟨[⟨"false", .unquoted⟩], 0, 5⟩], []⟩, none, 0⟩
          [⟨⟨[⟨[⟨"echo", .unquoted⟩], 9, 13⟩, ⟨[⟨"a", .unquoted⟩], 14, 15⟩], []⟩,
            some .onSuccess, 0⟩])
        .pipe (.last (.compound (.conditional [⟨some "true", "echo X"⟩]) []))) :=
    .joined (by decide +kernel) (eq_ok_of_toOption (by decide +kernel)) (by decide) compound
  exact ⟨_, reads, by decide +kernel, by decide +kernel⟩

section

variable {setup : Setup}

/-! ### Input -/

/-- What is piped to a link does not depend on the input of the rest. -/
theorem runLink_input {link : Link} (joint : link.joint = .pipe) (piped : Bool)
    (standing : Standing) (input : String) :
    runLink setup link piped { standing with input := input } =
      runLink setup link piped standing := by
  simp [runLink, runMember, Link.input, Link.runsAfter, joint]

theorem runPlumbed_of_piped {links : List Link}
    (piped : ∀ link ∈ links, link.joint = .pipe) (stdin : String) (standing : Standing) :
    runPlumbed setup stdin standing links = runLinks setup standing links := by
  induction links generalizing standing with
  | nil => rfl
  | cons link rest inductionHypothesis =>
      obtain ⟨joint, others⟩ := List.forall_mem_cons.1 piped
      simp only [runPlumbed, runLinks, runLink_input joint, inductionHypothesis others]

/-- A link that no pipe leads to leaves the input of the rest as it is. -/
theorem runLink_bind_input {α : Type} {link : Link} (gated : link.joint ≠ .pipe)
    (piped : Bool) (standing : Standing) (next : Standing → Engine α) :
    runLink setup link piped standing >>= next =
      runLink setup link piped standing >>= fun after =>
        next { after with input := standing.input } := by
  have same : link.input standing = standing.input := if_neg gated
  unfold runLink
  split
  · simp [runMember, same]
  · simp [skipMember, same]

theorem runPlumbed_eq_runLinks {links : List Link}
    (ends : links.Pairwise fun first second => first.joint = .pipe → second.joint = .pipe)
    (standing : Standing) :
    runPlumbed setup standing.input standing links = runLinks setup standing links := by
  induction links generalizing standing with
  | nil => rfl
  | cons link rest inductionHypothesis =>
      obtain ⟨onward, ends⟩ := List.pairwise_cons.1 ends
      by_cases joint : link.joint = .pipe
      · apply runPlumbed_of_piped
        exact List.forall_mem_cons.2 ⟨joint, fun other among => onward other among joint⟩
      · rw [runPlumbed, runLinks, runLink_bind_input joint]
        rw [runLink_bind_input joint _ _ fun after => runLinks setup after rest]
        congr 1
        funext after
        exact inductionHypothesis ends { after with input := standing.input }

/-- What is piped into a run reaches no other in a line where no gate follows a pipe next to a
compound statement. -/
theorem run_eq_runPlumbed {text : String} {chain : Chain} (reads : ReadsAs text chain)
    {lead : Lead}
    (ends : (chain.links (.gate lead.gate)).Pairwise fun first second =>
      first.joint = .pipe → second.joint = .pipe)
    (stdin : String) (room : Nat) :
    run setup room text stdin lead =
      Standing.outcome <$>
        runPlumbed setup stdin (.initial stdin lead.previous room)
          (chain.links (.gate lead.gate)) := by
  rw [run_eq_runLinks reads, passLinks, ← runPlumbed_eq_runLinks ends]
  rfl

end

theorem readsAs_cat :
    ReadsAs "cat" (.last (.stages ⟨⟨[⟨[⟨"cat", .unquoted⟩], 0, 3⟩], []⟩, none, 0⟩ [])) :=
  .last (by decide +kernel) (eq_ok_of_toOption (by decide +kernel))

/-- A run behind another one, with a pipe from a compound statement in it. -/
theorem run_eq_runPlumbed_behind :
    ∃ chain, ReadsAs "echo hi; if true; then cat; fi | cat" chain ∧
      ((chain.links (.gate .always)).Pairwise fun first second =>
        first.joint = .pipe → second.joint = .pipe) ∧
      run librarySetup 4 "echo hi; if true; then cat; fi | cat" "x" .initial =
        Standing.outcome <$>
          runPlumbed librarySetup "x" (.initial "x" 0 4) (chain.links (.gate .always)) := by
  have compound : ReadsAs "if true; then cat; fi | cat"
      (.joined (.compound (.conditional [⟨some "true", "cat"⟩]) []) .pipe _) :=
    .joined (by decide +kernel) (eq_ok_of_toOption (by decide +kernel)) (by decide) readsAs_cat
  have reads : ReadsAs "echo hi; if true; then cat; fi | cat"
      (.joined
        (.stages ⟨⟨[⟨[⟨"echo", .unquoted⟩], 0, 4⟩, ⟨[⟨"hi", .unquoted⟩], 5, 7⟩], []⟩,
          none, 0⟩ [])
        (.gate .always) _) :=
    .joined (by decide +kernel) (eq_ok_of_toOption (by decide +kernel)) (by decide) compound
  exact ⟨_, reads, by decide, run_eq_runPlumbed reads (by decide) "x" 4⟩

/-- What is piped into one run is the input of the next. -/
theorem exists_run_ne_runPlumbed :
    ∃ chain, ReadsAs "echo hi | if true; then true; fi; cat" chain ∧
      ((run librarySetup 4 "echo hi | if true; then true; fi; cat" "" .initial).run
          bareShell.session).1.toOption = some ⟨"hi\n", "", 0⟩ ∧
      ((runPlumbed librarySetup "" (.initial "" 0 4) (chain.links (.gate .always))).run
          bareShell.session).1.toOption.map Standing.outcome = some ⟨"", "", 0⟩ := by
  have compound : ReadsAs "if true; then true; fi; cat"
      (.joined (.compound (.conditional [⟨some "true", "true"⟩]) []) (.gate .always) _) :=
    .joined (by decide +kernel) (eq_ok_of_toOption (by decide +kernel)) (by decide) readsAs_cat
  have reads : ReadsAs "echo hi | if true; then true; fi; cat"
      (.joined
        (.stages ⟨⟨[⟨[⟨"echo", .unquoted⟩], 0, 4⟩, ⟨[⟨"hi", .unquoted⟩], 5, 7⟩], []⟩,
          none, 0⟩ [])
        .pipe _) :=
    .joined (by decide +kernel) (eq_ok_of_toOption (by decide +kernel)) (by decide) compound
  exact ⟨_, reads, by decide +kernel, by decide +kernel⟩

end VirtualShell.Interpreter
