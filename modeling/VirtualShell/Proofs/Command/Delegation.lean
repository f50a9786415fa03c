import VirtualShell.Command.Probe
import VirtualShell.Proofs.Command.Keeping
import VirtualShell.Proofs.Command.Reading

/-!
Contract: a command that has a line run and passes its outcome on is that line.

Owns:
- `IsDelegated`, that a process does no more than that, and `run_perform_of_isDelegated`;
- `run_callByName_again` and `run_callByName_source`: a call of such a command is the line that it
  asks for, given in place of the call and without its input;
- `keeps_of_mem_probes`: the commands for looking into a shell keep every kind of access rule, as
  those of the library do (`VirtualShell.Proofs.Command.Keeping`).

What the line is, is settled by the arguments and the files before it runs.
-/

namespace VirtualShell.Command

open VirtualShell.Fallible VirtualShell.Interpreter

/-- The process asks for the line in the world that it was started in, and changes nothing of what
comes back. -/
inductive IsDelegated (world : World) (line : String) : Process → Prop
  | intro : IsDelegated world line
      (.running world line fun after outcome => .finished after (.ok outcome))

section

variable {setup : Setup} {runner : Runner} {session : Session} {line : String} {name : String}

theorem run_perform_of_isDelegated {exec : String → Engine Outcome} {process : Process}
    (delegated : IsDelegated ⟨session.environment, session.storage⟩ line process) :
    (perform exec process).run session = (exec line).run session := by
  cases delegated
  unfold perform
  rw [run_bind, run_modify]
  dsimp only
  rw [run_bind]
  rcases (exec line).run session with ⟨abort | outcome, after⟩
  · rfl
  · rfl

theorem isDelegated_again (registered : String) (context : Context) (arguments : List String)
    (world : World) :
    IsDelegated world (Text.joinWith " " arguments)
      ((Probe.again registered).start context arguments world) :=
  .intro

theorem isDelegated_source (registered : String) (context : Context) {path script : String}
    (arguments : List String) {world : World} (allowed : .read ∉ world.storage.refused)
    (found : entry? context world.storage.files path = some (.file script)) :
    IsDelegated world script ((source registered).start context (path :: arguments) world) := by
  have read : (Files.read (context.resolve path)).run world.storage.files =
      (.ok script, world.storage.files) := by
    rw [Files.run_read]
    unfold entry? at found
    rw [found]
  unfold source
  dsimp only
  rw [Storage.read, run_attempt_perform allowed _ read]
  exact .intro

theorem run_callByName_of_found {command : Command} (unbuilt : Builtin.ofName? name = none)
    (undefined : session.functions.get? name = none)
    (found : setup.commands.get? (baseName name) = some command) (arguments : List String)
    (stdin : String) :
    (callByName setup runner name arguments stdin).run session =
      (perform (execute runner) (command.start ⟨session.cwd, stdin⟩ arguments
        ⟨session.environment, session.storage⟩)).run session := by
  unfold callByName
  rw [run_bind, run_get]
  dsimp only
  rw [unbuilt, undefined, found]

/-- A call that hands its arguments back to the shell is the line of these arguments. -/
theorem run_callByName_again {registered : String} (unbuilt : Builtin.ofName? name = none)
    (undefined : session.functions.get? name = none)
    (found : setup.commands.get? (baseName name) = some (Probe.again registered))
    (arguments : List String) (stdin : String) :
    (callByName setup runner name arguments stdin).run session =
      (execute runner (Text.joinWith " " arguments)).run session := by
  rw [run_callByName_of_found unbuilt undefined found]
  exact run_perform_of_isDelegated (isDelegated_again _ _ _ _)

/-- A script that is sourced is its text, whatever the arguments behind it. -/
theorem run_callByName_source {registered path script : String}
    (unbuilt : Builtin.ofName? name = none) (undefined : session.functions.get? name = none)
    (found : setup.commands.get? (baseName name) = some (source registered))
    (allowed : .read ∉ session.storage.refused)
    (held : session.storage.files.view (Path.parts (Path.resolve session.cwd path)) =
      some (.file script)) (arguments : List String) (stdin : String) :
    (callByName setup runner name (path :: arguments) stdin).run session =
      (execute runner script).run session := by
  rw [run_callByName_of_found unbuilt undefined found]
  exact run_perform_of_isDelegated (isDelegated_source _ _ _ allowed held)

end

/-! ## Probes -/

/-- The commands for looking into a shell, registered under a name. -/
def probes (name : String) : List Command :=
  [Probe.showArguments name, Probe.showInput name, Probe.emit name, Probe.breakDown name,
    Probe.setVariable name, Probe.again name]

variable {permits : List FileOperation → Prop}

theorem keeps_again (name : String) : Keeps permits (Probe.again name) :=
  -- The line runs outside of the process, which gets a world back and hands it on.
  fun _ _ _ permitted => ⟨permitted, fun _ _ after => after⟩

theorem keeps_emit (name : String) : Keeps permits (Probe.emit name) := by
  refine keeps_ofAction fun context arguments => ?_
  split
  · split
    · exact Leaves.pure _
    · exact Leaves.throw _
  · exact Leaves.throw _

theorem keeps_setVariable (name : String) : Keeps permits (Probe.setVariable name) := by
  refine keeps_ofAction fun context arguments => ?_
  split
  · exact Leaves.bind (fun _ => rfl) fun _ => Leaves.pure _
  · exact Leaves.throw _

/-- No probe touches the access rule of the storage. -/
theorem keeps_of_mem_probes {name : String} {command : Command}
    (member : command ∈ probes name) : Keeps permits command := by
  have all : ∀ command ∈ probes name, Keeps permits command := by
    unfold probes
    simp only [List.forall_mem_cons]
    exact ⟨keeps_ofAction fun _ _ => Leaves.pure _, keeps_ofAction fun _ _ => Leaves.pure _,
      keeps_emit name, keeps_ofAction fun _ _ => Leaves.throw _, keeps_setVariable name,
      keeps_again name, List.forall_mem_nil _⟩
  exact all command member

end VirtualShell.Command
