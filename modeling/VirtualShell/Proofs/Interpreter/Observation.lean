import VirtualShell.Proofs.Interpreter.Balance
import VirtualShell.Proofs.Interpreter.Carrying

/-!
Contract: the interpreter under observation.

Owns:
- `Note`, what an observer writes down: that a run of a text starts, and that a variable is
  about to be declared local;
- `Interpreter.runObserved`, the interpreter whose journal gets the notes as well;
- `Interpreter.runObserved_follows`: apart from the notes it does what the ordinary one does.

A note is an event that no part of the shell reports, so notes and events can be told apart in
a journal that has both.
-/

namespace VirtualShell

/-- What an observer writes down. A declaration comes with the number of local frames and with
the value that the variable has before it. -/
inductive Note where
  | run
  | declaration (frames : Nat) (name : String) (value : Option String)
deriving DecidableEq, Repr

/-- A note as an event. -/
def Note.entry : Note → Entry
  | .run => ⟨.debug, "", "", 0⟩
  | .declaration frames name none => ⟨.debug, "", "=" ++ name, frames⟩
  | .declaration frames name (some value) => ⟨.info, value, "=" ++ name, frames⟩

/-- The note that an event is. -/
def Entry.note? (entry : Entry) : Option Note :=
  match entry.source.toList with
  | [] => some .run
  | '=' :: name =>
      some (.declaration entry.depth.toNat (String.ofList name)
        (if entry.level = .info then some entry.message else none))
  | _ => none

theorem Entry.note?_entry (note : Note) : note.entry.note? = some note := by
  rcases note with _ | ⟨frames, name, _ | value⟩
  · rfl
  · simp [Note.entry, note?]
  · simp [Note.entry, note?]

namespace Journal

variable {journal : Journal}

/-- The notes in a journal, the oldest first. -/
def notes (journal : Journal) : List Note :=
  journal.entries.filterMap Entry.note?

/-- The events in a journal that are no notes, the oldest first. -/
def events (journal : Journal) : List Entry :=
  journal.entries.filter fun entry => entry.note?.isNone

/-- The journal with notes behind its events. -/
def noting (journal : Journal) (notes : List Note) : Journal :=
  notes.foldl (fun journal note => journal.record note.entry) journal

theorem capacity_record (journal : Journal) (entry : Entry) :
    (journal.record entry).capacity = journal.capacity :=
  rfl

theorem entries_record (unbounded : journal.capacity = none) (entry : Entry) :
    (journal.record entry).entries = journal.entries ++ [entry] := by
  simp [record, entries, unbounded]

theorem notes_record (unbounded : journal.capacity = none) (entry : Entry) :
    (journal.record entry).notes = journal.notes ++ entry.note?.toList := by
  rw [notes, entries_record unbounded, List.filterMap_append, notes]
  cases found : entry.note? <;> simp [found]

theorem events_record (unbounded : journal.capacity = none) (entry : Entry) :
    (journal.record entry).events =
      journal.events ++ if entry.note?.isNone then [entry] else [] := by
  rw [events, entries_record unbounded, List.filter_append, events, List.filter_cons,
    List.filter_nil]

theorem capacity_noting (unbounded : journal.capacity = none) (notes : List Note) :
    (journal.noting notes).capacity = none := by
  induction notes generalizing journal with
  | nil => exact unbounded
  | cons note rest inductionHypothesis =>
      exact inductionHypothesis ((capacity_record journal note.entry).trans unbounded)

theorem notes_noting (unbounded : journal.capacity = none) (notes : List Note) :
    (journal.noting notes).notes = journal.notes ++ notes := by
  induction notes generalizing journal with
  | nil => exact (List.append_nil _).symm
  | cons note rest inductionHypothesis =>
      show ((journal.record note.entry).noting rest).notes = _
      rw [inductionHypothesis ((capacity_record journal note.entry).trans unbounded),
        notes_record unbounded, Entry.note?_entry]
      simp

theorem events_noting (unbounded : journal.capacity = none) (notes : List Note) :
    (journal.noting notes).events = journal.events := by
  induction notes generalizing journal with
  | nil => rfl
  | cons note rest inductionHypothesis =>
      show ((journal.record note.entry).noting rest).events = _
      rw [inductionHypothesis ((capacity_record journal note.entry).trans unbounded),
        events_record unbounded, Entry.note?_entry]
      simp

end Journal

namespace Interpreter

open VirtualShell.Engine VirtualShell.Fallible

theorem note?_of_reporter {entry : Entry} (reporter : IsReporter entry.source) :
    entry.note? = none := by
  unfold Entry.note?
  obtain shell | guard | boundary := reporter
  · rw [shell]
    rfl
  · rw [guard]
    rfl
  · rw [boundary]
    rfl

/-! ## Observed runs -/

/-- What `local` declares with some arguments, one after the other. -/
def declarations (frames : Nat) (environment : Environment) : List String → List Note
  | [] => []
  | argument :: rest =>
      let (name, value) := cutAtEquals argument
      if isName name then
        .declaration frames name (environment.get? name) ::
          declarations frames (Builtin.declare environment name value) rest
      else declarations frames environment rest

/-- What a call by name declares. Outside of functions, `local` declares nothing. -/
def declaredBy (name : String) (arguments : List String) (session : Session) : List Note :=
  if Builtin.ofName? name = some .local ∧ session.inFunction then
    declarations session.scopes.length session.environment arguments
  else []

/-- Notes something about the session. -/
def observe (notes : Session → List Note) : Engine Unit :=
  modify fun session => session.withJournal (session.journal.noting (notes session))

/-- Calls by name, with a note of what each is about to declare. -/
def observed (calls : Dispatcher) : Dispatcher :=
  fun name arguments stdin => do
    observe (declaredBy name arguments)
    calls name arguments stdin

/-- Runs a text with a note of this, and with calls that are observed. -/
def runNoted (setup : Setup) (run : Runner) : Runner :=
  fun text stdin lead => do
    observe fun _ => [.run]
    runText setup ⟨run, observed (dispatch setup run)⟩ text stdin lead

/-- The interpreter in which each run of a text and each declaration is noted. -/
def runObserved (setup : Setup) : Nat → Runner
  | 0 => fun _ _ _ => throw .nestingSpent
  | room + 1 => runNoted setup (runObserved setup room)

/-- The left journal forgets nothing, and the right one is `start` with its events. -/
def noted (start : Journal) : Relation where
  between session journal :=
    session.journal.capacity = none ∧ journal = session.journal.events.foldl Journal.record start
  afterwards _ session journal :=
    session.journal.capacity = none ∧ journal = session.journal.events.foldl Journal.record start
  spoiled _ := False
  ruins _ _ := False

section

variable {start : Journal} {setup : Setup}

theorem record_noted (session : Session) (entry : Entry) (journal : Journal)
    (reporter : IsReporter entry.source) (holds : (noted start).between session journal) :
    (noted start).between { session with journal := session.journal.record entry }
      (journal.record entry) := by
  obtain ⟨unbounded, rfl⟩ := holds
  refine ⟨unbounded, ?_⟩
  rw [Journal.events_record unbounded, note?_of_reporter reporter]
  simp

theorem countRun_noted : Follows (noted start) (countRun setup) (countRun setup) := by
  refine (Follows.modify (fun _ _ => rfl) ?_).bind fun _ => ?_
  · exact fun _ _ holds => holds
  refine Follows.get_bind fun session journal => ?_
  show Follows _ _ (if setup.limits.commandCount < session.commandCount then _ else _)
  split
  · exact Follows.throw fun _ _ holds => holds
  · exact Follows.pure _

theorem carries_noted (setup : Setup) : Carries (noted start) setup setup where
  commands := rfl
  callDepth := Nat.le_refl _
  passes := Nat.le_refl _
  unchanged {session after journal} holds same := by
    show after.journal.capacity = none ∧ journal = after.journal.events.foldl Journal.record start
    rw [same]
    exact holds
  afterwards := Iff.rfl
  record := record_noted
  spoiled _ _ spoiled := spoiled
  ruins ruined := ruined.elim
  reported ruined := ruined.elim
  spent := .inl rfl
  breach message failed right same := by
    rw [same rfl]
    refine (Follows.record (fun _ _ spoiled => spoiled) ?_).bind fun _ => Follows.pure _
    rintro session entry journal guard holds
    exact record_noted session entry journal (.inr (.inl guard)) holds
  countRun := countRun_noted

/-- An observer is not seen. -/
theorem observe_bind_follows {α : Type} (notes : Session → List Note) {left right : Engine α}
    (follows : Follows (noted start) left right) :
    Follows (noted start) (observe notes >>= fun _ => left) right where
  stays _ spoiled := spoiled.elim
  ends session journal holds := by
    obtain ⟨unbounded, rfl⟩ := holds
    rw [run_bind, observe, run_modify]
    refine follows.ends (session.withJournal (session.journal.noting (notes session))) _ ⟨?_, ?_⟩
    · exact Journal.capacity_noting unbounded _
    · exact congrArg (List.foldl Journal.record start) (Journal.events_noting unbounded _).symm

theorem runObserved_follows (room : Nat) :
    RunnersFollow (noted start) (runObserved setup room) (run setup room) := by
  induction room with
  | zero => exact fun _ _ _ => Follows.throw fun _ _ holds => holds
  | succ room inductionHypothesis =>
      intro text stdin lead
      apply observe_bind_follows
      apply runText_follows (carries_noted setup)
      refine ⟨inductionHypothesis, fun name arguments stdin => ?_⟩
      apply observe_bind_follows
      exact dispatch_follows (carries_noted setup) inductionHypothesis name arguments stdin

/-- Work that follows an observed one does the same, and records the same events. -/
theorem run_of_noted {left right : Engine Outcome} {session : Session}
    (follows : Follows (noted session.journal) left right) :
    right.run session =
      ((left.run (session.withJournal (.empty none))).1,
        (left.run (session.withJournal (.empty none))).2.withJournal
          ((left.run (session.withJournal (.empty none))).2.journal.events.foldl Journal.record
            session.journal)) := by
  have started : (noted session.journal).between (session.withJournal (.empty none))
      session.journal := ⟨rfl, rfl⟩
  obtain (spoiled | ⟨_, _, ruined⟩) | matched := follows.ends _ _ started
  · exact spoiled.elim
  · exact ruined.elim
  · apply matched.eq fun journal => journal.events.foldl Journal.record session.journal
    rintro after journal (⟨-, same⟩ | ⟨_, -, same⟩)
    · exact same
    · exact same

end

end Interpreter

end VirtualShell
