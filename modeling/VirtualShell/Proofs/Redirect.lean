import VirtualShell.Proofs.Engine
import VirtualShell.Proofs.Files.Opening
import VirtualShell.Proofs.Files.Reachable
import VirtualShell.Redirect

/-!
Contract: redirections duplicate file descriptors and lose no text.

Owns:
- `Destination` and `Descriptors`, a table of the two output descriptors, processed from
  left to right and without any file being touched;
- `Opening`s of a list of redirections, the files that it opens;
- `applyRedirections_eq_descriptors`, that every text of a command ends where the table says:
  in one of the returned streams, in the file that has been opened for it, or nowhere.

The targets are opened before any text is handed out, so what one text has put into a file
is not wiped by a later redirection.

Does not own: where files can be written (`VirtualShell.Proofs.Files.Opening`).
-/

namespace VirtualShell

open VirtualShell.Fallible VirtualShell.Files

/-! ## The table of descriptors -/

/-- Where text can end. Two spellings of a path are one file. -/
inductive Destination where
  | stdout
  | stderr
  | file (parts : List String)
  | nowhere
deriving DecidableEq, Repr

/-- The file that is opened for a destination. -/
def Destination.opening? (keeps : Bool) : Destination → Option Opening
  | .file parts => some ⟨parts, keeps⟩
  | .stdout | .stderr | .nowhere => none

/-- Where the two output descriptors of a command lead. -/
structure Descriptors where
  out : Destination
  error : Destination
deriving DecidableEq, Repr

namespace Descriptors

/-- Both descriptors lead to the streams that they are named after. -/
def initial : Descriptors := ⟨.stdout, .stderr⟩

/-- The table after one redirection; `target` says what a word names. -/
def redirect (target : Word → Destination) (table : Descriptors) : Redirection → Descriptors
  | .errorToOut => { table with error := table.out }
  | .outToError => { table with out := table.error }
  | .readIn _ => table
  | .writeOut word _ => { table with out := target word }
  | .writeError word _ => { table with error := target word }

/-- The text of an outcome that ends at a destination. -/
def received (table : Descriptors) (outcome : Outcome) (destination : Destination) : String :=
  (if table.out = destination then outcome.stdout else "") ++
    (if table.error = destination then outcome.stderr else "")

end Descriptors

/-- The word that an output redirection names, and whether what is there is kept. -/
def Redirection.output? : Redirection → Option (Word × Bool)
  | .writeOut word append | .writeError word append => some (word, append)
  | .readIn _ | .errorToOut | .outToError => none

/-- The file that a redirection opens. -/
def Redirection.opening? (target : Word → Destination) (redirection : Redirection) :
    Option Opening :=
  redirection.output?.bind fun output => (target output.1).opening? output.2

/-- The files that some redirections open, in order. -/
def Redirect.openings (target : Word → Destination) (redirections : List Redirection) :
    List Opening :=
  redirections.filterMap (Redirection.opening? target)

/-- What a word names in a session: the null device only by its own name. -/
def Session.destination (session : Session) (word : Word) : Destination :=
  let text := expandWord session.parameters word
  if text = Redirect.nullDevice then .nowhere
  else .file (Path.parts (Path.resolve session.cwd text))

def Session.withFiles (session : Session) (files : Files) : Session :=
  { session with storage := { session.storage with files := files } }

def Sink.destination : Sink → Destination
  | .stdout => .stdout
  | .stderr => .stderr
  | .file path _ => .file (Path.parts path)
  | .nowhere => .nowhere

def Routing.descriptors (routing : Routing) : Descriptors :=
  ⟨routing.out.destination, routing.error.destination⟩

/-- Where the streams go once the target of an output redirection has been opened. -/
def Routing.lead (routing : Routing) (redirection : Redirection) (sink : Sink) : Routing :=
  match redirection with
  | .writeOut _ _ => { routing with out := sink }
  | .writeError _ _ => { routing with error := sink }
  | .readIn _ | .errorToOut | .outToError => routing

variable {session : Session}

/-! ## Storage without an access rule -/

theorem Storage.run_perform {α : Type} {storage : Storage} {operation : FileOperation}
    (allowed : operation ∉ storage.refused) (path : String) (action : Files.Action α) :
    (perform operation path action).run storage =
      ((action.run storage.files).1, { storage with files := (action.run storage.files).2 }) := by
  unfold perform
  have granted : storage.refused.contains operation = false := by simpa using allowed
  simp only [run_bind, run_get, granted]
  rcases ran : action.run storage.files with ⟨failure | value, files⟩
  · rfl
  · rfl

/-- An operation that is not refused is the operation on the files. -/
theorem Engine.run_attempt_perform {α : Type} (unrefused : session.storage.refused = [])
    (operation : FileOperation) (path : String) (action : Files.Action α) :
    (attempt (Storage.perform operation path action)).run session =
      (.ok (action.run session.storage.files).1,
        session.withFiles (action.run session.storage.files).2) := by
  have allowed : operation ∉ session.storage.refused := by simp [unrefused]
  rw [run_attempt, Storage.run_perform allowed]
  rfl

namespace Redirect

variable {target : Word → Destination} {redirections : List Redirection}

theorem openings_cons (redirection : Redirection) (rest : List Redirection) :
    openings target (redirection :: rest) =
      (redirection.opening? target).toList ++ openings target rest := by
  unfold openings
  rw [List.filterMap_cons]
  cases redirection.opening? target <;> rfl

theorem mem_opening?_of_output {redirection : Redirection} {word : Word} {append : Bool}
    (output : redirection.output? = some (word, append)) {parts : List String}
    (named : target word = .file parts) :
    parts ∈ (redirection.opening? target).toList.map Opening.parts := by
  simp [Redirection.opening?, output, named, Destination.opening?]

/-- A descriptor leads to a file only where one did already or where the file is opened. -/
theorem mem_openings_of_leads {table : Descriptors} {parts : List String}
    (leads : (redirections.foldl (Descriptors.redirect target) table).out = .file parts ∨
      (redirections.foldl (Descriptors.redirect target) table).error = .file parts) :
    (table.out = .file parts ∨ table.error = .file parts) ∨
      parts ∈ (openings target redirections).map Opening.parts := by
  induction redirections generalizing table with
  | nil => exact .inl leads
  | cons redirection rest inductionHypothesis =>
      rw [openings_cons, List.map_append, List.mem_append]
      rcases inductionHypothesis leads with before | later
      · cases redirection with
        | errorToOut => exact .inl (.inl (by simpa [Descriptors.redirect] using before))
        | outToError => exact .inl (.inr (by simpa [Descriptors.redirect] using before))
        | readIn word => exact .inl before
        | writeOut word append =>
            rcases before with named | kept
            · exact .inr (.inl (mem_opening?_of_output rfl named))
            · exact .inl (.inr kept)
        | writeError word append =>
            rcases before with kept | named
            · exact .inl (.inl kept)
            · exact .inr (.inl (mem_opening?_of_output rfl named))
      · exact .inr (.inr later)

/-! ## Opening the targets -/

/-- The target can be opened in the session as it is, before any other target has been. -/
def CanOpen (session : Session) (word : Word) (append : Bool) : Prop :=
  ∃ sink after, (openTarget word append).run session = (.ok (.ok sink), after)

theorem canOpen_iff {word : Word} {append : Bool} :
    (((openTarget word append).run session).1.toOption.bind Except.toOption).isSome ↔
      CanOpen session word append := by
  unfold CanOpen
  rcases (openTarget word append).run session with ⟨abort | outcome | sink, after⟩
  · exact iff_of_false Bool.false_ne_true (by rintro ⟨_, _, ran⟩; cases ran)
  · exact iff_of_false Bool.false_ne_true (by rintro ⟨_, _, ran⟩; cases ran)
  · exact iff_of_true rfl ⟨sink, after, rfl⟩

instance (session : Session) (word : Word) (append : Bool) :
    Decidable (CanOpen session word append) :=
  decidable_of_iff _ canOpen_iff

theorem run_expand (word : Word) :
    (expand word).run session = (.ok (expandWord session.parameters word), session) :=
  rfl

theorem run_openTarget_of_null {word : Word}
    (null : expandWord session.parameters word = nullDevice) (append : Bool) :
    (openTarget word append).run session = (.ok (.ok .nowhere), session) := by
  unfold openTarget
  rw [run_bind, run_expand]
  simp only [null]
  rfl

/-- Opening a target under a name of its own is opening the file. -/
theorem run_openTarget (unrefused : session.storage.refused = []) {word : Word}
    (named : expandWord session.parameters word ≠ nullDevice) (append : Bool) :
    (openTarget word append).run session =
      let text := expandWord session.parameters word
      let path := Path.resolve session.cwd text
      let opened := (openPath path append).run session.storage.files
      (.ok (match opened.1 with
        | .ok () => .ok (.file path text)
        | .error error => .error (unwritable text error)), session.withFiles opened.2) := by
  unfold openTarget
  rw [run_bind, run_expand]
  simp only [if_neg named, run_bind, run_get]
  cases append with
  | false =>
      simp only [Bool.false_eq_true, if_false, Storage.write, Engine.run_attempt_perform unrefused,
        openPath]
      rcases (Files.write _ _ _).run _ with ⟨failure | _, files⟩ <;> rfl
  | true =>
      simp only [if_true, Storage.append, Engine.run_attempt_perform unrefused, openPath]
      rcases (Files.append _ _).run _ with ⟨failure | _, files⟩ <;> rfl

/-- A target can be opened only where there is room for a file. -/
theorem writable_of_canOpen (tree : session.storage.files.IsTree)
    (unrefused : session.storage.refused = []) {word : Word} {append : Bool}
    (opens : CanOpen session word append) :
    ∀ opening ∈ ((session.destination word).opening? append).toList,
      session.storage.files.view.Writable opening.parts := by
  intro opening member
  rcases opens with ⟨sink, after, opens⟩
  unfold Session.destination at member
  by_cases null : expandWord session.parameters word = nullDevice
  · simp [null, Destination.opening?] at member
  · simp only [if_neg null, Destination.opening?, Option.toList_some, List.mem_singleton] at member
    rw [run_openTarget unrefused null] at opens
    subst member
    rcases ran : (openPath (Path.resolve session.cwd (expandWord session.parameters word))
      append).run session.storage.files with ⟨failure | _, files⟩
    · simp only [ran] at opens
      cases opens
    · dsimp only
      exact tree.writable_of_openPath ran

theorem succeeds_openTarget (tree : session.storage.files.IsTree)
    (unrefused : session.storage.refused = []) {word : Word} {append : Bool}
    (writable : ∀ opening ∈ ((session.destination word).opening? append).toList,
      session.storage.files.view.Writable opening.parts) :
    ∃ sink files, (openTarget word append).run session =
        (.ok (.ok sink), session.withFiles files) ∧
      sink.destination = session.destination word ∧
      IsTreeOf (session.storage.files.view.openAll
        ((session.destination word).opening? append).toList) files := by
  unfold Session.destination at writable ⊢
  by_cases null : expandWord session.parameters word = nullDevice
  · simp only [if_pos null]
    exact ⟨.nowhere, session.storage.files, run_openTarget_of_null null append, rfl, tree, rfl⟩
  · simp only [if_neg null] at writable ⊢
    have room := writable ⟨_, append⟩ (List.mem_singleton.2 rfl)
    dsimp only at room
    rcases tree.succeeds_openPath room append with ⟨files, ends, opened⟩
    refine ⟨.file _ (expandWord session.parameters word), files, ?_, rfl, opened⟩
    rw [run_openTarget unrefused null]
    simp only [ends]

/-- Behind an opened target the rest of the redirections is routed. -/
theorem run_route_of_output {redirection : Redirection} {word : Word} {append : Bool}
    (output : redirection.output? = some (word, append)) {sink : Sink} {after : Session}
    (opens : (openTarget word append).run session = (.ok (.ok sink), after))
    (routing : Routing) (rest : List Redirection) :
    (route routing (redirection :: rest)).run session =
      (route (routing.lead redirection sink) rest).run after := by
  cases redirection with
  | writeOut | writeError =>
      cases output
      rw [route, run_bind, opens]
      rfl
  | readIn | errorToOut | outToError => cases output

theorem descriptors_lead {redirection : Redirection} {word : Word} {append : Bool}
    (output : redirection.output? = some (word, append)) {sink : Sink}
    (leads : sink.destination = target word) (routing : Routing) :
    (routing.lead redirection sink).descriptors =
      routing.descriptors.redirect target redirection := by
  cases redirection with
  | writeOut | writeError =>
      cases output
      simp only [Routing.lead, Routing.descriptors, Descriptors.redirect, leads]
  | readIn | errorToOut | outToError => cases output

/-- What opening the targets of some redirections leads to: the files are opened, and the
sinks are where the table says. -/
theorem succeeds_route (redirections : List Redirection) {session : Session}
    (tree : session.storage.files.IsTree) (unrefused : session.storage.refused = [])
    (writable : ∀ opening ∈ openings session.destination redirections,
      session.storage.files.view.Writable opening.parts) (routing : Routing) :
    ∃ final files, (route routing redirections).run session =
        (.ok (.ok final), session.withFiles files) ∧
      final.descriptors =
        redirections.foldl (Descriptors.redirect session.destination) routing.descriptors ∧
      IsTreeOf (session.storage.files.view.openAll
        (openings session.destination redirections)) files := by
  induction redirections generalizing session routing with
  | nil => exact ⟨routing, session.storage.files, rfl, rfl, tree, rfl⟩
  | cons redirection rest inductionHypothesis =>
      rw [openings_cons] at writable ⊢
      have first := fun opening member => writable opening (List.mem_append_left _ member)
      have others := fun opening member => writable opening (List.mem_append_right _ member)
      cases output : redirection.output? with
      | none =>
          cases redirection with
          | readIn | errorToOut | outToError => exact inductionHypothesis tree unrefused others _
          | writeOut | writeError => cases output
      | some target =>
          obtain ⟨word, append⟩ := target
          have same : redirection.opening? session.destination =
              (session.destination word).opening? append := by
            rw [Redirection.opening?, output]
            rfl
          rw [same] at first ⊢
          rcases succeeds_openTarget tree unrefused first with ⟨sink, files, ran, leads, kept, map⟩
          -- The rest is routed in the session that the target has been opened in.
          have kept : (session.withFiles files).storage.files.IsTree := kept
          rw [PathMap.openAll_append, ← map, run_route_of_output output ran, List.foldl_cons,
            ← descriptors_lead output leads]
          exact inductionHypothesis kept unrefused
            (fun opening member => map ▸ (others opening member).openAll first) _

/-! ## Handing out the texts -/

/-- A text reaches its sink, and nothing else changes. -/
theorem succeeds_deliver {map : PathMap} {opened : List Opening} {received : List String → String}
    (unrefused : session.storage.refused = [])
    (tree : IsTreeOf (map.written opened received) session.storage.files) (text : String)
    {sink : Sink} {destination : Destination} (leads : sink.destination = destination)
    (present : ∀ parts, destination = .file parts → parts ∈ opened.map Opening.parts)
    (streams : String × String) :
    ∃ files, (deliver text sink streams).run session =
        (.ok (.ok (streams.1 ++ (if destination = .stdout then text else ""),
          streams.2 ++ (if destination = .stderr then text else ""))),
          session.withFiles files) ∧
      IsTreeOf (map.written opened fun parts =>
        received parts ++ if destination = .file parts then text else "") files := by
  subst leads
  -- Where no file receives anything, the files stay as they are.
  have unchanged (nothing : ∀ parts, (if sink.destination = .file parts then text else "") = "") :
      IsTreeOf (map.written opened fun parts =>
        received parts ++ if sink.destination = .file parts then text else "")
        session.storage.files := by
    simpa only [nothing, String.append_empty] using tree
  cases sink with
  | stdout =>
      refine ⟨session.storage.files, ?_, unchanged (by simp [Sink.destination])⟩
      simp [Sink.destination, deliver, run_pure, Session.withFiles]
  | stderr =>
      refine ⟨session.storage.files, ?_, unchanged (by simp [Sink.destination])⟩
      simp [Sink.destination, deliver, run_pure, Session.withFiles]
  | nowhere =>
      refine ⟨session.storage.files, ?_, unchanged (by simp [Sink.destination])⟩
      simp [Sink.destination, deliver, run_pure, Session.withFiles]
  | file path label =>
      unfold deliver
      simp only [Sink.destination, reduceCtorEq, if_false, String.append_empty]
      by_cases empty : text = ""
      · subst empty
        refine ⟨session.storage.files, ?_, unchanged (by simp)⟩
        simp [run_pure, Session.withFiles]
      · have named := present _ rfl
        have room : session.storage.files.view.Writable (Path.parts path) := by
          rw [tree.2]
          exact PathMap.writable_written named
        rcases tree.1.succeeds_append room text with ⟨files, ends, kept, view⟩
        refine ⟨files, ?_, kept, ?_⟩
        · simp only [String.isEmpty_iff, empty, if_false, run_bind, Storage.append,
            Engine.run_attempt_perform unrefused, ends]
          rfl
        · rw [view, tree.2, PathMap.put_appended_written named]
          simp only [Destination.file.injEq, eq_comm]

/-! ## All redirections -/

/-- Redirections that are all about the input change no descriptor and open no file. -/
theorem opening?_of_isInput {redirection : Redirection} (input : isInput redirection = true)
    (target : Word → Destination) (table : Descriptors) :
    redirection.opening? target = none ∧ table.redirect target redirection = table := by
  cases redirection with
  | readIn word => exact ⟨rfl, rfl⟩
  | writeOut | writeError | errorToOut | outToError => cases input

theorem openings_of_isInput (input : redirections.all isInput = true)
    (target : Word → Destination) (table : Descriptors) :
    openings target redirections = [] ∧
      redirections.foldl (Descriptors.redirect target) table = table := by
  induction redirections generalizing table with
  | nil => exact ⟨rfl, rfl⟩
  | cons redirection rest inductionHypothesis =>
      rw [List.all_cons, Bool.and_eq_true] at input
      rcases opening?_of_isInput input.1 target table with ⟨none, same⟩
      rw [openings_cons, none, List.foldl_cons, same]
      exact inductionHypothesis input.2 table

/-- If each target can be opened, every text of a command ends where the table of descriptors
says: the returned streams hold what is left to them, every opened file holds what is left of
it and behind it what it receives, and nothing else in the session changes. -/
theorem applyRedirections_eq_descriptors (reachable : session.storage.files.Reachable)
    (unrefused : session.storage.refused = [])
    (opens : ∀ output ∈ redirections.filterMap Redirection.output?,
      CanOpen session output.1 output.2)
    (outcome : Outcome) :
    let table := redirections.foldl (Descriptors.redirect session.destination) .initial
    ∃ files, (applyRedirections outcome redirections).run session =
        (.ok ⟨table.received outcome .stdout, table.received outcome .stderr, outcome.exitCode⟩,
          session.withFiles files) ∧
      files.view = session.storage.files.view.written
        (openings session.destination redirections)
        fun parts => table.received outcome (.file parts) := by
  intro table
  have tree := reachable.isTree
  unfold applyRedirections
  by_cases input : redirections.all isInput = true
  · rcases openings_of_isInput input session.destination .initial with ⟨none, same⟩
    refine ⟨session.storage.files, ?_, ?_⟩
    · simp only [if_pos input, table, same]
      simp [Descriptors.received, Descriptors.initial, run_pure, Session.withFiles]
    · rw [none]
      rfl
  · have writable : ∀ opening ∈ openings session.destination redirections,
        session.storage.files.view.Writable opening.parts := by
      intro opening member
      rcases List.mem_filterMap.1 member with ⟨redirection, among, opened⟩
      rcases Option.bind_eq_some_iff.1 opened with ⟨output, names, named⟩
      have room := opens output (List.mem_filterMap.2 ⟨redirection, among, names⟩)
      exact writable_of_canOpen tree unrefused room opening (by simp [named])
    rcases succeeds_route redirections tree unrefused writable ⟨.stdout, .stderr⟩ with
      ⟨routing, opened, routed, leads, map⟩
    have final : routing.descriptors = table := leads
    have present : ∀ parts, table.out = .file parts ∨ table.error = .file parts →
        parts ∈ (openings session.destination redirections).map Opening.parts := by
      intro parts somewhere
      rcases mem_openings_of_leads somewhere with (other | other) | member
      · cases other
      · cases other
      · exact member
    rw [PathMap.openAll_eq_written] at map
    have calm : ∀ files, (session.withFiles files).storage.refused = [] := fun _ => unrefused
    rcases succeeds_deliver (calm opened) map outcome.stdout
        (congrArg Descriptors.out final) (fun parts leads => present parts (.inl leads)) ("", "")
      with ⟨between, first, map⟩
    rcases succeeds_deliver (calm between) map outcome.stderr
        (congrArg Descriptors.error final) (fun parts leads => present parts (.inr leads))
        (if table.out = .stdout then outcome.stdout else "",
          if table.out = .stderr then outcome.stdout else "")
      with ⟨files, second, map⟩
    refine ⟨files, ?_, ?_⟩
    · have both : ((session.withFiles opened).withFiles between) = session.withFiles between := rfl
      simp only [if_neg input, run_bind, routed, first, both, second, String.empty_append]
      rfl
    · rw [map.2]
      simp only [Descriptors.received, String.empty_append]

/-- A session in the root directory of a tree with one file. -/
def loggedSession : Session :=
  ⟨"/", "/", .empty, .empty, [], 0, 0, 0, 0,
    .own ((Files.empty 0).after 1 (.write "/log" "old" false)), .empty none⟩

/-- `>> log 2>&1 > ./new`: the errors stay with the file that the output has left. -/
theorem applyRedirections_of_left_file :
    loggedSession.storage.files.Reachable ∧ loggedSession.storage.refused = [] ∧
      ∃ files, (applyRedirections ⟨"out", "bad", 3⟩
          [.writeOut ⟨[⟨"log", .unquoted⟩], 0, 3⟩ true, .errorToOut,
            .writeOut ⟨[⟨"./new", .unquoted⟩], 0, 5⟩ false]).run loggedSession =
          (.ok ⟨"", "", 3⟩, loggedSession.withFiles files) ∧
        files.view ["log"] = some (.file "oldbad") ∧ files.view ["new"] = some (.file "out") := by
  have reachable : loggedSession.storage.files.Reachable := .tried (.empty 0) 1 _
  rcases @applyRedirections_eq_descriptors loggedSession
      [.writeOut ⟨[⟨"log", .unquoted⟩], 0, 3⟩ true, .errorToOut,
        .writeOut ⟨[⟨"./new", .unquoted⟩], 0, 5⟩ false]
      reachable rfl (by decide +kernel) ⟨"out", "bad", 3⟩ with ⟨files, ran, view⟩
  refine ⟨reachable, rfl, files, ran.trans (congrArg (fun returned : Outcome =>
    (Except.ok returned, loggedSession.withFiles files)) ?_), ?_, ?_⟩
  · decide +kernel
  · rw [view]
    decide +kernel
  · rw [view]
    decide +kernel

end Redirect

end VirtualShell
