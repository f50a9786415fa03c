/-!
Contract: what work on a state that can fail does when it is run.

Owns:
- the equations of `ExceptT` over `StateM`: what each way of building work does to a
  state, and what the work that follows a failure does, namely nothing;
- `Leaves`, that work leaves part of the state as it was; one rule for each way of building work;
- `Succeeds`, that work ends well from the states of a kind and what it yields then; the same rules;
- `Reports`, that work comes back to its state, and when it ends well; the same rules;
- what work without a state must have done to succeed.

Work on file trees, storages, shells and sessions is of this kind. What it has changed
before it fails stays changed.
-/

namespace VirtualShell.Fallible

variable {ε σ α β : Type}

theorem run_bind (work : ExceptT ε (StateM σ) α) (next : α → ExceptT ε (StateM σ) β) (state : σ) :
    (work >>= next).run state =
      match work.run state with
      | (.ok value, after) => (next value).run after
      | (.error failure, after) => (.error failure, after) := by
  change (match work.run state with | (result, after) => ExceptT.bindCont next result after) = _
  rcases work.run state with ⟨_ | _, after⟩ <;> rfl

/-- One piece of work after another ends well exactly if both do. -/
theorem run_bind_eq_ok_iff {work : ExceptT ε (StateM σ) α} {next : α → ExceptT ε (StateM σ) β}
    {state after : σ} {result : β} :
    (work >>= next).run state = (.ok result, after) ↔
      ∃ value between, work.run state = (.ok value, between) ∧
        (next value).run between = (.ok result, after) := by
  rw [run_bind]
  rcases work.run state with ⟨failure | value, between⟩
  · constructor
    · intro failed
      cases failed
    · rintro ⟨value, between, ended, -⟩
      cases ended
  · constructor
    · intro ended
      exact ⟨value, between, rfl, ended⟩
    · rintro ⟨_, _, same, ended⟩
      cases same
      exact ended

theorem run_pure (value : α) (state : σ) :
    (pure value : ExceptT ε (StateM σ) α).run state = (.ok value, state) :=
  rfl

theorem run_throw (failure : ε) (state : σ) :
    (throw failure : ExceptT ε (StateM σ) α).run state = (.error failure, state) :=
  rfl

theorem run_get (state : σ) :
    (get : ExceptT ε (StateM σ) σ).run state = (.ok state, state) :=
  rfl

theorem run_set (state next : σ) :
    (set next : ExceptT ε (StateM σ) Unit).run state = (.ok (), next) :=
  rfl

theorem run_modify (change : σ → σ) (state : σ) :
    (modify change : ExceptT ε (StateM σ) Unit).run state = (.ok (), change state) :=
  rfl

theorem run_tryCatch (work : ExceptT ε (StateM σ) α) (handler : ε → ExceptT ε (StateM σ) α)
    (state : σ) :
    (tryCatch work handler).run state =
      match work.run state with
      | (.ok value, after) => (.ok value, after)
      | (.error failure, after) => (handler failure).run after := by
  unfold ExceptT.run
  simp only [tryCatch, tryCatchThe, MonadExceptOf.tryCatch, ExceptT.tryCatch, ExceptT.mk, bind,
    StateT.bind]
  rcases work state with ⟨_ | _, after⟩ <;> rfl

theorem run_mapM (result : α → β) {work : α → ExceptT ε (StateM σ) β} {state : σ}
    (each : ∀ item, (work item).run state = (.ok (result item), state)) (items : List α) :
    (items.mapM work).run state = (.ok (items.map result), state) := by
  induction items with
  | nil => rfl
  | cons item rest inductionHypothesis =>
      rw [List.mapM_cons, run_bind, each]
      simp only [run_bind, inductionHypothesis, run_pure, List.map_cons]

/-! ## What work leaves as it was -/

variable {γ : Type}

/-- The work leaves what a view shows of the state as it was, also when it fails. -/
def Leaves (view : σ → γ) (work : ExceptT ε (StateM σ) α) : Prop :=
  ∀ state, view (work.run state).2 = view state

namespace Leaves

variable {view : σ → γ}

theorem pure (value : α) : Leaves view (pure value : ExceptT ε (StateM σ) α) :=
  fun _ => rfl

theorem throw (failure : ε) : Leaves view (throw failure : ExceptT ε (StateM σ) α) :=
  fun _ => rfl

theorem get : Leaves view (get : ExceptT ε (StateM σ) σ) :=
  fun _ => rfl

theorem bind {work : ExceptT ε (StateM σ) α} {next : α → ExceptT ε (StateM σ) β}
    (first : Leaves view work) (others : ∀ value, Leaves view (next value)) :
    Leaves view (work >>= next) := by
  intro state
  rw [run_bind]
  have left := first state
  rcases ran : work.run state with ⟨failure | value, after⟩
  · rw [ran] at left
    exact left
  · rw [ran] at left
    exact (others value after).trans left

theorem ofExcept (result : Except ε α) :
    Leaves view (MonadExcept.ofExcept result : ExceptT ε (StateM σ) α) := by
  cases result with
  | error failure => exact throw failure
  | ok value => exact pure value

theorem mapM {work : α → ExceptT ε (StateM σ) β} (each : ∀ item, Leaves view (work item))
    (items : List α) : Leaves view (items.mapM work) := by
  induction items with
  | nil => exact pure []
  | cons item rest inductionHypothesis =>
      rw [List.mapM_cons]
      exact (each item).bind fun value => inductionHypothesis.bind fun values => pure _

theorem forM {work : α → ExceptT ε (StateM σ) Unit} (each : ∀ item, Leaves view (work item))
    (items : List α) : Leaves view (items.forM work) := by
  induction items with
  | nil => exact pure ()
  | cons item rest inductionHypothesis => exact (each item).bind fun _ => inductionHypothesis

end Leaves

/-! ## Work that ends well -/

/-- From every state of a kind the work ends well, in a state of this kind and with a result that
is as said. -/
def Succeeds (kind : σ → Prop) (holds : α → Prop) (work : ExceptT ε (StateM σ) α) : Prop :=
  ∀ state, kind state →
    ∃ value after, work.run state = (.ok value, after) ∧ kind after ∧ holds value

namespace Succeeds

variable {kind : σ → Prop} {holds : α → Prop}

theorem pure {value : α} (held : holds value) :
    Succeeds kind holds (pure value : ExceptT ε (StateM σ) α) :=
  fun state fits => ⟨value, state, rfl, fits, held⟩

theorem get : Succeeds kind kind (get : ExceptT ε (StateM σ) σ) :=
  fun state fits => ⟨state, state, rfl, fits, fits⟩

theorem of_run {work : ExceptT ε (StateM σ) α} {state : σ} {value : α}
    (ran : work.run state = (.ok value, state)) : Succeeds (· = state) (· = value) work := by
  rintro _ rfl
  exact ⟨value, _, ran, rfl, rfl⟩

theorem bind {work : ExceptT ε (StateM σ) α} {next : α → ExceptT ε (StateM σ) β}
    {result : β → Prop} (first : Succeeds kind holds work)
    (others : ∀ value, holds value → Succeeds kind result (next value)) :
    Succeeds kind result (work >>= next) := by
  intro state fits
  obtain ⟨value, between, ran, fitsBetween, held⟩ := first state fits
  rw [run_bind, ran]
  exact others value held between fitsBetween

theorem mapM {work : α → ExceptT ε (StateM σ) β} {result : β → Prop} {items : List α}
    (each : ∀ item ∈ items, Succeeds kind result (work item)) :
    Succeeds kind (fun values => ∀ value ∈ values, result value) (items.mapM work) := by
  induction items with
  | nil => exact pure (List.forall_mem_nil _)
  | cons item rest inductionHypothesis =>
      rw [List.mapM_cons]
      obtain ⟨first, others⟩ := List.forall_mem_cons.1 each
      exact first.bind fun value held => (inductionHypothesis others).bind fun values heldAll =>
        pure (List.forall_mem_cons.2 ⟨held, heldAll⟩)

end Succeeds

/-- From every state of a kind the work ends well, in a state of this kind. -/
abbrev Completes (kind : σ → Prop) (work : ExceptT ε (StateM σ) α) : Prop :=
  Succeeds kind (fun _ => True) work

namespace Completes

variable {kind : σ → Prop}

theorem pure (value : α) : Completes kind (pure value : ExceptT ε (StateM σ) α) :=
  Succeeds.pure trivial

theorem mapM {work : α → ExceptT ε (StateM σ) β} {items : List α}
    (each : ∀ item ∈ items, Completes kind (work item)) : Completes kind (items.mapM work) := by
  intro state fits
  obtain ⟨values, after, ran, fitsAfter, -⟩ := Succeeds.mapM each state fits
  exact ⟨values, after, ran, fitsAfter, trivial⟩

end Completes

/-! ## Work that changes nothing -/

/-- From the state the work comes back to it; it ends well exactly if a condition is met, and then
with a result as said. -/
def Reports (state : σ) (met : Prop) (holds : α → Prop) (work : ExceptT ε (StateM σ) α) : Prop :=
  ∃ result, work.run state = (result, state) ∧ ((∃ value, result = .ok value) ↔ met) ∧
    ∀ value, result = .ok value → holds value

namespace Reports

variable {state : σ} {met also : Prop} {holds : α → Prop}

theorem pure {value : α} (held : holds value) :
    Reports state True holds (pure value : ExceptT ε (StateM σ) α) :=
  ⟨.ok value, rfl, iff_of_true ⟨value, rfl⟩ trivial, fun _ same => Except.ok.inj same ▸ held⟩

theorem throw (failure : ε) :
    Reports state False holds (throw failure : ExceptT ε (StateM σ) α) :=
  ⟨.error failure, rfl, iff_of_false nofun id, nofun⟩

theorem of_run {work : ExceptT ε (StateM σ) α} {value : α}
    (ran : work.run state = (.ok value, state)) : Reports state True (· = value) work :=
  ⟨.ok value, ran, iff_of_true ⟨value, rfl⟩ trivial, fun _ same => (Except.ok.inj same).symm⟩

theorem congr {work : ExceptT ε (StateM σ) α} (reports : Reports state met holds work)
    (same : met ↔ also) : Reports state also holds work := by
  obtain ⟨result, ran, ends, held⟩ := reports
  exact ⟨result, ran, ends.trans same, held⟩

theorem bind {work : ExceptT ε (StateM σ) α} {next : α → ExceptT ε (StateM σ) β}
    {result : β → Prop} (first : Reports state met holds work)
    (others : ∀ value, holds value → Reports state also result (next value)) :
    Reports state (met ∧ also) result (work >>= next) := by
  obtain ⟨answer, ran, ends, held⟩ := first
  unfold Reports
  rw [run_bind, ran]
  cases answer with
  | error failure =>
      have failed : ¬ met := fun good => nomatch ends.2 good
      exact ⟨.error failure, rfl, iff_of_false nofun fun both => failed both.1, nofun⟩
  | ok value =>
      rw [and_iff_right (ends.1 ⟨value, rfl⟩)]
      exact others value (held value rfl)

/-- One item after the other is worked on; what is seen of the results is what was said of each. -/
theorem mapM {γ : Type} {work : α → ExceptT ε (StateM σ) β} {met : α → Prop} {view : β → γ}
    {shown : α → γ} {items : List α}
    (each : ∀ item ∈ items, Reports state (met item) (fun value => view value = shown item)
      (work item)) :
    Reports state (∀ item ∈ items, met item) (fun values => values.map view = items.map shown)
      (items.mapM work) := by
  have yields {items : List α} {values : List β} (same : values.map view = items.map shown) :
      Reports state True (fun values => values.map view = items.map shown)
        (Pure.pure values : ExceptT ε (StateM σ) (List β)) :=
    pure same
  induction items with
  | nil => exact (yields rfl).congr (iff_of_true trivial (List.forall_mem_nil _))
  | cons item rest inductionHypothesis =>
      rw [List.mapM_cons]
      obtain ⟨first, others⟩ := List.forall_mem_cons.1 each
      have whole := first.bind fun value same => (inductionHypothesis others).bind
        fun values sameAll => @yields (item :: rest) (value :: values)
          (by rw [List.map_cons, List.map_cons, same, sameAll])
      exact whole.congr (by rw [and_true, List.forall_mem_cons])

end Reports

/-! ## Work without a state -/

theorem exists_of_bind {work : Except ε α} {next : α → Except ε β} {result : β}
    (done : (work >>= next) = .ok result) :
    ∃ value, work = .ok value ∧ next value = .ok result := by
  cases work with
  | error failure => cases done
  | ok value => exact ⟨value, rfl, done⟩

theorem exists_of_map {work : Except ε α} {convert : α → β} {result : β}
    (done : work.map convert = .ok result) :
    ∃ value, work = .ok value ∧ convert value = result := by
  cases work with
  | error failure => cases done
  | ok value => exact ⟨value, rfl, Except.ok.inj done⟩

theorem error_of_map {work : Except ε α} {convert : α → β} {failure : ε}
    (failed : work.map convert = .error failure) : work = .error failure := by
  cases work with
  | error other => exact congrArg Except.error (Except.error.inj failed)
  | ok value => cases failed

/-- Where one item after the other is worked on, a failure is that of an item. -/
theorem exists_of_mapM_error {work : α → Except ε β} {items : List α} {failure : ε}
    (failed : items.mapM work = .error failure) : ∃ item ∈ items, work item = .error failure := by
  induction items with
  | nil => cases failed
  | cons item rest inductionHypothesis =>
      rw [List.mapM_cons] at failed
      rcases first : work item with other | value
      · rw [first] at failed
        cases failed
        exact ⟨item, List.mem_cons_self, first⟩
      · rcases others : rest.mapM work with other | values
        · rw [first, others] at failed
          cases failed
          obtain ⟨culprit, member, fails⟩ := inductionHypothesis others
          exact ⟨culprit, List.mem_cons_of_mem _ member, fails⟩
        · rw [first, others] at failed
          cases failed

/-- One item after the other is worked on without a failure exactly if each of them can be. -/
theorem exists_mapM_iff {work : α → Except ε β} {items : List α} :
    (∃ values, items.mapM work = .ok values) ↔ ∀ item ∈ items, ∃ value, work item = .ok value := by
  induction items with
  | nil => exact iff_of_true ⟨[], rfl⟩ (List.forall_mem_nil _)
  | cons item rest inductionHypothesis =>
      rw [List.mapM_cons, List.forall_mem_cons, ← inductionHypothesis]
      constructor
      · rintro ⟨values, done⟩
        obtain ⟨value, first, others⟩ := exists_of_bind done
        obtain ⟨behind, read, -⟩ := exists_of_bind others
        exact ⟨⟨value, first⟩, behind, read⟩
      · rintro ⟨⟨value, first⟩, behind, read⟩
        rw [first, read]
        exact ⟨value :: behind, rfl⟩

theorem eq_ok_of_toOption {work : Except ε α} {value : α} (found : work.toOption = some value) :
    work = .ok value := by
  cases work with
  | error failure => cases found
  | ok other => exact congrArg Except.ok (Option.some.inj found)

end VirtualShell.Fallible
