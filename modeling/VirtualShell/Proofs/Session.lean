import VirtualShell.Proofs.Table
import VirtualShell.Proofs.Text.Digit
import VirtualShell.Session

/-!
Contract: what entering and leaving a function does to the variables.

Owns:
- `Session.isParameter`, the variables that stand for the arguments of a call;
- `Session.HoldsArguments`, their values when a body starts, and `holdsArguments_enterFunction`;
- `get?_restoreAll_of_forall` and `get?_restoreAll_of_notMem`, what putting values back does;
- `get?_leaveFunction_of_parameter` and `get?_leaveFunction_of_not_parameter`, that a call puts
  the parameters back, and that closing its frames is all that it does to other variables.
-/

namespace VirtualShell

namespace Session

/-! ## Names -/

theorem isPositional_toString_succ (number : Nat) :
    isPositional (toString (number + 1)) = true := by
  have other : toString (number + 1) ≠ "0" := fun same =>
    Nat.succ_ne_zero number (Text.toString_inj same)
  unfold isPositional
  rw [Text.isDigits_toString]
  exact bne_iff_ne.2 other

/-- The variables that stand for the arguments of a call. -/
def isParameter (name : String) : Bool :=
  ["@", "*", "#"].contains name || isPositional name

theorem isParameter_of_isName {name : String} (valid : isName name = true) :
    isParameter name = false := by
  have named : name ≠ "@" ∧ name ≠ "*" ∧ name ≠ "#" := by
    refine ⟨?_, ?_, ?_⟩
    all_goals
      rintro rfl
      cases valid
  simp [isParameter, isPositional, named, Text.isDigits_of_isName valid]

/-! ## Saved values -/

theorem get?_restore (environment : Environment) (name other : String) (value : Option String) :
    (environment.restore name value).get? other =
      if name = other then value else environment.get? other := by
  cases value with
  | none => exact Table.get?_erase environment name other
  | some value => exact Table.get?_insert environment name other value

theorem get?_restoreAll_of_notMem {entries : List (String × Option String)} {name : String}
    (absent : name ∉ entries.map Prod.fst) (environment : Environment) :
    (restoreAll environment entries).get? name = environment.get? name := by
  induction entries generalizing environment with
  | nil => rfl
  | cons entry rest inductionHypothesis =>
      rw [List.map_cons, List.mem_cons, not_or] at absent
      show (restoreAll (environment.restore entry.1 entry.2) rest).get? name = _
      rw [inductionHypothesis absent.2, get?_restore, if_neg (Ne.symm absent.1)]

/-- If all entries of a name agree, this is the value that it is put back to. -/
theorem get?_restoreAll_of_forall {entries : List (String × Option String)} {name : String}
    {value : Option String} (saved : name ∈ entries.map Prod.fst)
    (same : ∀ entry ∈ entries, entry.1 = name → entry.2 = value) (environment : Environment) :
    (restoreAll environment entries).get? name = value := by
  induction entries generalizing environment with
  | nil => cases saved
  | cons entry rest inductionHypothesis =>
      show (restoreAll (environment.restore entry.1 entry.2) rest).get? name = value
      by_cases later : name ∈ rest.map Prod.fst
      · apply inductionHypothesis later
        exact fun other member => same other (List.mem_cons_of_mem _ member)
      · rw [List.map_cons, List.mem_cons] at saved
        obtain first | later' := saved
        · rw [get?_restoreAll_of_notMem later, get?_restore, if_pos first.symm]
          exact same entry List.mem_cons_self first.symm
        · exact absurd later' later

theorem mem_hiddenNames {environment : Environment} {count : Nat} {name : String} :
    name ∈ hiddenNames environment count ↔
      (∃ index < count, toString (index + 1) = name) ∨ name ∈ ["@", "*", "#"] ∨
        (environment.get? name).isSome ∧ isPositional name = true := by
  unfold hiddenNames
  rw [List.mem_eraseDups, List.mem_append, List.mem_append, List.mem_map, List.mem_filter,
    Table.mem_keys_iff, or_assoc]
  simp only [List.mem_range]

theorem isParameter_of_mem_hiddenNames {environment : Environment} {count : Nat} {name : String}
    (hidden : name ∈ hiddenNames environment count) : isParameter name = true := by
  unfold isParameter
  obtain ⟨index, -, rfl⟩ | special | ⟨-, positional⟩ := mem_hiddenNames.1 hidden
  · rw [isPositional_toString_succ, Bool.or_true]
  · rw [List.contains_iff_mem.2 special, Bool.true_or]
  · rw [positional, Bool.or_true]

theorem get?_restoreAll_hiddenValues (caller environment : Environment) (count : Nat)
    (name : String) :
    (restoreAll environment (hiddenValues caller count)).get? name =
      if name ∈ hiddenNames caller count then caller.get? name else environment.get? name := by
  have names : (hiddenValues caller count).map Prod.fst = hiddenNames caller count := by
    simp [hiddenValues, Function.comp_def]
  split
  · rename_i hidden
    apply get?_restoreAll_of_forall
    · rw [names]
      exact hidden
    · rintro entry member rfl
      obtain ⟨other, -, rfl⟩ := List.mem_map.1 member
      rfl
  · rename_i shown
    apply get?_restoreAll_of_notMem
    rw [names]
    exact shown

/-! ## The start of a call -/

/-- The variables are those of a call with these arguments, as far as they stand for them. -/
structure HoldsArguments (environment : Environment) (arguments : List String) : Prop where
  argument : ∀ index (valid : index < arguments.length),
    environment.get? (toString (index + 1)) = some arguments[index]
  unset : ∀ name, isPositional name = true →
    (∀ index < arguments.length, toString (index + 1) ≠ name) → environment.get? name = none
  count : environment.get? "#" = some (toString arguments.length)
  all : environment.get? "@" = some (Text.joinWith " " arguments)
  joined : environment.get? "*" = some (Text.joinWith " " arguments)

/-- The variables in which the numbers from `first` on are set to `arguments`. -/
def withNumbered (environment : Environment) (first : Nat) (arguments : List String) :
    Environment :=
  (arguments.zipIdx first).foldl
    (fun environment (argument, index) => environment.insert (toString index) argument)
    environment

theorem withNumbered_cons (environment : Environment) (first : Nat) (argument : String)
    (rest : List String) :
    withNumbered environment first (argument :: rest) =
      withNumbered (environment.insert (toString first) argument) (first + 1) rest :=
  rfl

theorem get?_withNumbered_of_forall_ne {name : String} {arguments : List String} {first : Nat}
    (other : ∀ index < arguments.length, toString (first + index) ≠ name)
    (environment : Environment) :
    (withNumbered environment first arguments).get? name = environment.get? name := by
  induction arguments generalizing first environment with
  | nil => rfl
  | cons argument rest inductionHypothesis =>
      rw [withNumbered_cons, inductionHypothesis, Table.get?_insert, if_neg]
      · exact other 0 (Nat.zero_lt_succ _)
      · intro index valid
        rw [Nat.add_assoc, Nat.add_comm 1]
        exact other (index + 1) (Nat.succ_lt_succ valid)

theorem get?_withNumbered (environment : Environment) (first : Nat) (arguments : List String)
    (index : Nat) (valid : index < arguments.length) :
    (withNumbered environment first arguments).get? (toString (first + index)) =
      some arguments[index] := by
  induction arguments generalizing first environment index with
  | nil => cases valid
  | cons argument rest inductionHypothesis =>
      rw [withNumbered_cons]
      cases index with
      | zero =>
          -- The numbers behind the first one are greater, so that its value stays.
          rw [get?_withNumbered_of_forall_ne, Table.get?_insert]
          · exact if_pos rfl
          · intro later _ same
            have := Text.toString_inj same
            omega
      | succ index =>
          have later := inductionHypothesis (environment.insert (toString first) argument)
            (first + 1) index (Nat.lt_of_succ_lt_succ valid)
          rw [Nat.add_right_comm] at later
          exact later

theorem not_special_of_isDigits {name : String} (digits : Text.isDigits name = true) :
    name ≠ "@" ∧ name ≠ "*" ∧ name ≠ "#" := by
  refine ⟨?_, ?_, ?_⟩
  all_goals
    rintro rfl
    cases digits

theorem get?_withArguments_of_not_special {name : String}
    (named : name ≠ "@" ∧ name ≠ "*" ∧ name ≠ "#") (environment : Environment)
    (arguments : List String) :
    (withArguments environment arguments).get? name =
      (withNumbered environment 1 arguments).get? name := by
  show ((((withNumbered environment 1 arguments).insert "@" _).insert "*" _).insert "#" _).get? name
    = _
  rw [Table.get?_insert, if_neg named.2.2.symm, Table.get?_insert, if_neg named.2.1.symm,
    Table.get?_insert, if_neg named.1.symm]

/-- A call starts with its own arguments, and with nothing of the caller's. -/
theorem holdsArguments_enterFunction (session : Session) (arguments : List String) :
    HoldsArguments (session.enterFunction arguments).environment arguments where
  argument index valid := by
    show (withArguments _ arguments).get? _ = _
    rw [get?_withArguments_of_not_special (not_special_of_isDigits (Text.isDigits_toString _)),
      Nat.add_comm]
    exact get?_withNumbered _ 1 arguments index valid
  unset name positional other := by
    have named := not_special_of_isDigits (Bool.and_eq_true_iff.1 positional).1
    show (withArguments _ arguments).get? _ = _
    rw [get?_withArguments_of_not_special named, get?_withNumbered_of_forall_ne,
      Table.get?_eraseAll]
    · split
      · rfl
      · rename_i shown
        rw [mem_hiddenNames, not_or, not_or] at shown
        cases found : session.environment.get? name with
        | none => rfl
        | some value => exact absurd ⟨Option.isSome_of_eq_some found, positional⟩ shown.2.2
    · intro index valid
      rw [Nat.add_comm]
      exact other index valid
  count := by
    show (((_ : Environment).insert "#" _).get? "#") = _
    rw [Table.get?_insert, if_pos rfl]
  all := by
    show ((((_ : Environment).insert "@" _).insert "*" _).insert "#" _).get? "@" = _
    simp only [Table.get?_insert, if_pos, String.reduceEq, if_neg, not_false_iff]
  joined := by
    show (((_ : Environment).insert "*" _).insert "#" _).get? "*" = _
    simp only [Table.get?_insert, if_pos, String.reduceEq, if_neg, not_false_iff]

/-! ## The end of a call -/

theorem get?_eraseAll_filter_keys (environment : Environment) (drops : String → Bool)
    (name : String) :
    (environment.eraseAll (environment.keys.filter drops)).get? name =
      if drops name then none else environment.get? name := by
  rw [Table.get?_eraseAll]
  by_cases dropped : drops name = true
  · rw [if_pos dropped]
    split
    · rfl
    · rename_i kept
      rw [Table.get?_eq_none_iff]
      exact fun member => kept (List.mem_filter.2 ⟨member, dropped⟩)
  · rw [if_neg dropped, if_neg fun member => dropped (List.mem_filter.1 member).2]

/-- A variable after a call: one that the call has hidden is the caller's, another one is what the
frames leave of it, or unset if it is positional. -/
theorem get?_leaveFunction (caller : Environment) (count : Nat) (session : Session)
    (depth scopes : Nat) (name : String) :
    (session.leaveFunction depth scopes (hiddenValues caller count)).environment.get? name =
      if name ∈ hiddenNames caller count then caller.get? name
      else if isPositional name then none
      else (popScopesTo scopes { session with callDepth := depth }).environment.get? name := by
  unfold leaveFunction
  dsimp only
  rw [get?_restoreAll_hiddenValues, get?_eraseAll_filter_keys]

/-- Each parameter is the caller's again when a call is left, whatever has become of it. -/
theorem get?_leaveFunction_of_parameter {name : String} (parameter : isParameter name = true)
    (caller : Environment) (count : Nat) (session : Session) (depth scopes : Nat) :
    (session.leaveFunction depth scopes (hiddenValues caller count)).environment.get? name =
      caller.get? name := by
  rw [get?_leaveFunction]
  split
  · rfl
  · rename_i shown
    -- What the call has not hidden is positional, and the caller has no such variable.
    rw [mem_hiddenNames, not_or, not_or] at shown
    obtain ⟨-, named, unset⟩ := shown
    have positional : isPositional name = true := by
      rw [isParameter, Bool.or_eq_true, List.contains_iff_mem] at parameter
      exact parameter.resolve_left named
    rw [if_pos positional]
    cases found : caller.get? name with
    | none => rfl
    | some value => exact absurd ⟨Option.isSome_of_eq_some found, positional⟩ unset

/-- To a variable that is no parameter, leaving a call only does what closing its frames does. -/
theorem get?_leaveFunction_of_not_parameter {name : String} (other : isParameter name = false)
    (caller : Environment) (count : Nat) (session : Session) (depth scopes : Nat) :
    (session.leaveFunction depth scopes (hiddenValues caller count)).environment.get? name =
      (popScopesTo scopes { session with callDepth := depth }).environment.get? name := by
  have shown : name ∉ hiddenNames caller count := fun hidden => by
    rw [isParameter_of_mem_hiddenNames hidden] at other
    cases other
  rw [isParameter, Bool.or_eq_false_iff] at other
  rw [get?_leaveFunction, if_neg shown, other.2, if_neg Bool.false_ne_true]

end Session

end VirtualShell
