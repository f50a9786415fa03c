import VirtualShell.Proofs.Engine

/-!
Contract: when a second run does what a first one does, in a session with another journal.

Owns:
- `Engine.Relation`, what is known of two runs between two steps, and after what nothing is
  said of the second any more;
- `Engine.Follows`, that one piece of work does what another does as long as the other is not
  spoiled; one rule for each way of building work;
- `agree_iff_follows`: to agree is to follow with the same journal and without excuse.
-/

namespace VirtualShell

/-- The session with another journal. -/
def Session.withJournal (session : Session) (journal : Journal) : Session :=
  { session with journal := journal }

namespace Engine

open VirtualShell.Fallible

/-- How the journal of a second run fits the session of the first one, between two steps and
once work has been cut short. Behind a journal that is spoiled, or an abort that ruins the
run, nothing is said of the second run. -/
structure Relation where
  between : Session → Journal → Prop
  afterwards : Abort → Session → Journal → Prop
  spoiled : Journal → Prop
  ruins : Abort → Journal → Prop

namespace Relation

variable {α β : Type} {relation : Relation}

/-- A run has ended so that nothing is said of the other one. -/
def Spoils (relation : Relation) (left : Except Abort α × Session) : Prop :=
  relation.spoiled left.2.journal ∨
    ∃ abort, left.1 = .error abort ∧ relation.ruins abort left.2.journal

/-- What is known of the journal of the second run once the first has ended. -/
def Holds (relation : Relation) : Except Abort α × Session → Journal → Prop
  | (.ok _, session), journal => relation.between session journal
  | (.error abort, session), journal => relation.afterwards abort session journal

/-- Two runs have ended alike, but for the journals. -/
def Matches (relation : Relation) (left right : Except Abort α × Session) : Prop :=
  ∃ journal, right = (left.1, left.2.withJournal journal) ∧ relation.Holds left journal

/-- If what is known of the second journal determines it, so is the second end. -/
theorem Matches.eq {left right : Except Abort α × Session} (matched : relation.Matches left right)
    (other : Journal → Journal) (determined : ∀ session journal,
      (relation.between session journal ∨ ∃ abort, relation.afterwards abort session journal) →
        journal = other session.journal) :
    right = (left.1, left.2.withJournal (other left.2.journal)) := by
  obtain ⟨journal, same, holds⟩ := matched
  obtain ⟨abort | value, after⟩ := left
  · rw [same, determined after journal (.inr ⟨abort, holds⟩)]
  · rw [same, determined after journal (.inl holds)]

theorem spoils_ok {value : α} {session : Session} :
    relation.Spoils (.ok value, session) ↔ relation.spoiled session.journal := by
  simp [Spoils]

theorem Spoils.of_error {abort : Abort} {session : Session}
    (spoils : relation.Spoils ((.error abort, session) : Except Abort α × Session)) :
    relation.Spoils ((.error abort, session) : Except Abort β × Session) := by
  obtain spoiled | ⟨_, same, ruins⟩ := spoils
  · exact .inl spoiled
  · cases same
    exact .inr ⟨abort, rfl, ruins⟩

end Relation

/-- A change of the session that neither looks at the journal nor changes it. -/
def IsBlind (change : Session → Session) : Prop :=
  ∀ session journal, change (session.withJournal journal) = (change session).withJournal journal

theorem IsBlind.journal {change : Session → Session} (blind : IsBlind change) (session : Session) :
    (change session).journal = session.journal := by
  show (change (session.withJournal session.journal)).journal = session.journal
  rw [blind]
  rfl

/-- The right work does what the left does, unless the left is spoiled; and what has spoiled
the left stays. -/
structure Follows {α : Type} (relation : Relation) (left right : Engine α) : Prop where
  stays : ∀ session, relation.spoiled session.journal → relation.Spoils (left.run session)
  ends : ∀ session journal, relation.between session journal →
    relation.Spoils (left.run session) ∨
      relation.Matches (left.run session) (right.run (session.withJournal journal))

namespace Follows

variable {α β : Type} {relation : Relation}

theorem pure (value : α) : Follows relation (pure value) (pure value) where
  stays _ spoiled := .inl spoiled
  ends _ journal holds := .inr ⟨journal, rfl, holds⟩

/-- Work that ends with an abort after which nothing is said is followed by any other. -/
theorem throw_of_ruins {abort : Abort}
    (ruins : ∀ session journal,
      relation.between session journal → relation.ruins abort session.journal)
    (right : Engine α) : Follows relation (throw abort) right where
  stays _ spoiled := .inl spoiled
  ends session journal holds := .inl (.inr ⟨abort, rfl, ruins session journal holds⟩)

theorem throw {abort : Abort}
    (holds : ∀ session journal,
      relation.between session journal → relation.afterwards abort session journal) :
    Follows relation (throw abort : Engine α) (throw abort) where
  stays _ spoiled := .inl spoiled
  ends session journal between := .inr ⟨journal, rfl, holds session journal between⟩

theorem modify {change : Session → Session} (blind : IsBlind change)
    (keeps : ∀ session journal,
      relation.between session journal → relation.between (change session) journal) :
    Follows relation (modify change) (modify change) where
  stays session spoiled := by
    rw [run_modify, Relation.spoils_ok, blind.journal]
    exact spoiled
  ends session journal holds := by
    refine .inr ⟨journal, ?_, keeps session journal holds⟩
    rw [run_modify, run_modify, blind]

theorem attempt {action : Storage.Action α}
    (keeps : ∀ session storage journal, relation.between session journal →
      relation.between { session with storage := storage } journal) :
    Follows relation (attempt action) (attempt action) where
  stays _ spoiled := .inl spoiled
  ends session journal holds := .inr ⟨journal, rfl, keeps session _ journal holds⟩

theorem record {level : Level} {message source : String}
    (stays : ∀ journal entry, relation.spoiled journal → relation.spoiled (journal.record entry))
    (keeps : ∀ session entry journal, entry.source = source → relation.between session journal →
      relation.between { session with journal := session.journal.record entry }
        (journal.record entry)) :
    Follows relation (record level message source) (record level message source) where
  stays _ spoiled := .inl (stays _ _ spoiled)
  ends session journal holds := .inr ⟨_, rfl, keeps session _ journal rfl holds⟩

theorem ofFaulty {result : Except Fault α}
    (holds : ∀ fault session journal,
      relation.between session journal → relation.afterwards (.fault fault) session journal) :
    Follows relation (ofFaulty result) (ofFaulty result) := by
  cases result with
  | ok value => exact pure value
  | error fault => exact throw (holds fault)

theorem bind {left right : Engine α} {nextLeft nextRight : α → Engine β}
    (first : Follows relation left right)
    (next : ∀ value, Follows relation (nextLeft value) (nextRight value)) :
    Follows relation (left >>= nextLeft) (right >>= nextRight) where
  stays session spoiled := by
    have stays := first.stays session spoiled
    rw [run_bind]
    rcases ran : left.run session with ⟨abort | value, after⟩
    · rw [ran] at stays
      exact stays.of_error
    · rw [ran, Relation.spoils_ok] at stays
      exact (next value).stays after stays
  ends session journal holds := by
    have ends := first.ends session journal holds
    rw [run_bind, run_bind]
    rcases ran : left.run session with ⟨abort | value, after⟩
    · rw [ran] at ends
      obtain spoils | ⟨later, same, holds⟩ := ends
      · exact .inl spoils.of_error
      · rw [same]
        exact .inr ⟨later, rfl, holds⟩
    · rw [ran] at ends
      obtain spoils | ⟨later, same, holds⟩ := ends
      · exact .inl ((next value).stays after (Relation.spoils_ok.1 spoils))
      · rw [same]
        exact (next value).ends after later holds

/-- What is read from the session is the same on both sides, but for the journal. -/
theorem get_bind {nextLeft nextRight : Session → Engine β}
    (next : ∀ session journal,
      Follows relation (nextLeft session) (nextRight (session.withJournal journal))) :
    Follows relation (MonadState.get >>= nextLeft) (MonadState.get >>= nextRight) where
  stays session spoiled := (next session session.journal).stays session spoiled
  ends session journal holds := (next session journal).ends session journal holds

theorem onExit {left right : Engine α} {exit : Except Abort α → Session → Session}
    (work : Follows relation left right) (blind : ∀ result, IsBlind (exit result))
    (keeps : ∀ result session journal, relation.Holds (result, session) journal →
      relation.Holds (result, exit result session) journal) :
    Follows relation (left.onExit exit) (right.onExit exit) where
  stays session spoiled := by
    have stays := work.stays session spoiled
    rw [run_onExit]
    unfold Relation.Spoils at stays ⊢
    rw [(blind _).journal]
    exact stays
  ends session journal holds := by
    rw [run_onExit, run_onExit]
    obtain spoils | ⟨later, same, ends⟩ := work.ends session journal holds
    · left
      unfold Relation.Spoils at spoils ⊢
      rw [(blind _).journal]
      exact spoils
    · right
      rw [same]
      refine ⟨later, ?_, keeps _ _ later ends⟩
      rw [blind]

theorem tryCatch {left right : Engine α} {handlerLeft handlerRight : Abort → Engine α}
    (work : Follows relation left right)
    (stays : ∀ abort session,
      relation.Spoils ((.error abort, session) : Except Abort α × Session) →
        relation.Spoils ((handlerLeft abort).run session))
    (handles : ∀ abort session journal, relation.afterwards abort session journal →
      relation.Spoils ((handlerLeft abort).run session) ∨
        relation.Matches ((handlerLeft abort).run session)
          ((handlerRight abort).run (session.withJournal journal))) :
    Follows relation (tryCatch left handlerLeft) (tryCatch right handlerRight) where
  stays session spoiled := by
    have spoils := work.stays session spoiled
    rw [run_tryCatch]
    rcases ran : left.run session with ⟨abort | value, after⟩
    · rw [ran] at spoils
      exact stays abort after spoils
    · rw [ran] at spoils
      exact spoils
  ends session journal holds := by
    have ends := work.ends session journal holds
    rw [run_tryCatch, run_tryCatch]
    rcases ran : left.run session with ⟨abort | value, after⟩
    · rw [ran] at ends
      obtain spoils | ⟨later, same, ends⟩ := ends
      · exact .inl (stays abort after spoils)
      · rw [same]
        exact handles abort after later ends
    · rw [ran] at ends
      obtain spoils | ⟨later, same, ends⟩ := ends
      · exact .inl spoils
      · rw [same]
        exact .inr ⟨later, rfl, ends⟩

end Follows

/-! ## Agreement -/

/-- The same journal on both sides, under a condition, without excuse. -/
def Relation.diagonal (condition : Condition) : Relation where
  between session journal := journal = session.journal ∧ condition.between session
  afterwards abort session journal :=
    journal = session.journal ∧ condition.afterwards abort session
  spoiled _ := False
  ruins _ _ := False

theorem agree_iff_follows {α : Type} {condition : Condition} {left right : Engine α} :
    Agree condition left right ↔ Follows (.diagonal condition) left right := by
  constructor
  · intro agree
    refine ⟨fun _ spoiled => spoiled.elim, ?_⟩
    rintro session journal ⟨rfl, holds⟩
    obtain ⟨same, ends⟩ := agree session holds
    refine .inr ⟨(left.run session).2.journal, same.symm, ?_⟩
    rcases ran : left.run session with ⟨abort | value, after⟩
    all_goals
      rw [ran] at ends
      exact ⟨rfl, ends⟩
  · intro follows session holds
    obtain (spoiled | ⟨_, _, ruined⟩) | ⟨journal, same, ends⟩ :=
      follows.ends session session.journal ⟨rfl, holds⟩
    · exact spoiled.elim
    · exact ruined.elim
    · rcases ran : left.run session with ⟨abort | value, after⟩
      all_goals
        rw [ran] at same ends
        obtain ⟨rfl, ends⟩ := ends
        exact ⟨same.symm, ends⟩

end Engine

end VirtualShell
