import Collate.Proofs.Interleaving.Advance

namespace Collate.Interleaving

variable {discipline : Discipline} {environment : Environment}
  {system after : System} {event : Event} {call other ticket : Nat} {key : Key}

/-- What a turn of a call is that is not idle: an event of the call, at the key
of the lock that it has or gets. -/
structure Moves (system after : System) (event : Event) : Prop where
  trace : after.trace = system.trace ++ [event]
  phase : ∀ other, other ≠ event.call → after.phase other = system.phase other
  inside : ∀ key ticket rest, after.phase event.call = .inside key ticket rest →
    event.key = some key
  place : ∀ key, event.key = some key →
    (∃ ticket rest, system.phase event.call = .inside key ticket rest) ∨
    event.act = .entered ∧
    ∃ ticket next, system.phase event.call = .waiting key ticket next ∧
      system.locks.isOwner ticket = true

theorem Moves.of_go {locks : LockTable} {store : Store} {phase : Phase}
    (inside :
      ∀ key ticket rest, phase = .inside key ticket rest → event.key = some key)
    (place : ∀ key, event.key = some key →
      (∃ ticket rest, system.phase event.call = .inside key ticket rest) ∨
      event.act = .entered ∧
      ∃ ticket next, system.phase event.call = .waiting key ticket next ∧
        system.locks.isOwner ticket = true) :
    Moves system ({ system with store, locks }.go event phase) event where
  trace := rfl
  phase := fun _ different => System.phase_go_of_ne _ _ different
  inside := by
    rw [System.phase_go_self]
    exact inside
  place := place

theorem System.advance_eq_or_moves (environment : Environment) (system : System)
    (call : Nat) :
    system.advance environment call = system ∨
    ∃ event, event.call = call ∧
      Moves system (system.advance environment call) event := by
  unfold System.advance
  split
  · exact .inl rfl
  · exact .inr ⟨_, rfl, .of_go nofun nofun⟩
  · exact .inr ⟨_, rfl, .of_go nofun nofun⟩
  · rename_i key ticket next phase
    split
    · rename_i owning
      refine .inr ⟨_, rfl, .of_go ?_ ?_⟩
      · rintro _ _ _ ⟨rfl⟩
        rfl
      · rintro _ ⟨rfl⟩
        exact .inr ⟨rfl, ticket, next, phase, owning⟩
    · exact .inl rfl
  · exact .inl rfl
  · rename_i key ticket given next phase
    refine .inr ⟨_, rfl, .of_go nofun ?_⟩
    rintro _ ⟨rfl⟩
    exact .inl ⟨_, _, phase⟩
  · rename_i key ticket request next _ phase
    refine .inr ⟨_, rfl, .of_go ?_ ?_⟩
    · rintro _ _ _ ⟨rfl⟩
      rfl
    · rintro _ ⟨rfl⟩
      exact .inl ⟨_, _, phase⟩

def holder? (events : List Event) : Option Nat := events.getLast?.map Event.call

@[simp] theorem holder?_append (events : List Event) (event : Event) :
    holder? (events ++ [event]) = some event.call := by
  simp [holder?]

/-- What holds of a system at any time: the last event under a lock is that of
the call that has the lock, and was so whenever a call asked something under a
lock. -/
structure Held (system : System) : Prop where
  inside : ∀ call key ticket rest, system.phase call = .inside key ticket rest →
    holder? (system.under key) = some call
  answered : ∀ earlier event, earlier ++ [event] <+: system.trace →
    ∀ request answer key, event.act = .answered request answer →
      event.key = some key →
      holder? (earlier.filter fun past => past.key = some key) = some event.call

theorem held_start {capacity : Nat} {program : Nat → Call Result} :
    Held (System.start capacity program) where
  inside := by simp [System.start]
  answered := by simp [System.start]

namespace Held

theorem key_ne_of_moves (coherent : Coherent discipline system)
    (moves : Moves system after event)
    (different : other ≠ event.call) {rest : Call Result}
    (phase : system.phase other = .inside key ticket rest) :
    event.key ≠ some key := by
  intro same
  rcases moves.place key same with
    ⟨_, _, mine⟩ | ⟨-, claimed, next, mine, owning⟩
  · exact different (coherent.alone_of_inside mine phase)
  · obtain ⟨-, pending, -⟩ :=
      (ready_waiting_iff mine).mp (coherent.ready event.call)
    obtain ⟨keeps, stands⟩ := coherent.stands_of_inside phase
    exact coherent.sound.no_guard_of_isOwner pending owning keeps stands

theorem of_moves (held : Held system) (coherent : Coherent discipline system)
    (moves : Moves system after event) : Held after where
  inside := by
    intro call key ticket rest phase
    by_cases mine : call = event.call
    · subst mine
      rw [System.under_eq moves.trace (moves.inside key ticket rest phase),
        holder?_append]
    · rw [moves.phase call mine] at phase
      have apart := key_ne_of_moves coherent moves mine phase
      rw [System.under_eq_of_ne moves.trace apart]
      exact held.inside call key ticket rest phase
  answered := by
    intro earlier past isPrefix request answer key act place
    rw [moves.trace] at isPrefix
    rcases List.prefix_concat_iff.mp isPrefix with new | old
    · obtain ⟨rfl, last⟩ := List.append_inj' new rfl
      obtain rfl : past = event := by simpa using last
      rcases moves.place key place with ⟨ticket, rest, phase⟩ | ⟨entered, -⟩
      · exact held.inside past.call key ticket rest phase
      · simp [entered] at act
    · exact held.answered earlier past old request answer key act place

theorem advance (held : Held system) (coherent : Coherent discipline system)
    (call : Nat) : Held (system.advance discipline.environment call) := by
  rcases System.advance_eq_or_moves discipline.environment system call with
    same | ⟨event, -, moves⟩
  · rwa [same]
  · exact held.of_moves coherent moves

theorem run (held : Held system) (coherent : Coherent discipline system)
    (schedule : List Nat) :
    Held (system.run discipline.environment schedule) := by
  induction schedule generalizing system with
  | nil => exact held
  | cons call rest induction =>
      exact induction (held.advance coherent call) (coherent.advance call)

end Held

end Collate.Interleaving
