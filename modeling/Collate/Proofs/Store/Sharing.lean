import Collate.Proofs.Store.Soundness
import Mathlib.Logic.Function.Basic

namespace Collate

/-! A subscriber that is told about a group runs a program in the place of the
question: it may use the store, sweep it once more, or wait while others take
their turns. -/

open Interleaving

namespace Store

variable {store : Store} {key : Key} {group : Group}

theorem capacity_remove (store : Store) (key : Key) :
    (store.remove key).capacity = store.capacity := by
  unfold remove
  cases store.get? key <;> rfl

theorem capacity_removeUnchanged (store : Store) (group : Group) :
    (store.removeUnchanged group).capacity = store.capacity := by
  unfold removeUnchanged
  split
  · split
    · exact capacity_remove store group.key
    · rfl
  · rfl

theorem capacity_answer (store : Store) (circumstances : Circumstances)
    (request : Engine.Request) :
    (circumstances.answer store request).1.capacity = store.capacity := by
  cases request with
  | load key =>
      simp only [Circumstances.answer, Circumstances.unlessFault]
      cases circumstances.fault <;> rfl
  | add key message =>
      simp only [Circumstances.answer, Circumstances.unlessFault, Store.add]
      cases circumstances.fault with
      | some error => rfl
      | none => cases store.hasRoom <;> rfl
  | mark group =>
      simp only [Circumstances.answer, Circumstances.unlessFault, Store.mark]
      cases circumstances.fault with
      | some error => rfl
      | none => cases store.get? group.key <;> rfl
  | remove key =>
      simp only [Circumstances.answer, Circumstances.unlessFault]
      cases circumstances.fault with
      | some error => rfl
      | none => exact capacity_remove store key
  | removeUnchanged group => exact capacity_removeUnchanged store group
  | _ => rfl

def HasGeneration (store : Store) (key : Key) (generation : Nat) : Prop :=
  ∃ group, store.get? key = some group ∧ group.generation = generation

variable {generation : Nat} {name : Key}

theorem HasGeneration.of_remove
    (has : (store.remove name).HasGeneration key generation) :
    store.HasGeneration key generation := by
  obtain ⟨group, found, same⟩ := has
  refine ⟨group, ?_, same⟩
  unfold remove at found
  cases held : store.get? name with
  | none => simpa [held] using found
  | some stored =>
      simp only [held] at found
      by_cases sameKey : key = name
      · subst sameKey
        simp [Store.get?] at found
      · simpa [Store.get?, Assoc.get?_erase_of_ne sameKey] using found

theorem HasGeneration.of_removeUnchanged {stale : Group}
    (has : (store.removeUnchanged stale).HasGeneration key generation) :
    store.HasGeneration key generation := by
  unfold removeUnchanged at has
  split at has
  · split at has
    · exact has.of_remove
    · exact has
  · exact has

theorem HasGeneration.of_mark {marked : Group} {time : Int}
    (has : (store.mark marked time).1.HasGeneration key generation) :
    store.HasGeneration key generation := by
  obtain ⟨group, found, same⟩ := has
  unfold mark at found
  cases held : store.get? marked.key with
  | none => exact ⟨group, by simpa [held] using found, same⟩
  | some stored =>
      simp only [held] at found
      by_cases sameKey : key = marked.key
      · subst sameKey
        simp only [Store.get?, Assoc.get?_put_self, Option.some.injEq] at found
        subst found
        exact ⟨stored, held, same⟩
      · exact ⟨group,
          by simpa [Store.get?, Assoc.get?_put_of_ne sameKey] using found, same⟩

theorem HasGeneration.of_add {message : Message} {new : Nat} {time : Int}
    {after : Store}
    (added : store.add name message new time = .ok (after, group))
    (has : after.HasGeneration key generation) :
    store.HasGeneration key generation ∨ generation = new := by
  obtain ⟨member, found, same⟩ := has
  unfold Store.add at added
  split at added
  · obtain ⟨rfl, rfl⟩ := Prod.mk.inj (Except.ok.inj added)
    by_cases sameKey : key = name
    · subst sameKey
      simp only [Store.get?, Assoc.get?_put_self, Option.some.injEq] at found
      subst found
      cases held : store.get? key with
      | none =>
          exact .inr
            (by simp [← same, Store.load, held, Group.add, Group.empty])
      | some stored =>
          exact .inl
            ⟨stored, held, by simp [← same, Store.load, held, Group.add]⟩
    · exact .inl ⟨member,
        by simpa [Store.get?, Assoc.get?_put_of_ne sameKey] using found, same⟩
  · cases added

theorem HasGeneration.of_answer {circumstances : Circumstances}
    {request : Engine.Request}
    (has :
      (circumstances.answer store request).1.HasGeneration key generation) :
    store.HasGeneration key generation ∨
    generation = circumstances.generation := by
  cases request with
  | load name =>
      simp only [Circumstances.answer, Circumstances.unlessFault] at has
      cases fault : circumstances.fault <;>
        simp only [fault] at has <;> exact .inl has
  | add name message =>
      simp only [Circumstances.answer, Circumstances.unlessFault] at has
      cases fault : circumstances.fault with
      | some error =>
          simp only [fault] at has
          exact .inl has
      | none =>
          cases added : store.add name message circumstances.generation
            circumstances.time with
          | error error =>
              simp only [fault, added] at has
              exact .inl has
          | ok result =>
              simp only [fault, added] at has
              exact has.of_add added
  | mark marked =>
      simp only [Circumstances.answer, Circumstances.unlessFault] at has
      cases fault : circumstances.fault with
      | some error =>
          simp only [fault] at has
          exact .inl has
      | none =>
          simp only [fault] at has
          exact .inl has.of_mark
  | remove name =>
      simp only [Circumstances.answer, Circumstances.unlessFault] at has
      cases fault : circumstances.fault with
      | some error =>
          simp only [fault] at has
          exact .inl has
      | none =>
          simp only [fault] at has
          exact .inl has.of_remove
  | removeUnchanged stale => exact .inl has.of_removeUnchanged
  | _ => exact .inl has

end Store

/-- What a subscriber does when it is told about a group. -/
abbrev Callback := Subscriber → Group → Call (Except Error Engine.Reaction)

/-- A store and what each of its callers is going to do. -/
structure SharedStore where
  store : Store
  rest : Nat → Call Unit

namespace SharedStore

inductive Turn where
  | caller (number : Nat)
  | subscription (subscriber : Subscriber)

def start (capacity : Nat) (programs : Nat → Call Unit) : SharedStore :=
  { store := .empty capacity, rest := programs }

def proceed (shared : SharedStore) (number : Nat) (store : Store)
    (rest : Call Unit) : SharedStore :=
  { store, rest := Function.update shared.rest number rest }

def advance (callback : Callback) (circumstances : Circumstances)
    (shared : SharedStore) : Turn → SharedStore
  | .subscription subscriber =>
      { shared with store := shared.store.subscribe subscriber }
  | .caller number =>
      match shared.rest number with
      | Program.done _ => shared
      | Program.ask (.notify subscriber group) next =>
          shared.proceed number shared.store
            ((callback subscriber group).bind next)
      | Program.ask request next =>
          let (store, answer) := circumstances.answer shared.store request
          shared.proceed number store (next answer)

def after (callback : Callback) (environment : Nat → Circumstances)
    (turns : Nat → Turn) (shared : SharedStore) : Nat → SharedStore
  | 0 => shared
  | moment + 1 =>
      advance callback (environment moment)
        (after callback environment turns shared moment) (turns moment)

variable {callback : Callback} {environment : Nat → Circumstances}
  {turns : Nat → Turn} {shared : SharedStore} {key : Key}

theorem store_advance_cases (callback : Callback)
    (circumstances : Circumstances) (shared : SharedStore) (turn : Turn) :
    (shared.advance callback circumstances turn).store = shared.store ∨
    (∃ subscriber, (shared.advance callback circumstances turn).store =
      shared.store.subscribe subscriber) ∨
    ∃ request, (shared.advance callback circumstances turn).store =
      (circumstances.answer shared.store request).1 := by
  cases turn with
  | subscription subscriber => exact .inr (.inl ⟨subscriber, rfl⟩)
  | caller number =>
      unfold advance
      dsimp only
      split
      · exact .inl rfl
      · exact .inl rfl
      · exact .inr (.inr ⟨_, rfl⟩)

theorem sound_advance (sound : shared.store.Sound)
    (circumstances : Circumstances) (turn : Turn) :
    (shared.advance callback circumstances turn).store.Sound := by
  rcases store_advance_cases callback circumstances shared turn with
    same | ⟨subscriber, subscribed⟩ | ⟨request, answered⟩
  · rw [same]
    exact sound
  · rw [subscribed]
    exact sound.subscribe subscriber
  · rw [answered]
    exact sound.answer circumstances request

theorem capacity_advance (circumstances : Circumstances) (turn : Turn) :
    (shared.advance callback circumstances turn).store.capacity =
      shared.store.capacity := by
  rcases store_advance_cases callback circumstances shared turn with
    same | ⟨subscriber, subscribed⟩ | ⟨request, answered⟩
  · rw [same]
  · rw [subscribed]
    rfl
  · rw [answered]
    exact Store.capacity_answer shared.store circumstances request

theorem generation_of_advance {circumstances : Circumstances} {turn : Turn}
    {generation : Nat}
    (has : (shared.advance callback circumstances turn).store.HasGeneration
      key generation) :
    shared.store.HasGeneration key generation ∨
    generation = circumstances.generation := by
  rcases store_advance_cases callback circumstances shared turn with
    same | ⟨subscriber, subscribed⟩ | ⟨request, answered⟩
  · rw [same] at has
    exact .inl has
  · rw [subscribed] at has
    exact .inl has
  · rw [answered] at has
    exact has.of_answer

theorem sound_after (sound : shared.store.Sound) (moment : Nat) :
    (shared.after callback environment turns moment).store.Sound := by
  induction moment with
  | zero => exact sound
  | succ moment induction =>
      exact sound_advance induction (environment moment) (turns moment)

theorem capacity_after (moment : Nat) :
    (shared.after callback environment turns moment).store.capacity =
      shared.store.capacity := by
  induction moment with
  | zero => rfl
  | succ moment induction =>
      exact
        (capacity_advance (environment moment) (turns moment)).trans induction

theorem generation_since {moment generation : Nat}
    (absent : (shared.after callback environment turns moment).store.get? key =
      none) (count : Nat)
    (has : (shared.after callback
      environment turns (moment + count)).store.HasGeneration key generation) :
    ∃ turn, moment ≤ turn ∧ turn < moment + count ∧
      generation = (environment turn).generation := by
  induction count with
  | zero =>
      obtain ⟨group, found, -⟩ := has
      simp [absent] at found
  | succ count induction =>
      rcases generation_of_advance has with held | new
      · obtain ⟨turn, since, before, same⟩ := induction held
        exact ⟨turn, since, Nat.lt_succ_of_lt before, same⟩
      · exact ⟨moment + count, Nat.le_add_right _ _, Nat.lt_succ_self _, new⟩

/-- Whoever uses a store, and in whatever order, the store is sound at every
moment, and the groups of a key before and after a moment at which there is none
have different generations. -/
theorem sound_with_new_generations (capacity : Nat) (callback : Callback)
    (environment : Nat → Circumstances) (programs : Nat → Call Unit)
    (turns : Nat → Turn)
    (fresh : ∀ turn other,
      (environment turn).generation = (environment other).generation →
        turn = other) :
    let store := fun moment =>
      ((start capacity programs).after callback environment turns moment).store
    (∀ moment, (store moment).Sound ∧ (store moment).capacity = capacity ∧
      ∀ key group, (store moment).get? key = some group →
        group.size ≤ (store moment).messageCount) ∧
    ∀ earlier between later, earlier ≤ between → between ≤ later →
      ∀ key old new,
        (store earlier).get? key = some old → (store between).get? key = none →
          (store later).get? key = some new →
          old.generation ≠ new.generation := by
  intro store
  have sound : ∀ moment, (store moment).Sound := fun moment =>
    sound_after (Store.empty_sound capacity) moment
  refine ⟨fun moment => ⟨sound moment, capacity_after moment,
    fun key group found => (sound moment).size_le found⟩, ?_⟩
  intro earlier between later before after key old new oldFound
    absent newFound same
  obtain ⟨count, rfl⟩ := Nat.exists_eq_add_of_le after
  have nothing : (store 0).get? key = none := rfl
  obtain ⟨first, -, early, oldGeneration⟩ :=
    generation_since nothing earlier
      ⟨old, (Nat.zero_add earlier).symm ▸ oldFound, rfl⟩
  obtain ⟨second, late, -, newGeneration⟩ :=
    generation_since absent count ⟨new, newFound, rfl⟩
  have sameTurn : first = second :=
    fresh first second (by rw [← oldGeneration, same, newGeneration])
  omega

/-! A subscriber that replaces the group it is told about in the middle of a
sweep. -/

def replacing : Callback := fun _ group => do
  let _ ← Call.ask (.remove group.key)
  let _ ← Call.ask (.add group.key (.ofPayload .null ⟨⟨1⟩, 0⟩))
  return .ok .unsubscribed

def addThenSweep : Nat → Call Unit
  | 0 => do
      let _ ← Call.ask (.add ⟨"key"⟩ (.ofPayload .null ⟨⟨0⟩, 0⟩))
      return ()
  | 1 => do
      let _ ← Sweep.run 0
      return ()
  | _ => return ()

def countingUp (turn : Nat) : Circumstances where
  generation := turn
  stamp := ⟨⟨0⟩, 0⟩
  time := 0
  fault := none
  judge _ := false
  process group := .error (.processing group.key.text "no")
  resolve name := .error (.unknownChannel name)
  deliver _ _ := .ok ()
  deliverWithin _ _ _ := some (.ok ())
  rank _ := 0

def sweptTurns : Nat → Turn
  | 0 => .subscription ⟨0⟩
  | 1 => .caller 0
  | _ => .caller 1

theorem replaced_in_sweep :
    ∃ old new,
      ((start 1 addThenSweep).after replacing countingUp sweptTurns
        2).store.get? ⟨"key"⟩ = some old ∧
        ((start 1 addThenSweep).after
          replacing countingUp sweptTurns 10).store.get? ⟨"key"⟩ = some new ∧
        old.generation ≠ new.generation := by
  obtain ⟨-, different⟩ := sound_with_new_generations 1 replacing countingUp
      addThenSweep sweptTurns fun _ _ same => same
  have oldFound : (((start 1 addThenSweep).after replacing countingUp sweptTurns
      2).store.get? ⟨"key"⟩).isSome = true := rfl
  have newFound : (((start 1 addThenSweep).after replacing countingUp sweptTurns
      10).store.get? ⟨"key"⟩).isSome = true := by
    decide +kernel
  have absent : ((start 1 addThenSweep).after replacing countingUp sweptTurns
      6).store.get? ⟨"key"⟩ = none :=
    Option.isNone_iff_eq_none.mp (by decide +kernel)
  obtain ⟨old, oldFound⟩ := Option.isSome_iff_exists.mp oldFound
  obtain ⟨new, newFound⟩ := Option.isSome_iff_exists.mp newFound
  exact ⟨old, new, oldFound, newFound, different 2 6 10 (by decide) (by decide)
    ⟨"key"⟩ old new oldFound absent newFound⟩

end SharedStore

end Collate
