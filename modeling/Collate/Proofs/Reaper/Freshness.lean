import Collate.Proofs.Interleaving.Calm
import Collate.Proofs.Sweep.Conduct

namespace Collate

open Interleaving (Circumstances Calm)

def Store.Since (time : Int) (store : Store) : Prop :=
  ∀ key group, store.get? key = some group → time ≤ group.createdAt

namespace Store.Since

variable {store before after : Store} {time : Int} {key : Key} {group : Group}

theorem of_get? (since : Since time before)
    (kept : ∀ key group, after.get? key = some group →
      before.get? key = some group) :
    Since time after :=
  fun key group found => since key group (kept key group found)

theorem put {groups : List (Key × Group)} (since : Since time store)
    (same : groups = Assoc.put key group store.groups)
    (made : time ≤ group.createdAt) (messageCount : Nat) :
    Since time { store with groups, messageCount } := by
  subst same
  intro name stored found
  by_cases here : name = key
  · subst here
    obtain rfl := Option.some.inj ((Assoc.get?_put_self _ _ _).symm.trans found)
    exact made
  · exact since name stored ((Assoc.get?_put_of_ne here _ _).symm.trans found)

theorem add (since : Since time store) {message : Message} {generation : Nat}
    {now : Int} (later : time ≤ now)
    (added : store.add key message generation now = .ok (after, group)) :
    Since time after := by
  unfold Store.add at added
  split at added
  · obtain ⟨rfl, rfl⟩ := Prod.mk.inj (Except.ok.inj added)
    refine since.put rfl ?_ _
    unfold load
    cases found : store.get? key with
    | none => exact later
    | some stored => exact since key stored found
  · cases added

theorem mark (since : Since time store) (group : Group) (now : Int) :
    Since time (store.mark group now).1 := by
  unfold Store.mark
  cases found : store.get? group.key with
  | none => exact since
  | some stored =>
      have made : time ≤ (stored.markAll now).createdAt := since _ stored found
      exact since.put rfl made store.messageCount

theorem remove (since : Since time store) (key : Key) :
    Since time (store.remove key) := by
  refine since.of_get? fun name group found => ?_
  by_cases here : name = key
  · subst here
    rw [get?_remove_self] at found
    cases found
  · rwa [get?_remove_of_ne store here] at found

theorem removeUnchanged (since : Since time store) (group : Group) :
    Since time (store.removeUnchanged group) := by
  unfold Store.removeUnchanged
  split
  · split
    · exact since.remove group.key
    · exact since
  · exact since

theorem answer (since : Since time store) {circumstances : Circumstances}
    (later : time ≤ circumstances.time) (request : Engine.Request) :
    Since time (circumstances.answer store request).1 := by
  cases request with
  | load key =>
      simp only [Circumstances.answer, Circumstances.unlessFault]
      cases circumstances.fault <;> exact since
  | add key message =>
      simp only [Circumstances.answer, Circumstances.unlessFault]
      cases circumstances.fault with
      | some error => exact since
      | none =>
          cases added : store.add key message circumstances.generation
            circumstances.time with
          | error error => exact since
          | ok result => exact since.add later added
  | mark group =>
      simp only [Circumstances.answer, Circumstances.unlessFault]
      cases circumstances.fault with
      | some error => exact since
      | none => exact since.mark group _
  | remove key =>
      simp only [Circumstances.answer, Circumstances.unlessFault]
      cases circumstances.fault with
      | some error => exact since
      | none => exact since.remove key
  | removeUnchanged group => exact since.removeUnchanged group
  | _ => exact since

theorem run {α : Type} {circumstances : Nat → Circumstances} {calm : Calm}
    (since : Since time calm.store)
    (later : ∀ turn, time ≤ (circumstances turn).time) (program : Call α) :
    Since time (Calm.run circumstances program calm).2.store := by
  induction program generalizing calm with
  | done value => exact since
  | ask request next induction =>
      rw [Calm.run_ask]
      refine induction _ ?_
      by_cases plain : Interleaving.IsPlain request
      · obtain ⟨-, -, store⟩ := Calm.answer_of_isPlain circumstances calm plain
        rw [store]
        exact since.answer (later _) request
      · cases request with
        | lock key => exact since
        | _ => exact absurd trivial plain

end Store.Since

end Collate
