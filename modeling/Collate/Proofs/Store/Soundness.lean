import Collate.Proofs.Interleaving.System
import Mathlib.Algebra.BigOperators.Group.List.Basic
import Mathlib.Algebra.GroupWithZero.Nat
import Mathlib.Data.List.Nodup

namespace Collate

/-- A group as a store may hold it under a key. -/
structure Group.Proper (key : Key) (group : Group) : Prop where
  sameKey : group.key = key
  nonempty : group.members ≠ []
  marked : group.markedCount ≤ group.size

namespace Group.Proper

variable {key : Key} {group : Group}

theorem isEmpty (proper : group.Proper key) : group.isEmpty = false := by
  cases members : group.members with
  | nil => exact absurd members proper.nonempty
  | cons first rest => simp [Group.isEmpty, members]

theorem add_empty (key : Key) (generation : Nat) (message : Message)
    (time : Int) :
    ((Group.empty key generation time).add message time).Proper key where
  sameKey := rfl
  nonempty := by simp [Group.add]
  marked := Nat.zero_le _

theorem add (proper : group.Proper key) (message : Message) (time : Int) :
    (group.add message time).Proper key where
  sameKey := proper.sameKey
  nonempty := by simp [Group.add]
  marked := by
    have marked := proper.marked
    simp only [Group.add, Group.size, List.length_append] at marked ⊢
    omega

theorem markAll (proper : group.Proper key) (time : Int) :
    (group.markAll time).Proper key where
  sameKey := proper.sameKey
  nonempty := proper.nonempty
  marked := Nat.le_refl _

end Group.Proper

namespace Store

/-- The number of members of all stored groups. -/
def held (store : Store) : Nat :=
  (store.groups.map fun entry => entry.2.size).sum

structure Sound (store : Store) : Prop where
  distinct : (store.groups.map Prod.fst).Nodup
  proper : ∀ entry ∈ store.groups, entry.2.Proper entry.1
  counted : store.messageCount = store.held
  bounded : store.capacity ≠ 0 → store.messageCount ≤ store.capacity

variable {store : Store} {key : Key} {group : Group}

theorem empty_sound (capacity : Nat) : (Store.empty capacity).Sound where
  distinct := List.nodup_nil
  proper := by simp [empty]
  counted := rfl
  bounded := fun _ => Nat.zero_le _

namespace Sound

theorem proper_of_get? (sound : store.Sound)
    (found : store.get? key = some group) :
    group.Proper key :=
  sound.proper (key, group) (Assoc.mem_of_get? found)

theorem get?_of_mem (sound : store.Sound)
    (member : (key, group) ∈ store.groups) : store.get? key = some group := by
  cases found : store.get? key with
  | none =>
      exact absurd (List.mem_map_of_mem member)
        (Assoc.get?_eq_none_iff.mp found)
  | some stored =>
      have same := List.inj_on_of_nodup_map sound.distinct
          (Assoc.mem_of_get? found) member rfl
      rw [(Prod.mk.inj same).2]

theorem messageCount_eq (sound : store.Sound) {other : Store}
    (soundToo : other.Sound)
    (sizes : ∀ key,
      (store.get? key).map Group.size = (other.get? key).map Group.size) :
    store.messageCount = other.messageCount := by
  have member_iff : ∀ {current : Store}, current.Sound → ∀ key size,
      (key, size) ∈ current.groups.map (fun entry => (entry.1, entry.2.size)) ↔
        (current.get? key).map Group.size = some size := by
    intro current soundNow key size
    rw [List.mem_map, Option.map_eq_some_iff]
    constructor
    · rintro ⟨entry, member, same⟩
      obtain ⟨rfl, rfl⟩ := Prod.mk.inj same
      exact ⟨entry.2, soundNow.get?_of_mem member, rfl⟩
    · rintro ⟨group, found, rfl⟩
      exact ⟨(key, group), Assoc.mem_of_get? found, rfl⟩
  have nodup : ∀ {current : Store}, current.Sound →
      (current.groups.map fun entry => (entry.1, entry.2.size)).Nodup := by
    intro current soundNow
    apply List.Nodup.of_map Prod.fst
    rw [List.map_map]
    exact soundNow.distinct
  have same : (store.groups.map fun entry => (entry.1, entry.2.size)).Perm
      (other.groups.map fun entry => (entry.1, entry.2.size)) := by
    apply (List.perm_ext_iff_of_nodup (nodup sound) (nodup soundToo)).mpr
    rintro ⟨key, size⟩
    rw [member_iff sound, member_iff soundToo, sizes key]
  have sums := (same.map Prod.snd).sum_eq
  rw [List.map_map, List.map_map] at sums
  rw [sound.counted, soundToo.counted]
  exact sums

theorem held_of_get? (sound : store.Sound)
    (found : store.get? key = some group) :
    store.held = group.size +
      ((Assoc.erase key store.groups).map fun entry => entry.2.size).sum := by
  have split := Assoc.perm_cons_erase sound.distinct found
  unfold held
  rw [(split.map fun entry => entry.2.size).sum_eq,
    List.map_cons, List.sum_cons]

theorem held_put (sound : store.Sound) (key : Key) (group : Group) :
    ((Assoc.put key group store.groups).map fun entry => entry.2.size).sum =
      group.size +
        ((Assoc.erase key store.groups).map fun entry => entry.2.size).sum := by
  have split := Assoc.put_perm sound.distinct key group
  rw [(split.map fun entry => entry.2.size).sum_eq,
    List.map_cons, List.sum_cons]

theorem held_of_none (absent : store.get? key = none) :
    ((Assoc.erase key store.groups).map fun entry => entry.2.size).sum =
      store.held := by
  rw [Assoc.erase_of_not_mem (Assoc.get?_eq_none_iff.mp absent)]
  rfl

theorem proper_put (sound : store.Sound) (proper : group.Proper key) :
    ∀ entry ∈ Assoc.put key group store.groups, entry.2.Proper entry.1 := by
  intro entry member
  rcases List.mem_cons.mp
    ((Assoc.put_perm sound.distinct key group).subset member) with rfl | old
  · exact proper
  · exact sound.proper entry (List.mem_of_mem_filter old)

theorem size_le (sound : store.Sound) (found : store.get? key = some group) :
    group.size ≤ store.messageCount := by
  rw [sound.counted, sound.held_of_get? found]
  exact Nat.le_add_right _ _

theorem add (sound : store.Sound) {message : Message} {generation : Nat}
    {time : Int} {after : Store}
    (added : store.add key message generation time = .ok (after, group)) :
    after.Sound := by
  unfold Store.add at added
  split at added
  · rename_i room
    obtain ⟨rfl, rfl⟩ := Prod.mk.inj (Except.ok.inj added)
    have proper :
        ((store.load key generation time).add message time).Proper key := by
      unfold Store.load
      cases found : store.get? key with
      | none => exact .add_empty key generation message time
      | some stored => exact (sound.proper_of_get? found).add message time
    constructor
    · exact Assoc.nodup_keys_put sound.distinct _ _
    · exact sound.proper_put proper
    · unfold held
      rw [sound.held_put]
      unfold Store.load
      cases found : store.get? key with
      | none =>
          rw [held_of_none found, sound.counted]
          simp [Group.add, Group.size, Group.empty, Nat.add_comm]
      | some stored =>
          have before := sound.held_of_get? found
          simp only [Option.getD_some, Group.add, Group.size,
            List.length_append, List.length_singleton, sound.counted]
              at before ⊢
          omega
    · intro isBounded
      have below : store.messageCount < store.capacity := by
        simpa [hasRoom, show store.capacity ≠ 0 from isBounded] using room
      exact below
  · cases added

theorem mark (sound : store.Sound) (group : Group) (time : Int) :
    (store.mark group time).1.Sound := by
  unfold Store.mark
  cases found : store.get? group.key with
  | none => exact sound
  | some stored =>
      constructor
      · exact Assoc.nodup_keys_put sound.distinct _ _
      · exact sound.proper_put ((sound.proper_of_get? found).markAll time)
      · have before := sound.held_of_get? found
        rw [← sound.counted] at before
        unfold held
        rw [sound.held_put]
        exact before
      · exact sound.bounded

theorem remove (sound : store.Sound) (key : Key) :
    (store.remove key).Sound := by
  unfold Store.remove
  cases found : store.get? key with
  | none => exact sound
  | some stored =>
      have before := sound.held_of_get? found
      rw [← sound.counted] at before
      constructor
      · exact Assoc.nodup_keys_erase sound.distinct key
      · exact fun entry member =>
          sound.proper entry (List.mem_of_mem_filter member)
      · unfold held
        simp only
        omega
      · intro isBounded
        exact Nat.le_trans (Nat.sub_le _ _) (sound.bounded isBounded)

theorem removeUnchanged (sound : store.Sound) (group : Group) :
    (store.removeUnchanged group).Sound := by
  unfold Store.removeUnchanged
  split
  · split
    · exact sound.remove group.key
    · exact sound
  · exact sound

theorem subscribe (sound : store.Sound) (subscriber : Subscriber) :
    (store.subscribe subscriber).Sound :=
  ⟨sound.distinct, sound.proper, sound.counted, sound.bounded⟩

theorem unsubscribe (sound : store.Sound) (gone : List Subscriber) :
    (store.unsubscribe gone).Sound :=
  ⟨sound.distinct, sound.proper, sound.counted, sound.bounded⟩

open Interleaving in
theorem answer (sound : store.Sound) (circumstances : Circumstances)
    (request : Engine.Request) :
    (circumstances.answer store request).1.Sound := by
  cases request with
  | load key =>
      simp only [Circumstances.answer, Circumstances.unlessFault]
      cases circumstances.fault <;> exact sound
  | add key message =>
      simp only [Circumstances.answer, Circumstances.unlessFault]
      cases circumstances.fault with
      | some error => exact sound
      | none =>
          cases added : store.add key message circumstances.generation
            circumstances.time with
          | error error => exact sound
          | ok result => exact sound.add added
  | mark group =>
      simp only [Circumstances.answer, Circumstances.unlessFault]
      cases circumstances.fault with
      | some error => exact sound
      | none => exact sound.mark group _
  | remove key =>
      simp only [Circumstances.answer, Circumstances.unlessFault]
      cases circumstances.fault with
      | some error => exact sound
      | none => exact sound.remove key
  | removeUnchanged group => exact sound.removeUnchanged group
  | unsubscribe gone => exact sound.unsubscribe gone
  | _ => exact sound

end Sound

end Store

end Collate
