import Collate.Handler
import Collate.Proofs.Processing.Order
import Mathlib.Data.List.Nodup
import Mathlib.Tactic.Common

namespace Collate

/-- Distinct messages of a key, numbered from one, that declare their number. -/
structure IsSequence (correlation : Correlation) (key : Key) (count : Nat)
    (message : Nat → Message) : Prop where
  correlated : ∀ index < count, correlation (message index) = some key
  numbered : ∀ index < count, (message index).sequenceNumber = index + 1
  sized : ∀ index < count, (message index).sequenceSize = count
  distinct : ∀ left < count, ∀ right < count,
    (message left).id = (message right).id → left = right

namespace IsSequence

variable {correlation : Correlation} {key : Key} {count index : Nat}
  {message : Nat → Message} {group : Group} {admitted : List Nat}

theorem sequenceSize (isSequence : IsSequence correlation key count message)
    (members : group.members = admitted.map message)
    (bounded : ∀ other ∈ admitted, other < count) (nonempty : admitted ≠ []) :
    group.sequenceSize = count := by
  cases admitted with
  | nil => exact absurd rfl nonempty
  | cons first rest =>
      have size := isSequence.sized first (bounded first List.mem_cons_self)
      simpa [Group.sequenceSize, Group.first?, members] using size

theorem canAdd (isSequence : IsSequence correlation key count message)
    (members : group.members = admitted.map message)
    (bounded : ∀ other ∈ admitted, other < count) (within : index < count)
    (fresh : index ∉ admitted) : group.canAdd (message index) = true := by
  have apart : ∀ like : Message → Bool,
      (∀ other < count, like (message other) = true → other = index) →
        group.members.any like = false := by
    intro like only
    apply List.any_eq_false.mpr
    intro member isMember alike
    rw [members] at isMember
    obtain ⟨other, otherMember, rfl⟩ := List.mem_map.mp isMember
    exact fresh (only other (bounded other otherMember) alike ▸ otherMember)
  have unknown := apart
    (fun member => member.id = (message index).id) fun other below same =>
      isSequence.distinct other below index within (of_decide_eq_true same)
  have untaken := apart
    (fun member => member.sequenceNumber = (message index).sequenceNumber)
    fun other below same => by
      have equality := of_decide_eq_true same
      rw [isSequence.numbered other below,
        isSequence.numbered index within] at equality
      exact Nat.succ.inj equality
  unfold Group.canAdd
  rw [unknown, untaken]
  by_cases nonempty : admitted = []
  · simp [Group.isEmpty, members, nonempty]
  · rw [isSequence.sequenceSize members bounded nonempty,
      isSequence.sized index within]
    simp

theorem isComplete (isSequence : IsSequence correlation key count message)
    (members : group.members = admitted.map message)
    (bounded : ∀ other ∈ admitted, other < count) (nonempty : admitted ≠ []) :
    group.isComplete = decide (count ≤ admitted.length) := by
  obtain ⟨first, member⟩ := List.exists_mem_of_ne_nil admitted nonempty
  have positive : 0 < count := Nat.zero_lt_of_lt (bounded first member)
  unfold Group.isComplete
  rw [isSequence.sequenceSize members bounded nonempty, Group.size, members,
    List.length_map]
  simp [positive]

theorem inSequence (isSequence : IsSequence correlation key count message)
    (unmarked : group.unmarked = admitted.map message)
    (all : admitted.Perm (List.range count)) :
    Processing.inSequence group = (List.range count).map message := by
  have arranges := Processing.arranges_inSequence group
  have perm :
      (Processing.inSequence group).Perm ((List.range count).map message) :=
    arranges.perm.trans (unmarked ▸ all.map message)
  have numbers : ((List.range count).map message).map Message.sequenceNumber =
      List.range' 1 count := by
    rw [List.map_map, List.range'_eq_map_range]
    refine List.map_congr_left fun index member => ?_
    rw [Function.comp_apply,
      isSequence.numbered index (List.mem_range.mp member), Nat.add_comm]
  refine Processing.eq_of_ascending perm (numbers ▸ List.nodup_range')
    arranges.ascending ?_
  exact List.pairwise_map.mp (numbers ▸ List.pairwise_le_range')

end IsSequence

end Collate
