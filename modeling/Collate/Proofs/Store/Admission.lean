import Collate.Proofs.Store.Soundness
import Mathlib.Data.List.Perm.Subperm

namespace Collate.Group

variable {key : Key} {group : Group} {message : Message}

def numbers (group : Group) : List Nat :=
  (group.members.map Message.sequenceNumber).filter fun number => number ≠ 0

def places (group : Group) : List Nat := List.range' 1 group.sequenceSize

def missing (group : Group) : List Nat :=
  group.places.filter fun place => place ∉ group.numbers

/-- The members that are in none of the places: those without a number, or with
one beyond the length of the sequence. -/
def strays (group : Group) : List Message :=
  group.members.filter fun member => member.sequenceNumber ∉ group.places

/-- A group as the admission of messages makes it. -/
structure Regular (group : Group) : Prop where
  once : (group.members.map Message.id).Nodup
  distinct : group.numbers.Nodup
  sizes : ∀ member ∈ group.members, member.sequenceNumber ≠ 0 →
    member.sequenceSize = group.sequenceSize

theorem regular_empty (key : Key) (generation : Nat) (time : Int) :
    (empty key generation time).Regular := by
  constructor <;> simp [empty, numbers]

theorem sequenceSize_add (nonempty : group.isEmpty = false) (message : Message)
    (time : Int) :
    (group.add message time).sequenceSize = group.sequenceSize := by
  obtain ⟨first, rest, members⟩ :
      ∃ first rest, group.members = first :: rest := by
    cases members : group.members with
    | nil => simp [isEmpty, members] at nonempty
    | cons first rest => exact ⟨first, rest, rfl⟩
  simp [sequenceSize, first?, add, members]

theorem of_canAdd (admits : group.canAdd message = true) :
    message.id ∉ group.members.map Message.id ∧
    (message.sequenceNumber = 0 ∨ group.isEmpty = true ∨
      message.sequenceSize = group.sequenceSize ∧
      message.sequenceNumber ∉ group.members.map Message.sequenceNumber) := by
  simp only [canAdd] at admits
  split at admits
  · simp at admits
  · rename_i absent
    refine ⟨by simpa using absent, ?_⟩
    split at admits
    · rename_i free
      simp only [Bool.or_eq_true, decide_eq_true_eq] at free
      exact free.imp_right .inl
    · split at admits
      · simp at admits
      · rename_i sameSize
        exact .inr (.inr ⟨not_not.mp sameSize, by simpa using admits⟩)

theorem Regular.add (regular : group.Regular)
    (admits : group.canAdd message = true) (time : Int) :
    (group.add message time).Regular := by
  obtain ⟨absent, placed⟩ := of_canAdd admits
  have once : ((group.add message time).members.map Message.id).Nodup := by
    rw [Group.add, List.map_append]
    refine List.nodup_append.mpr ⟨regular.once, List.nodup_singleton _, ?_⟩
    rintro id member other singleton rfl
    rw [List.mem_singleton.mp singleton] at member
    exact absent member
  have grown : (group.add message time).numbers = group.numbers ++
      [message.sequenceNumber].filter fun number => number ≠ 0 := by
    simp [numbers, Group.add]
  cases nonempty : group.isEmpty with
  | true =>
      have none : group.members = [] := List.isEmpty_iff.mp nonempty
      refine ⟨once, ?_, ?_⟩
      · rw [grown, numbers, none, List.map_nil, List.filter_nil,
          List.nil_append]
        exact (List.nodup_singleton _).filter _
      · simp [Group.add, none, Group.sequenceSize, first?]
  | false =>
      rw [nonempty] at placed
      refine ⟨once, ?_, ?_⟩
      · rw [grown]
        refine List.nodup_append.mpr
          ⟨regular.distinct, (List.nodup_singleton _).filter _, ?_⟩
        rintro number member other new rfl
        obtain ⟨singleton, numbered⟩ := List.mem_filter.mp new
        rw [List.mem_singleton.mp singleton] at member numbered
        rcases placed with unnumbered | vacuous | ⟨-, vacant⟩
        · simp [unnumbered] at numbered
        · simp at vacuous
        · exact vacant (List.mem_of_mem_filter member)
      · intro member isMember numbered
        rw [sequenceSize_add nonempty]
        rcases List.mem_append.mp isMember with old | new
        · exact regular.sizes member old numbered
        · rw [List.mem_singleton.mp new] at numbered ⊢
          rcases placed with unnumbered | vacuous | ⟨sameSize, -⟩
          · exact absurd unnumbered numbered
          · simp at vacuous
          · exact sameSize

theorem Regular.markAll (regular : group.Regular) (time : Int) :
    (group.markAll time).Regular where
  once := regular.once
  distinct := regular.distinct
  sizes := regular.sizes

theorem Regular.length_missing_le (regular : group.Regular)
    (complete : group.isComplete = true) :
    group.missing.length ≤ group.strays.length := by
  have enough : group.sequenceSize ≤ group.members.length := by
    simp only [isComplete, Bool.and_eq_true, decide_eq_true_eq] at complete
    exact complete.2
  have zero : 0 ∉ group.places := by simp [places]
  have inPlace : (group.numbers.filter
      fun number => number ∈ group.places).length = group.members.countP
        fun member => member.sequenceNumber ∈ group.places := by
    rw [numbers, List.filter_filter, List.countP_eq_length_filter,
      List.filter_map, List.length_map]
    congr 1
    apply List.filter_congr
    intro member _
    by_cases number : member.sequenceNumber = 0 <;> simp [number, zero]
  have taken :
      (group.numbers.filter fun number => number ∈ group.places).length ≤
        group.places.countP fun place => place ∈ group.numbers := by
    rw [List.countP_eq_length_filter]
    refine ((regular.distinct.filter _).subperm
      fun number member => ?_).length_le
    obtain ⟨isNumber, isPlace⟩ := List.mem_filter.mp member
    exact List.mem_filter.mpr ⟨of_decide_eq_true isPlace,
      decide_eq_true isNumber⟩
  have allPlaces :=
    group.places.length_eq_countP_add_countP fun place => place ∈ group.numbers
  have allMembers := group.members.length_eq_countP_add_countP fun member =>
    member.sequenceNumber ∈ group.places
  have length : group.places.length = group.sequenceSize := List.length_range'
  simp only [missing, strays, ← List.countP_eq_length_filter, decide_eq_true_eq]
    at *
  omega

theorem Regular.mem_numbers_of_strays (regular : group.Regular)
    (complete : group.isComplete = true) (noStrays : group.strays = [])
    {place : Nat} (isPlace : place ∈ group.places) : place ∈ group.numbers := by
  have none : group.missing = [] := by
    have bound := regular.length_missing_le complete
    rw [noStrays] at bound
    exact List.eq_nil_of_length_eq_zero (Nat.le_zero.mp bound)
  by_contra absent
  have isMissing : place ∈ group.missing :=
    List.mem_filter.mpr ⟨isPlace, decide_eq_true absent⟩
  rw [none] at isMissing
  simp at isMissing

end Collate.Group
