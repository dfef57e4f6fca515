import Collate.Processing
import Mathlib.Data.List.Nodup

namespace Collate.Processing

variable {group : Group} {arranged : List Message}

/-- A list has the unmarked members of a group by sequence number, and those of
each number in the order of their arrival. -/
structure Arranges (group : Group) (arranged : List Message) : Prop where
  perm : arranged.Perm group.unmarked
  ascending : arranged.Pairwise
      fun left right => left.sequenceNumber ≤ right.sequenceNumber
  stable :
    ∀ number, (arranged.filter fun message => message.sequenceNumber = number) =
      group.unmarked.filter fun message => message.sequenceNumber = number

theorem arranges_inSequence (group : Group) :
    Arranges group (inSequence group) := by
  let before : Message → Message → Bool := fun left right =>
    left.sequenceNumber ≤ right.sequenceNumber
  have trans : ∀ first second third, before first second = true →
      before second third = true →
      before first third = true :=
    fun _ _ _ => by simpa [before] using Nat.le_trans
  have total : ∀ left right, (before left right || before right left) = true :=
    fun _ _ => by
    simpa [before] using Nat.le_total _ _
  have perm : (group.unmarked.mergeSort before).Perm group.unmarked :=
    List.mergeSort_perm _ _
  refine ⟨perm, (List.pairwise_mergeSort trans total _).imp of_decide_eq_true,
    fun number => ?_⟩
  let bears : Message → Bool := fun message => message.sequenceNumber = number
  have equals : (group.unmarked.filter bears).Pairwise fun left right =>
      before left right = true := by
    refine List.pairwise_of_forall_sublist fun {left right} both => ?_
    have bear : ∀ message ∈ [left, right], message.sequenceNumber = number :=
      fun message member =>
        of_decide_eq_true (List.mem_filter.mp (both.subset member)).2
    have equal : left.sequenceNumber = right.sequenceNumber :=
      (bear left (by simp)).trans (bear right (by simp)).symm
    exact decide_eq_true (Nat.le_of_eq equal)
  have kept :
      (group.unmarked.filter bears).Sublist (group.unmarked.mergeSort before) :=
    List.sublist_mergeSort trans total equals List.filter_sublist
  have among := kept.filter bears
  rw [List.filter_filter,
    List.filter_congr fun message _ => Bool.and_self (bears message)] at among
  exact (among.eq_of_length (perm.filter bears).length_eq.symm).symm

theorem Arranges.unnumbered_prefix (arranges : Arranges group arranged) :
    (group.unmarked.filter fun message => message.sequenceNumber = 0) <+:
      arranged := by
  rw [← arranges.stable 0]
  have ascending := arranges.ascending
  clear arranges
  induction arranged with
  | nil => exact List.prefix_refl _
  | cons first rest induction =>
      obtain ⟨least, ascending⟩ := List.pairwise_cons.mp ascending
      by_cases unnumbered : first.sequenceNumber = 0
      · rw [List.filter_cons, if_pos (decide_eq_true unnumbered)]
        exact (List.prefix_cons_inj first).mpr (induction ascending)
      · have none : ((first :: rest).filter
            fun message => message.sequenceNumber = 0) = [] := by
          refine List.filter_eq_nil_iff.mpr
            fun message member zero => unnumbered ?_
          have zero := of_decide_eq_true zero
          rcases List.mem_cons.mp member with rfl | later
          · exact zero
          · exact Nat.le_zero.mp
              (Nat.le_trans (least message later) (Nat.le_of_eq zero))
        rw [none]
        exact List.nil_prefix

theorem eq_of_ascending {left right : List Message} (perm : left.Perm right)
    (distinct : (right.map Message.sequenceNumber).Nodup)
    (leftAscending : left.Pairwise
      fun first second => first.sequenceNumber ≤ second.sequenceNumber)
    (rightAscending : right.Pairwise fun first second =>
      first.sequenceNumber ≤ second.sequenceNumber) : left = right := by
  refine List.Perm.eq_of_pairwise ?_ leftAscending rightAscending perm
  intro first second firstMember secondMember notAfter notBefore
  exact List.inj_on_of_nodup_map distinct (perm.subset firstMember) secondMember
    (Nat.le_antisymm notAfter notBefore)

end Collate.Processing
