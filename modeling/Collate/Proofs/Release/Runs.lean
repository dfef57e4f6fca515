import Collate.Proofs.Processing.Order
import Collate.Release
import Mathlib.Data.List.Nodup
import Mathlib.Data.List.Perm.Basic
import Mathlib.Tactic.Common

namespace Collate

namespace Release

theorem isRunFrom_iff {first : Nat} {numbers : List Nat} :
    isRunFrom first numbers = true ↔
    numbers = List.range' first numbers.length := by
  induction numbers generalizing first with
  | nil => simp [isRunFrom]
  | cons number rest induction =>
      simp only [isRunFrom, Bool.and_eq_true, decide_eq_true_eq, induction,
        List.length_cons, List.range'_succ, List.cons.injEq]

theorem mergeSort_eq_range'_iff (first : Nat) (numbers : List Nat) :
    numbers.mergeSort = List.range' first numbers.length ↔
      numbers.Perm (List.range' first numbers.length) := by
  have sorts :=
    List.mergeSort_perm numbers fun left right => decide (left ≤ right)
  constructor
  · intro same
    rw [← same]
    exact sorts.symm
  · intro perm
    have sorted : numbers.mergeSort.Pairwise
          fun left right => decide (left ≤ right) = true :=
      List.pairwise_mergeSort (fun _ _ _ => by simpa using Nat.le_trans)
        (fun _ _ => by simpa using Nat.le_total _ _) _
    have inOrder : (List.range' first numbers.length).Pairwise fun left right =>
        decide (left ≤ right) = true :=
      List.pairwise_le_range'.imp fun le => decide_eq_true le
    refine List.Perm.eq_of_pairwise ?_ sorted inOrder (sorts.trans perm)
    intro left right _ _ notAfter notBefore
    exact Nat.le_antisymm (of_decide_eq_true notAfter)
      (of_decide_eq_true notBefore)

theorem continuesSequence_iff {group : Group} :
    continuesSequence group = true ↔
      group.unmarked ≠ [] ∧ (group.unmarked.map Message.sequenceNumber).Perm
        (List.range' (group.lastReleased + 1) group.unmarked.length) := by
  have run := mergeSort_eq_range'_iff (group.lastReleased + 1)
    (group.unmarked.map Message.sequenceNumber)
  have empty : ((group.unmarked.map Message.sequenceNumber).mergeSort).isEmpty =
      group.unmarked.isEmpty := by
    rw [Bool.eq_iff_iff, List.isEmpty_iff_length_eq_zero, List.length_mergeSort,
      List.length_map, List.isEmpty_iff_length_eq_zero]
  simp only [List.length_map] at run
  simp only [continuesSequence, empty, Bool.and_eq_true, Bool.not_eq_true',
    isRunFrom_iff, List.length_mergeSort, List.length_map, run,
    List.isEmpty_eq_false_iff, ne_eq]

end Release

theorem foldl_max_range' (count : Nat) :
    (List.range' 1 count).foldl max 0 = count := by
  induction count with
  | zero => rfl
  | succ count induction =>
      rw [List.range'_concat, List.foldl_append, induction]
      simp only [List.foldl_cons, List.foldl_nil]
      omega

theorem Group.lastReleased_of_perm {group : Group}
    (perm : (group.marked.map Message.sequenceNumber).Perm
      (List.range' 1 group.marked.length)) :
    group.lastReleased = group.marked.length := by
  calc group.lastReleased
      = (group.marked.map Message.sequenceNumber).foldl max 0 := by
        rw [Group.lastReleased, List.foldl_map]
    _ = (List.range' 1 group.marked.length).foldl max 0 := perm.foldl_eq 0
    _ = group.marked.length := foldl_max_range' _

theorem Processing.map_inSequence {group : Group} {first : Nat}
    (perm : (group.unmarked.map Message.sequenceNumber).Perm
      (List.range' first group.unmarked.length)) :
    (Processing.inSequence group).map Message.sequenceNumber =
      List.range' first group.unmarked.length := by
  have arranges := arranges_inSequence group
  have inOrder : ((Processing.inSequence group).map
      Message.sequenceNumber).Pairwise (· ≤ ·) :=
    List.pairwise_map.mpr arranges.ascending
  refine List.Perm.eq_of_pairwise ?_ inOrder List.pairwise_le_range' ?_
  · intro left right _ _ notAfter notBefore
    exact Nat.le_antisymm notAfter notBefore
  · exact (arranges.perm.map Message.sequenceNumber).trans perm

end Collate
