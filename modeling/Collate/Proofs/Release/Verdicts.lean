import Collate.Proofs.Release.Runs
import Mathlib.Order.Bounds.Basic
import Mathlib.Order.MinMax
import Mathlib.Tactic.Common

namespace Collate

variable {group other : Group}

namespace Group

theorem isGreatest_foldl_max (least : Nat) (numbers : List Nat) :
    IsGreatest (insert least {number | number ∈ numbers})
      (numbers.foldl max least) := by
  induction numbers generalizing least with
  | nil => simp [IsGreatest]
  | cons number rest induction =>
      obtain ⟨isThere, above⟩ := induction (max least number)
      have reaches : max least number ≤ rest.foldl max (max least number) :=
        above (Set.mem_insert _ _)
      refine ⟨?_, fun smaller isSmaller => ?_⟩
      · rw [List.foldl_cons]
        rcases Set.mem_insert_iff.mp isThere with isMax | isLater
        · rw [isMax]
          rcases max_choice least number with isLeast | isNumber
          · rw [isLeast]
            exact Set.mem_insert _ _
          · rw [isNumber]
            exact Set.mem_insert_of_mem _ List.mem_cons_self
        · exact Set.mem_insert_of_mem _ (List.mem_cons_of_mem _ isLater)
      · rw [List.foldl_cons]
        rcases Set.mem_insert_iff.mp isSmaller with rfl | isListed
        · exact Nat.le_trans (Nat.le_max_left _ _) reaches
        · rcases List.mem_cons.mp isListed with rfl | isLater
          · exact Nat.le_trans (Nat.le_max_right _ _) reaches
          · exact above (Set.mem_insert_of_mem _ isLater)

theorem isGreatest_lastReleased (group : Group) :
    IsGreatest
      (insert 0 {number | number ∈ group.marked.map Message.sequenceNumber})
      group.lastReleased := by
  have greatest :=
    isGreatest_foldl_max 0 (group.marked.map Message.sequenceNumber)
  rwa [List.foldl_map] at greatest

theorem lastReleased_congr (marked : other.marked.Perm group.marked) :
    other.lastReleased = group.lastReleased := by
  have numbers : {number | number ∈ other.marked.map Message.sequenceNumber} =
      {number | number ∈ group.marked.map Message.sequenceNumber} :=
    Set.ext fun _ => (marked.map Message.sequenceNumber).mem_iff
  have greatest := isGreatest_lastReleased other
  rw [numbers] at greatest
  exact greatest.unique (isGreatest_lastReleased group)

end Group

namespace Release

theorem sequence_true_iff : sequence true group = true ↔
    group.isComplete = true ∨ group.unmarked ≠ [] ∧
      (group.unmarked.map Message.sequenceNumber).Perm
        (List.range' (group.lastReleased + 1) group.unmarked.length) := by
  rw [sequence, Bool.true_and, Bool.or_eq_true, continuesSequence_iff]

theorem continuesSequence_congr (marked : other.marked.Perm group.marked)
    (unmarked : other.unmarked.Perm group.unmarked) :
    continuesSequence other = continuesSequence group := by
  have some : other.unmarked = [] ↔ group.unmarked = [] := by
    rw [← List.length_eq_zero_iff, unmarked.length_eq, List.length_eq_zero_iff]
  have numbers := unmarked.map Message.sequenceNumber
  rw [Bool.eq_iff_iff, continuesSequence_iff, continuesSequence_iff,
    Group.lastReleased_congr marked, unmarked.length_eq, ne_eq, ne_eq, some]
  exact and_congr_right fun _ => ⟨numbers.symm.trans, numbers.trans⟩

theorem sequence_true_of_incomplete (incomplete : group.isComplete = false) :
    sequence true group = continuesSequence group := by
  rw [sequence, incomplete, Bool.false_or, Bool.true_and]

theorem beyond_of_continuesSequence
    (continues : continuesSequence group = true) :
    (group.unmarked.map Message.sequenceNumber).Nodup ∧
    ∀ member ∈ group.unmarked, group.lastReleased < member.sequenceNumber := by
  obtain ⟨-, run⟩ := continuesSequence_iff.mp continues
  refine ⟨run.nodup_iff.mpr List.nodup_range', fun member isMember => ?_⟩
  have within := run.mem_iff.mp (List.mem_map_of_mem isMember)
  exact (List.mem_range'_1.mp within).1

/-- Where partial runs are released, a group is released exactly if it is
complete, or if it has unmarked members and their numbers are those that follow
the greatest number of a marked member, each once. So groups that are not
complete get the same verdict in whatever order their marked and their unmarked
members have come; and while a group is not complete, nothing is released if an
unmarked member has no number or one that has been passed, or if two of them
have the same. -/
theorem releases_runs_in_any_order (group : Group) :
    IsGreatest (insert 0 {number |
      number ∈ group.marked.map Message.sequenceNumber}) group.lastReleased ∧
    (sequence true group = true ↔ group.isComplete = true ∨
      group.unmarked ≠ [] ∧
      (group.unmarked.map Message.sequenceNumber).Perm
        (List.range' (group.lastReleased + 1) group.unmarked.length)) ∧
    (group.isComplete = false →
      (∀ other : Group, other.isComplete = false →
        other.marked.Perm group.marked → other.unmarked.Perm group.unmarked →
        sequence true other = sequence true group) ∧
      ((∃ member ∈ group.unmarked, member.sequenceNumber = 0 ∨
        member.sequenceNumber ≤ group.lastReleased) ∨
        ¬ (group.unmarked.map Message.sequenceNumber).Nodup →
        sequence true group = false)) := by
  refine ⟨group.isGreatest_lastReleased, sequence_true_iff,
    fun incomplete => ⟨?_, ?_⟩⟩
  · intro other otherIncomplete marked unmarked
    rw [sequence_true_of_incomplete incomplete,
      sequence_true_of_incomplete otherIncomplete]
    exact continuesSequence_congr marked unmarked
  · intro unfit
    rw [sequence_true_of_incomplete incomplete, Bool.eq_false_iff]
    intro continues
    obtain ⟨distinct, beyond⟩ := beyond_of_continuesSequence continues
    rcases unfit with ⟨member, isMember, unnumbered | passed⟩ | repeated
    · exact Nat.not_lt_zero _ (unnumbered ▸ beyond member isMember)
    · exact Nat.not_lt.mpr passed (beyond member isMember)
    · exact repeated distinct

/-! A group of a sequence of six: its second and first member have been
released, and behind them the fourth and the third have come. -/

def sixth (number : Nat) : Message :=
  ((Draft.ofPayload .null).sequence number 6).build ⟨⟨number⟩, 0⟩

def twoAndTwo : Group :=
  { Group.empty ⟨"all"⟩ 0 0 with
    members := [sixth 2, sixth 1, sixth 4, sixth 3]
    markedCount := 2 }

theorem twoAndTwo_releases :
    sequence true twoAndTwo = true ∧
    (∀ other : Group, other.isComplete = false →
      other.marked.Perm twoAndTwo.marked →
      other.unmarked.Perm twoAndTwo.unmarked → sequence true other = true) ∧
    sequence true (twoAndTwo.add (sixth 2) 0) = false := by
  have incomplete : twoAndTwo.isComplete = false := by decide
  have again : (twoAndTwo.add (sixth 2) 0).isComplete = false := by decide
  obtain ⟨-, verdict, unlessComplete⟩ := releases_runs_in_any_order twoAndTwo
  have releases : sequence true twoAndTwo = true :=
    verdict.mpr (Or.inr ⟨by decide, by decide⟩)
  refine ⟨releases, fun other otherIncomplete marked unmarked => ?_, ?_⟩
  · rw [(unlessComplete incomplete).1 other otherIncomplete marked unmarked,
      releases]
  · obtain ⟨-, -, withPassed⟩ :=
      releases_runs_in_any_order (twoAndTwo.add (sixth 2) 0)
    have isThere : (twoAndTwo.add (sixth 2) 0).unmarked[2]? = some (sixth 2) :=
      rfl
    exact (withPassed again).2
      (Or.inl ⟨sixth 2, List.mem_of_getElem? isThere, Or.inr (by decide)⟩)

end Release

end Collate
