import Collate.Proofs.Handler.Lifetime
import Collate.Proofs.Handler.Releases

namespace Collate

namespace Group

variable {group : Group} {message member : Message}

/-- A message joins a group that it is not in yet, if it has no place in a
sequence, or one that is vacant in a sequence of the group's length. -/
theorem canAdd_iff (nonempty : group.isEmpty = false) :
    group.canAdd message = true ↔
    message.id ∉ group.members.map Message.id ∧
    (message.sequenceNumber = 0 ∨
      message.sequenceSize = group.sequenceSize ∧
      message.sequenceNumber ∉ group.members.map Message.sequenceNumber) := by
  rw [← not_iff_not, Bool.not_eq_true, canAdd_eq_false_iff, nonempty]
  tauto

theorem isEmpty_of_mem (isMember : member ∈ group.members) :
    group.isEmpty = false := by
  simpa [isEmpty] using List.ne_nil_of_mem isMember

theorem Regular.unnumbered_of_sizes_ne (regular : group.Regular)
    {left right : Message}
    (isLeft : left ∈ group.members) (isRight : right ∈ group.members)
    (differ : left.sequenceSize ≠ right.sequenceSize) :
    left.sequenceNumber = 0 ∨ right.sequenceNumber = 0 := by
  by_contra numbered
  obtain ⟨leftNumbered, rightNumbered⟩ := not_or.mp numbered
  have leftSize := regular.sizes left isLeft leftNumbered
  have rightSize := regular.sizes right isRight rightNumbered
  exact differ (leftSize.trans rightSize.symm)

theorem Regular.canAdd_iff_of_sizes_ne (regular : group.Regular)
    (isMember : member ∈ group.members)
    (differ : message.sequenceSize ≠ member.sequenceSize) :
    group.canAdd message = true ↔
    message.id ∉ group.members.map Message.id ∧
    (message.sequenceNumber = 0 ∨
      member.sequenceNumber = 0 ∧ message.sequenceSize = group.sequenceSize ∧
      message.sequenceNumber ∉ group.members.map Message.sequenceNumber) := by
  rw [canAdd_iff (isEmpty_of_mem isMember)]
  refine and_congr_right
    fun _ => or_congr_right ⟨fun ⟨sameSize, vacant⟩ => ?_, And.right⟩
  refine ⟨?_, sameSize, vacant⟩
  by_contra numbered
  exact differ (sameSize.trans (regular.sizes member isMember numbered).symm)

end Group

namespace Interleaving

theorem orderly_start (handler : Handler) (capacity : Nat)
    (environment : Environment) (calls : Nat → Invocation)
    (works : ∀ call turn, (environment call turn).fault = none) :
    Orderly (agreeing capacity environment)
      (System.start capacity fun call => (calls call).program handler) where
  resilient := resilient_agreeing handler capacity environment calls works []
  fitting call := addsFitting_program handler (calls call)
  sound := (Store.empty_sound capacity).subscribe _
  regular _ _ found := absurd found nofun

/-- However the calls of a handler interleave, and whichever of them are cut
off: every member of a stored group that has a place in a sequence declares the
length of the group, which is that of its first member. So of two members that
declare different lengths, one has no place, and a message that declares another
length than a member may join only without a place, or where that member has
none. -/
theorem placed_declare_one_length (handler : Handler) (capacity : Nat)
    (environment : Environment) (calls : Nat → Invocation)
    (works : ∀ call turn, (environment call turn).fault = none)
    (moves : List Move) :
    let after :=
      (System.start capacity fun call => (calls call).program handler).undergo
        environment moves
    ∀ key group, after.store.get? key = some group →
      (∀ member ∈ group.members, member.sequenceNumber ≠ 0 →
        member.sequenceSize = group.sequenceSize) ∧
      (∀ left ∈ group.members,
        ∀ right ∈ group.members, left.sequenceSize ≠ right.sequenceSize →
          left.sequenceNumber = 0 ∨ right.sequenceNumber = 0) ∧
      ∀ member ∈ group.members, ∀ message : Message,
        message.sequenceSize ≠ member.sequenceSize →
          (group.canAdd message = true ↔
            message.id ∉ group.members.map Message.id ∧
            (message.sequenceNumber = 0 ∨ member.sequenceNumber = 0 ∧
              message.sequenceSize = group.sequenceSize ∧
              message.sequenceNumber ∉
                group.members.map Message.sequenceNumber)) := by
  intro after key group found
  have start := orderly_start handler capacity environment calls works
  have regular := (start.undergo moves).regular key group found
  exact ⟨regular.sizes, fun _ isLeft _ isRight => regular.unnumbered_of_sizes_ne
    isLeft isRight, fun _ isMember _ => regular.canAdd_iff_of_sizes_ne isMember⟩

/-! The first of a sequence of three, and a message without a place that says it
is one of five. -/

def firstOfThree : Message :=
  ((Draft.ofPayload .null).sequence 1 3).build ⟨⟨0⟩, 0⟩

def oneOfFive : Message :=
  ((Draft.ofPayload .null).header Header.sequenceSize (.integer 5)).build
    ⟨⟨1⟩, 0⟩

def disputing (call : Nat) : Invocation :=
  .handle (if call = 0 then firstOfThree else oneOfFive)

def disputed : System :=
  (System.start 0 fun call => (disputing call).program gatherer).undergo
    (fun _ _ => byCompleteness)
    (List.replicate 8 (.turn 0) ++ List.replicate 9 (.turn 1))

def onlyFirst : Group := (Group.empty ⟨"all"⟩ 0 0).add firstOfThree 0

theorem disputed_has_two_lengths :
    onlyFirst.canAdd oneOfFive = true ∧
    disputed.result? 1 = some (.handled (.ok ())) ∧
    disputed.store.get? ⟨"all"⟩ = some (onlyFirst.add oneOfFive 0) ∧
    ∃ left ∈ (onlyFirst.add oneOfFive 0).members,
      ∃ right ∈ (onlyFirst.add oneOfFive 0).members,
        left.sequenceSize ≠ 0 ∧ right.sequenceSize ≠ 0 ∧
          left.sequenceSize ≠ right.sequenceSize :=
  ⟨rfl, rfl, rfl, firstOfThree, List.mem_cons_self, oneOfFive,
    List.mem_cons_of_mem _ List.mem_cons_self, by decide, by decide, by decide⟩

theorem disputed_has_unplaced :
    firstOfThree.sequenceSize ≠ oneOfFive.sequenceSize ∧
    (firstOfThree.sequenceNumber = 0 ∨ oneOfFive.sequenceNumber = 0) := by
  have differ : firstOfThree.sequenceSize ≠ oneOfFive.sequenceSize := by decide
  obtain ⟨-, agree, -⟩ :=
    placed_declare_one_length gatherer 0 (fun _ _ => byCompleteness)
      disputing (fun _ _ => rfl) (List.replicate 8 (.turn 0) ++
        List.replicate 9 (.turn 1)) ⟨"all"⟩ (onlyFirst.add oneOfFive 0) rfl
  exact ⟨differ, agree _ List.mem_cons_self _
    (List.mem_cons_of_mem _ List.mem_cons_self) differ⟩

end Interleaving

end Collate
