import Collate.Processing
import Collate.Proofs.Handler.Presenting
import Collate.Proofs.Handler.Readiness
import Collate.Proofs.Handler.Record
import Collate.Release

namespace Collate.Interleaving

variable {handler : Handler} {policy : Group → Bool} {invocation : Invocation}
  {key : Key} {group : Group}

/-- However the calls of a handler interleave that releases complete groups, and
whatever operations of the store fail: when a call that takes in a message has a
group processed, the group is as the admission of messages makes it, has as many
members as it declares, and lacks no more places of its sequence than it has
members in none of them. So every place is taken if all members are in
places. -/
theorem processed_when_complete (handler : Handler) (capacity : Nat)
    (environment : Environment) (calls : Nat → Invocation)
    (decides : ∀ call turn, (environment call turn).judge =
      Release.sequence false) (schedule : List Nat) :
    let system :=
      (System.start capacity fun call => (calls call).program handler).run
        environment schedule
    ∀ event ∈ system.trace, ∀ group outcome, event.act =
      .answered (.process group) outcome →
      (∃ message, calls event.call = .handle message) →
      group.Regular ∧ group.isComplete = true ∧
      group.missing.length ≤ group.strays.length ∧
      (group.strays = [] → ∀ place ∈ group.places, place ∈ group.numbers) := by
  rintro system event member group outcome act ⟨message, handles⟩
  obtain ⟨earlier, later, split⟩ := List.append_of_mem member
  have isPrefix : earlier ++ [event] <+: system.trace :=
    ⟨later, by simp [split]⟩
  obtain ⟨key, -, -, presents⟩ :=
    permits_of_answered decides schedule isPrefix act id
  have regular := presents.kempt.regular
  have complete : group.isComplete = true := by
    rcases presents.ready with ready | ⟨finishes, -⟩
    · simpa [Release.sequence] using ready
    · simp [handles, Invocation.takesIn] at finishes
  exact ⟨regular, complete, regular.length_missing_le complete,
    fun noStrays place isPlace =>
      regular.mem_numbers_of_strays complete noStrays isPlace⟩

/-! Two members of a sequence of two, the first and one that says it is the
fifth. -/

def fifth (call : Nat) : Message :=
  ((Draft.ofPayload .null).sequence (4 * call + 1) 2).build ⟨⟨call⟩, 0⟩

def byCompleteness : Circumstances :=
  { faltering with judge := Release.sequence false }

def outnumbered : System :=
  (System.start 0
    fun call => (Invocation.handle (fifth call)).program gatherer).run
    (fun _ _ => byCompleteness) (List.replicate 8 0 ++ List.replicate 12 1)

theorem outnumbered_lacks_place :
    ∃ group ∈ outnumbered.processings, group.sequenceSize = 2 ∧
      2 ∉ group.members.map Message.sequenceNumber := by
  decide

theorem outnumbered_has_stray :
    ∃ event ∈ outnumbered.trace,
      ∃ group outcome, event.act = .answered (.process group) outcome ∧
        group.missing.length ≤ group.strays.length := by
  have processed := processed_when_complete gatherer 0
      (fun _ _ => byCompleteness) (fun call => .handle (fifth call))
      (fun _ _ => rfl) (List.replicate 8 0 ++ List.replicate 12 1)
  have member : outnumbered.trace[16] ∈ outnumbered.trace := List.getElem_mem _
  exact ⟨_, member, _, _, rfl, (processed _ member _ _ rfl ⟨_, rfl⟩).2.2.1⟩

/-- The policies that a handler comes with, by number of new members or by
sequence. -/
inductive Supplied : (Group → Bool) → Prop
  | count (threshold : Nat) (positive : 0 < threshold) :
      Supplied (Release.count threshold)
  | sequence (partialRuns : Bool) : Supplied (Release.sequence partialRuns)

theorem Supplied.unmarked_ne_nil (supplied : Supplied policy)
    (kempt : Kempt key group) (ready : policy group = true) :
    group.unmarked ≠ [] := by
  intro spent
  cases supplied with
  | count threshold positive =>
      rw [Release.count, spent, List.length_nil, decide_eq_true_eq] at ready
      omega
  | sequence partialRuns =>
      have incomplete : group.isComplete = false := (kempt.spent spent).1
      simp [Release.sequence, Release.continuesSequence, incomplete, spent]
        at ready

/-- A group that is processed with nothing new in it: partial releases have
marked all its members, it has waited for others of its sequence, and now a call
finishes it that processes what has expired whatever the policy says. -/
structure Spent (handler : Handler) (policy : Group → Bool)
    (invocation : Invocation) (group : Group) : Prop where
  finishes : invocation.takesIn = false
  anyway : handler.partialOnExpiry = true
  refused : policy group = false
  nonempty : group.members ≠ []
  marked : group.unmarked = []
  incomplete : group.isComplete = false
  sized : group.sequenceSize ≠ 0

theorem Presents.news_or_spent
    (presents : Presents handler policy invocation key group)
    (supplied : Supplied policy) :
    group.unmarked ≠ [] ∨ Spent handler policy invocation group := by
  by_cases marked : group.unmarked = []
  · right
    have refused : policy group ≠ true := fun ready =>
      supplied.unmarked_ne_nil presents.kempt ready marked
    obtain ⟨finishes, anyway⟩ := presents.ready.resolve_left refused
    obtain ⟨incomplete, sized⟩ := presents.kempt.spent marked
    exact
      { finishes, anyway, marked, incomplete, sized
        refused := Bool.eq_false_of_not_eq_true refused
        nonempty := presents.kempt.proper.nonempty }
  · exact .inl marked

/-- However the calls of a handler interleave that releases by a policy it comes
with, and whatever operations of the store fail: a group that is processed has a
new member, unless it is spent. A reply is sent only after exactly one group has
been processed since the call has got its lock, and that one has a new member,
unless it is spent. -/
theorem processed_for_news (handler : Handler) (policy : Group → Bool)
    (capacity : Nat) (environment : Environment)
    (calls : Nat → Invocation) (supplied : Supplied policy)
    (decides : ∀ call turn, (environment call turn).judge = policy)
    (schedule : List Nat) :
    let system :=
      (System.start capacity fun call => (calls call).program handler).run
        environment schedule
    ∀ earlier event, earlier ++ [event] <+: system.trace →
      (∀ group outcome, event.act = .answered (.process group) outcome →
        group.unmarked ≠ [] ∨ Spent handler policy (calls event.call) group) ∧
      ∀ limit channel reply taken,
        event.act = .answered (.deliverWithin limit channel reply) taken →
          ∃ group, presented (earlier.filter fun past => past.key = event.key) =
            [group] ∧
            (group.unmarked ≠ [] ∨
              Spent handler policy (calls event.call) group) := by
  intro system earlier event isPrefix
  constructor
  · intro group outcome act
    obtain ⟨key, -, -, presents⟩ :=
      permits_of_answered decides schedule isPrefix act id
    exact presents.news_or_spent supplied
  · intro limit channel reply taken act
    obtain ⟨key, place, group, processed, presents⟩ :=
      permits_of_answered decides schedule isPrefix act id
    rw [place]
    exact ⟨group, processed, presents.news_or_spent supplied⟩

/-! The first part of a sequence of four, released by one: it is processed and
marked. When the group expires, it is processed again with nothing new in it,
and an empty reply is sent. -/

def hasty : Handler :=
  { gatherer with
    router := { Router.standard with output := some ⟨1, "replies"⟩ }
    partialOnExpiry := true }

def byOne : Circumstances :=
  { faltering with
    judge := Release.count 1
    process group := .ok (Processing.aggregate group ⟨⟨9⟩, 0⟩) }

def tidied (call : Nat) : Invocation :=
  if call = 0 then .handle (part 0) else .expire 0

def spentAgain : System :=
  (System.start 0 fun call => (tidied call).program hasty).run
    (fun _ _ => byOne) (List.replicate 20 0 ++ List.replicate 20 1)

theorem spentAgain_lacks_news :
    (∃ group ∈ spentAgain.processings, group.unmarked = []) ∧
    ∃ reply ∈ spentAgain.replies ⟨"all"⟩,
      reply.2.payload.same (.array []) = true := by
  decide +kernel

theorem spentAgain_has_spent :
    ∃ event ∈ spentAgain.trace,
      ∃ group outcome, event.act = .answered (.process group) outcome ∧
        Spent hasty (Release.count 1) (tidied event.call) group := by
  obtain ⟨group, processed, marked⟩ :
      ∃ group ∈ spentAgain.processings, group.unmarked = [] := by
    decide +kernel
  obtain ⟨event, member, found⟩ := List.mem_filterMap.mp processed
  obtain ⟨outcome, act⟩ := Event.act_of_processed? found
  obtain ⟨earlier, later, split⟩ := List.append_of_mem member
  have isPrefix : earlier ++ [event] <+: spentAgain.trace :=
    ⟨later, by simp [split]⟩
  have either := processed_for_news hasty (Release.count 1) 0 (fun _ _ => byOne)
      tidied (.count 1 Nat.one_pos) (fun _ _ => rfl)
      (List.replicate 20 0 ++ List.replicate 20 1) earlier event isPrefix
  exact ⟨event, member, group, outcome, act,
    (either.1 group outcome act).resolve_left fun news => news marked⟩

end Collate.Interleaving
