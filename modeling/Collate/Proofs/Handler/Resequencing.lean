import Collate.Proofs.Handler.Flow
import Collate.Proofs.Handler.Linearization
import Collate.Proofs.Handler.Stream

namespace Collate.Interleaving

open Discipline

/-- Surroundings in which runs of numbered messages are released and sent on by
a channel that takes them all. -/
structure Resequences (handler : Handler) (environment : Environment)
    (channel : Channel) : Prop where
  output : handler.router.output = some channel
  works : ∀ call turn, (environment call turn).fault = none
  judges : ∀ call turn, (environment call turn).judge = Release.sequence true
  processes : ∀ call turn group,
    (environment call turn).process group = .ok (Processing.resequence group)
  delivers : ∀ call turn limit message,
    (environment call turn).deliverWithin limit channel message = some (.ok ())

def System.arrivals (system : System) (key : Key) : List Nat :=
  (system.under key).filterMap Event.entrant?

/-- What a resequencer has done when messages of a key have come, one after
another. What it has sent on are the numbers up to the greatest one that the
numbers have ever reached, in order; what it has offered to be discarded are the
messages that brought a number again. -/
structure Resequenced (handler : Handler) (environment : Environment)
    (channel : Channel) (key : Key) (count : Nat) (messages : List Message)
    (system : System) : Prop where
  sent : ∃ greatest delivered,
    IsGreatest {number |
      HasReached (messages.map Message.sequenceNumber) number} greatest ∧
      system.replies key = delivered.map (Prod.mk channel) ∧
      delivered.map Message.sequenceNumber = List.range' 1 greatest ∧
      delivered ⊆ (Arrivals.ofMessages messages).firsts
  offered : system.offers key =
    (Arrivals.ofMessages messages).repeats.map (Prod.mk handler.discardChannel)
  discarded : (∀ call turn message,
      (environment call turn).deliver handler.discardChannel message = .ok ()) →
    ((system.discards handler.discardChannel).filter fun message =>
        handler.correlation message = some key) =
          (Arrivals.ofMessages messages).repeats
  complete : Covers count (messages.map Message.sequenceNumber) →
    ((system.replies key).map fun reply => reply.2.sequenceNumber) =
      List.range' 1 count ∧
    system.store.get? key = none

/-- Where the messages of a key are when some have come, of which not all
numbers had come before the last: a number of them have been released. -/
structure Flowing (handler : Handler) (environment : Environment)
    (channel : Channel) (key : Key) (count : Nat) (messages : List Message)
    (released : Nat) (flow : Flow) : Prop where
  reached : IsGreatest {number |
    HasReached (messages.map Message.sequenceNumber) number} released
  within : released ≤ (Arrivals.ofMessages messages).numbers.length
  run : ((Arrivals.ofMessages messages).numbers.take released).Perm
      (List.range' 1 released)
  replies : ∃ delivered, flow.replies = delivered.map (Prod.mk channel) ∧
    delivered.map Message.sequenceNumber = List.range' 1 released ∧
    delivered ⊆ (Arrivals.ofMessages messages).firsts
  offers : flow.offers =
    (Arrivals.ofMessages messages).repeats.map (Prod.mk handler.discardChannel)
  discards : (∀ call turn message,
      (environment call turn).deliver handler.discardChannel message = .ok ()) →
    flow.discards = (Arrivals.ofMessages messages).repeats
  waits : ¬ Covers count (messages.map Message.sequenceNumber) →
    ∀ generation time,
      Buffers key (Arrivals.ofMessages messages).firsts released
        (flow.stored.getD (.empty key generation time))
  gone : Covers count (messages.map Message.sequenceNumber) → flow.stored = none

section Resequencing

variable {handler : Handler} {environment : Environment} {channel : Channel}
  {key : Key} {call ticket count : Nat} {visit : Visit} {group : Group}
  {messages : List Message} {message : Message}

theorem messagesOf_map_message (messages : List Message) :
    Router.messagesOf (messages.map Reply.message) = Program.done messages := by
  induction messages with
  | nil => rfl
  | cons message rest induction =>
      simp [Router.messagesOf, induction]

theorem parts_ofMessages (nonempty : messages ≠ []) :
    (Outcome.ofMessages messages).parts = messages.map Reply.message := by
  cases messages with
  | nil => exact absurd rfl nonempty
  | cons message rest => rfl

theorem ensures_cleanUp_flow (taker : Channel)
    (works : ∀ call turn, (environment call turn).fault = none)
    (sameKey : group.key = key) (sized : group.sequenceSize ≠ 0) :
    (unconstrained environment).Ensures call key ticket
      (Handler.cleanUp ticket group) visit
      fun cleaned after => cleaned = .ok () ∧ ∃ time,
        after.view.flow taker =
          { visit.view.flow taker with
            stored :=
              if group.isComplete then none
              else visit.view.stored.map fun held => held.markAll time } := by
  subst sameKey
  unfold Handler.cleanUp Handler.removeGroup
  cases group.isComplete with
  | true =>
      refine Ensures.next (ensures_removed taker works)
        fun _ removed ⟨gone, removedFlow⟩ => ?_
      subst gone
      refine Ensures.next (ensures_still taker rfl) fun _ after ⟨_, same⟩ => ?_
      exact ⟨rfl, 0, same.trans removedFlow⟩
  | false =>
      simp only [sized, Bool.false_or, decide_false,
        Bool.false_eq_true, if_false]
      refine Ensures.next (ensures_marked taker works rfl)
        fun _ after ⟨⟨marked, answered⟩, time, markedFlow⟩ => ?_
      subst answered
      exact ⟨rfl, time, markedFlow⟩

variable (resequences : Resequences handler environment channel)

include resequences

theorem ensures_sendAll (messages : List Message) :
    (unconstrained environment).Ensures call key ticket
      (handler.router.sendAll channel messages) visit
      fun sent after => sent = .ok () ∧
        after.view.flow handler.discardChannel =
          { visit.view.flow handler.discardChannel with
            replies := (visit.view.flow handler.discardChannel).replies ++
              messages.map (Prod.mk channel) } := by
  induction messages generalizing visit with
  | nil => exact ⟨rfl, by simp⟩
  | cons message rest induction =>
      refine Ensures.next (ensures_send handler.discardChannel
        (resequences.delivers _ _ _ _)) fun taken sent ⟨took, sentFlow⟩ => ?_
      subst took
      refine induction.imp fun result after ⟨done, afterFlow⟩ => ⟨done, ?_⟩
      rw [afterFlow, sentFlow]
      simp

theorem ensures_dispatch_messages (nonempty : messages ≠ [])
    (address : Option HeaderValue) :
    (unconstrained environment).Ensures call key ticket (handler.dispatch key
      (.ofMessages messages) address) visit fun sent after =>
        sent = .ok () ∧
        after.view.flow handler.discardChannel =
          { visit.view.flow handler.discardChannel with
            replies := (visit.view.flow handler.discardChannel).replies ++
              messages.map (Prod.mk channel) } := by
  unfold Handler.dispatch Router.sendReplies Router.destination
  rw [resequences.output, parts_ofMessages nonempty]
  simp only [Program.bind_eq, Program.pure_eq, Program.bind_done,
    Program.bind_assoc, messagesOf_map_message]
  refine Ensures.next (ensures_still handler.discardChannel trivial)
    fun _ logged ⟨_, same⟩ => ?_
  refine (ensures_sendAll resequences messages).next
    fun sent after ⟨done, sentFlow⟩ => ?_
  subst done
  simp only [Program.bind_done]
  refine Ensures.next (ensures_still handler.discardChannel trivial)
    fun _ reported ⟨_, reportedSame⟩ => ?_
  exact ⟨rfl, by rw [reportedSame, sentFlow, same]⟩

theorem ensures_release_run (sameKey : group.key = key)
    (sized : group.sequenceSize ≠ 0)
    (waiting : group.unmarked ≠ []) (address : Option HeaderValue) :
    (unconstrained environment).Ensures call key ticket
      (handler.release ticket key group address) visit fun _ after => ∃ time,
        after.view.flow handler.discardChannel =
          { visit.view.flow handler.discardChannel with
            stored :=
              if group.isComplete then none
              else visit.view.stored.map fun held => held.markAll time
            replies := (visit.view.flow handler.discardChannel).replies ++
              (Processing.inSequence group).map (Prod.mk channel) } := by
  have nonempty : Processing.inSequence group ≠ [] := by
    intro none
    have length := congrArg List.length none
    rw [Processing.inSequence, List.length_mergeSort] at length
    exact waiting (List.length_eq_zero_iff.mp length)
  unfold Handler.release
  refine Ensures.next (ensures_still handler.discardChannel trivial) ?_
  rintro outcome processed ⟨answered, same⟩
  obtain rfl : outcome = .ok (Processing.resequence group) :=
    answered.trans (resequences.processes _ _ _)
  refine (ensures_cleanUp_flow handler.discardChannel resequences.works
    sameKey sized).next ?_
  rintro cleaned tidy ⟨rfl, time, cleanedFlow⟩
  refine Ensures.next (ensures_still handler.discardChannel trivial) ?_
  rintro reported logged ⟨-, loggedSame⟩
  refine (ensures_dispatch_messages resequences nonempty address).imp ?_
  rintro sent after ⟨-, sentFlow⟩
  refine ⟨time, ?_⟩
  have stored : processed.view.stored = visit.view.stored :=
    congrArg Flow.stored same
  rw [sentFlow, loggedSame, cleanedFlow, same, stored]

variable {released : Nat} {flow : Flow}

omit resequences in
theorem Flowing.again {taken : Except Error Unit}
    (flowing : Flowing handler environment channel key count messages
      released flow)
    (uncovered : ¬ Covers count (messages.map Message.sequenceNumber))
    (known : message.sequenceNumber ∈ (Arrivals.ofMessages messages).numbers)
    (answered : taken =
      (environment call ticket).deliver handler.discardChannel message) :
    Flowing handler environment channel key count (messages ++ [message])
      released
      { flow with
        offers := flow.offers ++ [(handler.discardChannel, message)]
        discards :=
          flow.discards ++ if taken.isOk then [message] else [] } := by
  have arrivals : Arrivals.ofMessages (messages ++ [message]) =
      { Arrivals.ofMessages messages with
        repeats := (Arrivals.ofMessages messages).repeats ++ [message] } := by
    rw [Arrivals.ofMessages_concat, Arrivals.add_of_mem known]
  have has := Arrivals.mem_numbers_ofMessages.mp known
  have covers :
      Covers count ((messages ++ [message]).map Message.sequenceNumber) ↔
      Covers count (messages.map Message.sequenceNumber) := by
    refine forall_congr'
      fun number => imp_congr_right fun _ => imp_congr_right fun _ => ?_
    rw [List.map_append, List.mem_append]
    refine or_iff_left_of_imp fun same => ?_
    rwa [List.mem_singleton.mp same]
  constructor
  · rw [List.map_append]
    exact isGreatest_reached_of_not_run flowing.reached fun _ _ => has
  · rw [arrivals]
    exact flowing.within
  · rw [arrivals]
    exact flowing.run
  · rw [arrivals]
    exact flowing.replies
  · rw [arrivals, List.map_append, ← flowing.offers]
    rfl
  · intro takes
    rw [answered, takes, arrivals, flowing.discards takes]
    rfl
  · intro _
    rw [arrivals]
    exact flowing.waits uncovered
  · intro nowCovers
    exact absurd (covers.mp nowCovers) uncovered

section Fresh

variable (flowing :
  Flowing handler environment channel key count messages released flow)
  (fresh : message.sequenceNumber ∉ (Arrivals.ofMessages messages).numbers)
  (buffers : Buffers
    key (Arrivals.ofMessages (messages ++ [message])).firsts released group)
  (placed : ∀ other ∈ messages ++ [message], IsPlaced count other)

omit resequences
include flowing fresh

theorem Flowing.released_lt :
    released < (Arrivals.ofMessages (messages ++ [message])).firsts.length := by
  have numbers := congrArg List.length (Arrivals.numbers_concat fresh)
  rw [Arrivals.numbers, List.length_map, List.length_append] at numbers
  rw [numbers]
  exact Nat.lt_add_one_of_le flowing.within

include buffers

theorem Flowing.unmarked_ne_nil : group.unmarked ≠ [] := by
  have waiting := flowing.released_lt fresh
  rw [buffers.unmarked, ne_eq, List.drop_eq_nil_iff]
  omega

include placed

theorem Flowing.sequence_iff :
    Release.sequence true group = true ↔
      IsRun (Arrivals.ofMessages (messages ++ [message])).numbers := by
  have before : ((Arrivals.ofMessages (messages ++ [message])).numbers.take
      released).Perm (List.range' 1 released) := by
    rw [Arrivals.numbers_concat fresh,
      List.take_append_of_le_length flowing.within]
    exact flowing.run
  exact buffers.sequence_iff
    (fun other member => placed other (Arrivals.firsts_subset _ member)) before
    (flowing.released_lt fresh) (Arrivals.nodup_numbers_ofMessages _)

theorem Flowing.wait
    (noRun : ¬ IsRun (Arrivals.ofMessages (messages ++ [message])).numbers) :
    Flowing handler environment channel key count (messages ++ [message])
      released { flow with stored := some group } := by
  constructor
  · rw [List.map_append]
    refine isGreatest_reached_of_not_run flowing.reached fun greatest all => ?_
    refine absurd ((isRun_iff (Arrivals.nodup_numbers_ofMessages _)).mpr
      ⟨greatest, fun number => ?_⟩) noRun
    rw [Arrivals.mem_numbers_ofMessages, List.map_append]
    exact all number
  · rw [Arrivals.numbers_concat fresh, List.length_append]
    exact Nat.le_add_right_of_le flowing.within
  · rw [Arrivals.numbers_concat fresh,
      List.take_append_of_le_length flowing.within]
    exact flowing.run
  · obtain ⟨delivered, replies, inOrder, firsts⟩ := flowing.replies
    refine ⟨delivered, replies, inOrder, ?_⟩
    rw [Arrivals.firsts_concat fresh]
    exact List.subset_append_of_subset_left _ firsts
  · rw [Arrivals.firsts_concat fresh]
    exact flowing.offers
  · rw [Arrivals.firsts_concat fresh]
    exact flowing.discards
  · exact fun _ _ _ => buffers
  · exact fun covers => absurd (Arrivals.run_of_covers placed covers) noRun

theorem Flowing.goOn (time : Int)
    (run : IsRun (Arrivals.ofMessages (messages ++ [message])).numbers) :
    Flowing handler environment channel key count (messages ++ [message])
      (Arrivals.ofMessages (messages ++ [message])).numbers.length
      { flow with
        stored := if group.isComplete then none else some (group.markAll time)
        replies := flow.replies ++ (Processing.inSequence group).map
          (Prod.mk channel) } := by
  set arrivals := Arrivals.ofMessages (messages ++ [message]) with arrivalsEq
  have lengths : arrivals.firsts.length = arrivals.numbers.length := by
    rw [Arrivals.numbers, List.length_map]
  have longer : released < arrivals.numbers.length :=
    lengths ▸ flowing.released_lt fresh
  have complete : group.isComplete = true ↔
      Covers count ((messages ++ [message]).map Message.sequenceNumber) := by
    have nonempty : arrivals.firsts ≠ [] := List.ne_nil_of_length_pos (by omega)
    rw [Arrivals.covers_iff placed, buffers.isComplete (fun other member =>
      placed other (Arrivals.firsts_subset _ member)) nonempty,
      decide_eq_true_eq, lengths]
  have waiting :
      group.unmarked.length = arrivals.numbers.length - released := by
    rw [buffers.unmarked, List.length_drop, lengths]
  have goesOn : (group.unmarked.map Message.sequenceNumber).Perm
      (List.range' (released + 1) group.unmarked.length) := by
    have before :
        (arrivals.numbers.take released).Perm (List.range' 1 released) := by
      rw [arrivalsEq, Arrivals.numbers_concat fresh,
        List.take_append_of_le_length flowing.within]
      exact flowing.run
    rw [waiting, buffers.unmarked, List.map_drop]
    exact (perm_drop_iff before (Nat.le_of_lt longer)).mpr run
  constructor
  · rw [List.map_append]
    refine isGreatest_reached_of_run fun other => ?_
    have sameMembers := run.mem_iff (a := other)
    rw [List.mem_range'_1, Arrivals.mem_numbers_ofMessages, List.map_append]
      at sameMembers
    refine sameMembers.trans ?_
    omega
  · exact Nat.le_refl _
  · rw [List.take_length]
    exact run
  · obtain ⟨delivered, replies, inOrder, firsts⟩ := flowing.replies
    refine ⟨delivered ++ Processing.inSequence group, ?_, ?_, ?_⟩
    · rw [replies, List.map_append]
    · rw [List.map_append, inOrder, Processing.map_inSequence goesOn, waiting,
        range'_append_range', Nat.add_sub_cancel' (Nat.le_of_lt longer)]
    · apply List.append_subset.mpr
      constructor
      · rw [Arrivals.firsts_concat fresh]
        exact List.subset_append_of_subset_left _ firsts
      · intro other member
        have isWaiting : other ∈ group.unmarked := List.mem_mergeSort.mp member
        rw [buffers.unmarked] at isWaiting
        exact List.mem_of_mem_drop isWaiting
  · rw [Arrivals.firsts_concat fresh]
    exact flowing.offers
  · rw [Arrivals.firsts_concat fresh]
    exact flowing.discards
  · intro uncovered generation time
    rw [if_neg fun isComplete => uncovered (complete.mp isComplete), ← lengths]
    exact buffers.markAll _
  · intro covers
    exact if_pos (complete.mpr covers)

end Fresh

variable (flowing : Flowing handler environment channel key count messages
  released (visit.view.flow handler.discardChannel))
  (uncovered : ¬ Covers count (messages.map Message.sequenceNumber))
  (placed : ∀ other ∈ messages ++ [message], IsPlaced count other)

include flowing uncovered placed

theorem ensures_enroll_stream
    (fresh : message.sequenceNumber ∉ (Arrivals.ofMessages messages).numbers) :
    (unconstrained environment).Ensures call key
      ticket (handler.enroll ticket key message) visit fun _ after => ∃ reached,
        Flowing handler environment channel key count (messages ++ [message])
          reached (after.view.flow handler.discardChannel) := by
  refine Ensures.next (ensures_added handler.discardChannel resequences.works
    message) fun _ added ⟨generation, time, answered, addedFlow⟩ => ?_
  subst answered
  set group :=
    (visit.view.stored.getD (.empty key generation time)).add message time
  have buffers :
    Buffers key (Arrivals.ofMessages (messages ++ [message])).firsts released
      group := by
    rw [Arrivals.firsts_concat fresh]
    exact (flowing.waits uncovered generation time).add message time
  refine Ensures.next (ensures_still handler.discardChannel rfl)
    fun _ retained ⟨_, retainedSame⟩ => ?_
  refine Ensures.next (ensures_still handler.discardChannel trivial)
    fun _ logged ⟨_, loggedSame⟩ => ?_
  refine Ensures.next (ensures_still handler.discardChannel trivial)
    fun isReady judged ⟨verdict, judgedSame⟩ => ?_
  have seen : judged.view.flow handler.discardChannel =
      { visit.view.flow handler.discardChannel with stored := some group } := by
    rw [judgedSame, loggedSame, retainedSame, addedFlow]
  have ready : isReady = Release.sequence true group :=
    verdict.trans (congrFun (resequences.judges _ _) group)
  split
  · rename_i released
    have sized : group.sequenceSize ≠ 0 := by
      have isPlaced :=
        placed message (List.mem_append_right _ (List.mem_singleton_self _))
      rw [buffers.sequenceSize (fun other member => placed other
        (Arrivals.firsts_subset _ member)) (List.ne_nil_of_length_pos
          (Nat.zero_lt_of_lt (flowing.released_lt fresh)))]
      exact Nat.ne_of_gt (Nat.lt_of_lt_of_le isPlaced.positive isPlaced.within)
    refine (ensures_release_run resequences buffers.sameKey sized
      (flowing.unmarked_ne_nil fresh buffers) _).imp
      fun _ after ⟨time, afterFlow⟩ => ?_
    have stored : judged.view.stored = some group := congrArg Flow.stored seen
    rw [stored, seen] at afterFlow
    rw [afterFlow]
    exact ⟨_, flowing.goOn fresh buffers placed time
      ((flowing.sequence_iff fresh buffers placed).mp (ready ▸ released))⟩
  · rename_i waits
    have unready : ¬ Release.sequence true group = true := by rwa [← ready]
    have incomplete : ¬ group.isComplete = true := fun complete =>
      unready (by simp [Release.sequence, complete])
    rw [if_neg incomplete]
    refine ⟨released, ?_⟩
    rw [seen]
    exact flowing.wait fresh buffers placed fun run =>
      unready ((flowing.sequence_iff fresh buffers placed).mpr run)

theorem ensures_receive_stream
    (unknown : ∀ other ∈ messages, other.id = message.id →
      other.sequenceNumber = message.sequenceNumber) :
    (unconstrained environment).Ensures call key ticket
      (handler.receive ticket key message) visit fun _ after => ∃ reached,
        Flowing handler environment channel key count (messages ++ [message])
          reached (after.view.flow handler.discardChannel) := by
  have isPlaced :=
    placed message (List.mem_append_right _ (List.mem_singleton_self _))
  refine Ensures.next (ensures_loaded handler.discardChannel resequences.works)
    fun _ loaded ⟨loadedSame, generation, time, answered⟩ => ?_
  subst answered
  have buffers : Buffers key (Arrivals.ofMessages messages).firsts released
      (visit.view.stored.getD (.empty key generation time)) :=
    flowing.waits uncovered generation time
  set group := visit.view.stored.getD (.empty key generation time)
  have going : ∀ retained : Visit,
    retained.view.flow handler.discardChannel =
      visit.view.flow handler.discardChannel →
      (unconstrained environment).Ensures call key ticket
        (if group.canAdd message then handler.enroll ticket key message
        else do
          Call.log (.rejected key message)
          handler.discard key message) retained
        fun _ after => ∃ reached,
          Flowing handler environment channel key count (messages ++ [message])
            reached (after.view.flow handler.discardChannel) := by
    intro retained same
    by_cases known : message.sequenceNumber ∈
      (Arrivals.ofMessages messages).numbers
    · rw [if_neg (by simp [buffers.canAdd_of_known isPlaced known])]
      refine Ensures.next (ensures_still handler.discardChannel trivial)
        fun _ logged ⟨_, loggedSame⟩ => ?_
      refine Ensures.next (ensures_offer handler.discardChannel message)
        fun taken offered ⟨answered, offeredFlow⟩ => ?_
      have after := flowing.again uncovered known answered
      rw [loggedSame, same] at offeredFlow
      rw [← offeredFlow] at after
      cases taken with
      | ok value => exact ⟨released, after⟩
      | error error =>
          refine Ensures.next (ensures_still handler.discardChannel trivial)
            fun _ reported ⟨_, reportedSame⟩ => ?_
          refine ⟨released, ?_⟩
          rwa [reportedSame]
    · have mayJoin : group.canAdd message = true := by
        refine buffers.canAdd_of_fresh (fun other member => placed other
          (List.mem_append_left _ (Arrivals.firsts_subset _ member)))
          isPlaced ?_ known
        intro other member same
        have sameNumber := unknown other (Arrivals.firsts_subset _ member) same
        exact known (sameNumber ▸ List.mem_map_of_mem member)
      rw [if_pos mayJoin]
      rw [← same] at flowing
      exact ensures_enroll_stream resequences flowing uncovered placed known
  dsimp only
  split
  · refine Ensures.next (ensures_still handler.discardChannel rfl)
      fun _ retained ⟨_, retainedSame⟩ => ?_
    exact going retained (retainedSame.trans loadedSame)
  · exact going loaded loadedSame

omit resequences flowing uncovered placed

theorem flowing_start (environment : Environment) :
    Flowing handler environment channel key count [] 0
      (View.start.flow handler.discardChannel) where
  reached := isGreatest_reached_nil
  within := Nat.le_refl 0
  run := List.Perm.refl []
  replies := ⟨[], rfl, rfl, List.Subset.refl []⟩
  offers := rfl
  discards := fun _ => rfl
  waits := fun _ _ _ => ⟨rfl, rfl, rfl⟩
  gone := fun _ => rfl

end Resequencing

section Serving

variable {handler : Handler} {environment : Environment} {channel : Channel}
  {key : Key}
  {count : Nat} {message : Nat → Message} {visitors : List Nat} {view : View}
  {system : System} (resequences : Resequences handler environment channel)
  (isStream : IsStream handler.correlation key count message)

include isStream in
theorem placed_of_mem
    (mine : ∀ call ∈ visitors, handler.correlation (message call) = some key) :
    ∀ other ∈ visitors.map message, IsPlaced count other := by
  intro other member
  obtain ⟨call, isVisitor, rfl⟩ := List.mem_map.mp member
  exact isStream.placed call (mine call isVisitor)

include resequences isStream

theorem flowing_of_replayed
    (replayed : Replayed environment (fun call ticket => (Errand.handle
      (message call)).course handler key ticket) key visitors view)
    (mine : ∀ call ∈ visitors, handler.correlation (message call) = some key)
    (uncovered : ¬ Covers
      count ((visitors.dropLast.map message).map Message.sequenceNumber)) :
    ∃ released, Flowing handler environment channel key count
      (visitors.map message) released (view.flow handler.discardChannel) := by
  -- By induction on the visits: not all numbers had come before a visit, so it
  -- finds the group that holds the first messages of those that have.
  induction replayed with
  | start => exact ⟨0, flowing_start environment⟩
  | @visit visitors view replayed call ticket induction =>
      rw [List.dropLast_concat] at uncovered
      have earlier :
          ∀ other ∈ visitors, handler.correlation (message other) = some key :=
        fun other member => mine other (List.mem_append_left _ member)
      have own :=
        mine call (List.mem_append_right _ (List.mem_singleton_self call))
      have uncoveredBefore : ¬ Covers count
            ((visitors.dropLast.map message).map Message.sequenceNumber) := by
        intro covers
        refine uncovered fun number positive within => ?_
        exact (((List.dropLast_sublist visitors).map message).map _).subset
          (covers number positive within)
      obtain ⟨released, flowing⟩ := induction earlier uncoveredBefore
      have placed := placed_of_mem isStream mine
      rw [List.map_append] at placed ⊢
      have unknown :
          ∀ other ∈ visitors.map message, other.id = (message call).id →
            other.sequenceNumber = (message call).sequenceNumber := by
        intro other member same
        obtain ⟨visitor, isVisitor, rfl⟩ := List.mem_map.mp member
        rw [isStream.distinct visitor call (earlier visitor isVisitor) own same]
      have arrives : Flowing handler environment channel key count
            (visitors.map message) released
            ((view.arrive call key).view.flow handler.discardChannel) := by
        have entered : (view.arrive call key).view.flow handler.discardChannel =
            view.flow handler.discardChannel := View.flow_enter
        rwa [entered]
      have course : (unconstrained environment).Ensures call key ticket
            ((Errand.handle (message call)).course handler key ticket)
            (view.arrive call key)
            fun _ after => ∃ reached, Flowing handler environment
              channel key count (visitors.map message ++ [message call]) reached
              (after.view.flow handler.discardChannel) :=
        Ensures.next (ensures_receive_stream resequences arrives uncovered
          placed unknown) fun _ _ holds => holds
      obtain ⟨reached, after⟩ := course.of_stay
      refine ⟨reached, ?_⟩
      rw [View.visited, View.flow_leave]
      exact after

omit resequences isStream in
theorem resequenced_of_flowing {released : Nat} {messages : List Message}
    (coherent : Coherent (serializing handler environment
      fun call => .handle (message call)) system)
    (placed : ∀ other ∈ messages, IsPlaced count other)
    (flowing : Flowing handler environment channel key count messages released
      ((system.view key).flow handler.discardChannel)) :
    Resequenced handler environment channel key count messages system := by
  obtain ⟨delivered, replies, inOrder, firsts⟩ := flowing.replies
  refine ⟨⟨released, delivered, flowing.reached, replies, inOrder, firsts⟩,
    flowing.offers, ?_, ?_⟩
  · intro takes
    rw [coherent.discards_of_key serializing_confines]
    exact flowing.discards takes
  · intro covers
    have bounded : ∀ number ∈ messages.map Message.sequenceNumber, 1 ≤ number ∧
        number ≤ count := by
      intro number member
      obtain ⟨other, isMember, rfl⟩ := List.mem_map.mp member
      exact ⟨(placed other isMember).positive, (placed other isMember).within⟩
    have all : released = count :=
      flowing.reached.unique (isGreatest_reached_of_covers covers bounded)
    have replied : system.replies key = delivered.map (Prod.mk channel) :=
      replies
    refine ⟨?_, flowing.gone covers⟩
    rw [replied, List.map_map, ← all, ← inOrder]
    rfl

end Serving

/-- A stream of messages of a key, of which each brings a number of a sequence,
in any order and some again. However the calls that bring them, and those of
other keys, interleave: whenever no call has the lock of the key, up to the
message that brings the last missing number, the messages that have been sent on
are those of the numbers up to the greatest that the numbers have ever reached,
in order, the messages that brought a number again were offered to be discarded
and no others, and when all numbers have come, all have been sent on and the
group is gone. In particular this holds after each of the calls when they are
made one after another, and then each comes to its end. -/
theorem stream_resequenced {handler : Handler} {environment : Environment}
    {channel : Channel} {key : Key} {count : Nat} {message : Nat → Message}
    (resequences : Resequences handler environment channel)
    (isStream : IsStream handler.correlation key count message) :
    (∀ schedule : List Nat,
      let system :=
        serve handler environment (fun call => .handle (message call)) schedule
      let arrived := (system.arrivals key).map message
      (∀ call ticket rest, system.phase call ≠ .inside key ticket rest) →
      ¬ Covers count (arrived.dropLast.map Message.sequenceNumber) →
      Resequenced handler environment channel key count arrived system) ∧
    ∀ order : List Nat, order.Nodup →
      (∃ turns, ∀ call ∈ order, ((serve handler environment (fun call =>
        .handle (message call)) (oneByOne turns order)).result? call).isSome) ∧
      ∀ turns,
        let system := serve handler environment
            (fun call => .handle (message call)) (oneByOne turns order)
        let brought := (order.filter fun call =>
          handler.correlation (message call) = some key).map message
        (∀ call ∈ order, (system.result? call).isSome) →
        ¬ Covers count (brought.dropLast.map Message.sequenceNumber) →
        Resequenced handler environment channel key count brought system := by
  have coherent : ∀ schedule, Coherent (serializing handler environment
      fun call => .handle (message call)) (serve handler environment
        (fun call => .handle (message call)) schedule) :=
    coherent_serve resequences.works
  have atRest : ∀ schedule : List Nat,
      let system :=
        serve handler environment (fun call => .handle (message call)) schedule
      let arrived := (system.arrivals key).map message
      (∀ call ticket rest, system.phase call ≠ .inside key ticket rest) →
      ¬ Covers count (arrived.dropLast.map Message.sequenceNumber) →
      Resequenced handler environment channel key count arrived system := by
    intro schedule system arrived free uncovered
    have mine : ∀ call ∈ system.arrivals key,
        handler.correlation (message call) = some key := by
      intro call member
      rw [System.arrivals, ← lockOrder_filter_key (coherent schedule)] at member
      exact of_decide_eq_true (List.mem_filter.mp member).2
    have replayed := ((coherent schedule).idle_of_outside free).2
    rw [← List.map_dropLast] at uncovered
    obtain ⟨released, flowing⟩ :=
      flowing_of_replayed resequences isStream replayed mine uncovered
    exact resequenced_of_flowing (coherent schedule)
      (placed_of_mem isStream mine) flowing
  refine ⟨atRest,
    fun order once => ⟨(coherent []).exists_oneByOne (fun _ => rfl) once, ?_⟩⟩
  intro turns system brought finished uncovered
  have arrivals : system.arrivals key = order.filter
      fun call => handler.correlation (message call) = some key := by
    have inOrder : system.lockOrder = order.filter _ :=
      lockOrder_oneByOne resequences.works once finished
    rw [System.arrivals, ← lockOrder_filter_key
      (coherent (oneByOne turns order)), inOrder, List.filter_filter]
    refine List.filter_congr fun call _ => ?_
    cases correlated : handler.correlation (message call) <;>
      simp [isKeyed, Errand.key?, correlated]
  have free : ∀ call, (system.phase call).ticket? = none :=
    free_serve fun call member => finished call (mem_of_mem_oneByOne member)
  have outside :
      ∀ call ticket rest, system.phase call ≠ .inside key ticket rest := by
    intro call ticket rest inside
    have none := free call
    rw [inside] at none
    simp [Phase.ticket?] at none
  have after := atRest (oneByOne turns order) outside
  rw [arrivals] at after
  exact after uncovered

/-! Three places, of which the second is taken twice before the first message
comes. -/

def resequencing : Circumstances where
  generation := 0
  stamp := ⟨⟨9⟩, 0⟩
  time := 0
  fault := none
  judge := Release.sequence true
  process group := .ok (Processing.resequence group)
  resolve name := .error (.unknownChannel name)
  deliver _ _ := .ok ()
  deliverWithin _ _ _ := some (.ok ())
  rank _ := 0

def lining : Handler where
  correlation message :=
    if message.sequenceSize = 3 then some ⟨"line"⟩ else none
  router := { Router.standard with output := some ⟨1, "out"⟩ }
  discardChannel := ⟨0, "discard"⟩
  partialOnExpiry := false

def place : Nat → Nat
  | 0 => 2
  | 1 => 2
  | 2 => 1
  | _ => 3

def lined (call : Nat) : Message :=
  if call < 4 then
    ((Draft.ofPayload .null).sequence (place call) 3).build ⟨⟨call⟩, 0⟩
  else .ofPayload .null ⟨⟨call⟩, 0⟩

theorem line_resequenced :
    ∃ turns,
      let system := serve lining (fun _ _ => resequencing)
          (fun call => .handle (lined call)) (oneByOne turns [0, 1, 2, 3])
      ((system.replies ⟨"line"⟩).map fun reply => reply.2.sequenceNumber) =
        [1, 2, 3] ∧
        system.offers ⟨"line"⟩ = [(⟨0, "discard"⟩, lined 1)] ∧
        system.store.get? ⟨"line"⟩ = none := by
  have resequences : Resequences lining (fun _ _ => resequencing) ⟨1, "out"⟩ :=
    { output := rfl
      works := fun _ _ => rfl
      judges := fun _ _ => rfl
      processes := fun _ _ _ => rfl
      delivers := fun _ _ _ _ => rfl }
  have few :
      ∀ call, lining.correlation (lined call) = some ⟨"line"⟩ → call < 4 := by
    intro call correlated
    by_contra beyond
    have plain : (Message.ofPayload .null ⟨⟨call⟩, 0⟩).sequenceSize = 0 := rfl
    simp [lined, beyond, lining, plain] at correlated
  have isStream : IsStream lining.correlation ⟨"line"⟩ 3 lined :=
    { placed := by
        intro call correlated
        have placed : ∀ call < 4, 1 ≤ (lined call).sequenceNumber ∧
            (lined call).sequenceNumber ≤ 3 ∧
            (lined call).sequenceSize = 3 := by
          decide
        obtain ⟨positive, within, sized⟩ := placed call (few call correlated)
        exact ⟨positive, within, sized⟩
      distinct := by
        intro left right leftKey rightKey
        have distinct :
            ∀ left < 4, ∀ right < 4, (lined left).id = (lined right).id →
              left = right := by
          decide
        exact distinct left (few left leftKey) right (few right rightKey) }
  obtain ⟨⟨turns, finished⟩, serially⟩ :=
    (stream_resequenced resequences isStream).2 [0, 1, 2, 3] (by decide)
  have missing : ¬ Covers 3 [2, 2, 1] := fun covers =>
    absurd (covers 3 (by decide) (by decide)) (by decide)
  have all : Covers 3 [2, 2, 1, 3] := by
    intro number positive within
    simp only [List.mem_cons, List.not_mem_nil, or_false]
    omega
  have resequenced := serially turns finished missing
  exact ⟨turns, (resequenced.complete all).1, resequenced.offered,
    (resequenced.complete all).2⟩

end Collate.Interleaving
