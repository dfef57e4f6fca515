import Collate.Proofs.Handler.Agreement
import Collate.Proofs.Handler.Flow
import Collate.Proofs.Handler.Linearization
import Collate.Proofs.Handler.Stream
import Collate.Proofs.Interleaving.Drain
import Collate.Proofs.Release.Batches

namespace Collate.Interleaving

open Discipline Release

/-- Surroundings in which groups are released when some number of messages
waits, and the discard channel takes what it is given. -/
structure Counts (handler : Handler) (environment : Environment)
    (threshold : Nat) : Prop where
  works : ∀ call turn, (environment call turn).fault = none
  judges : ∀ call turn, (environment call turn).judge = Release.count threshold
  discards : ∀ call turn message,
    (environment call turn).deliver handler.discardChannel message = .ok ()

/-- The calls up to a count, and no others, bring messages of a key. An identity
is that of one message only, which several of the calls may bring. -/
structure Brings (correlation : Correlation) (key : Key) (count : Nat)
    (message : Nat → Message) : Prop where
  mine : ∀ call, correlation (message call) = some key ↔ call < count
  identified :
    ∀ left < count, ∀ right < count, (message left).id = (message right).id →
      message left = message right

def Differ {β : Type} (trait : Message → β) (count : Nat)
    (message : Nat → Message) : Prop :=
  ∀ left < count,
    ∀ right < count, trait (message left) = trait (message right) → left = right

instance {β : Type} [DecidableEq β] (trait : Message → β) (count : Nat)
    (message : Nat → Message) : Decidable (Differ trait count message) :=
  inferInstanceAs (Decidable (∀ left < count, ∀ right < count,
    trait (message left) = trait (message right) → left = right))

def Event.admitted? (event : Event) : Option Message :=
  match event.act with
  | .answered (.add _ message) (.ok _) => some message
  | _ => none

def System.admitted (system : System) (key : Key) : List Message :=
  (system.under key).filterMap Event.admitted?

def System.buffered (system : System) (key : Key) : List Message :=
  (system.store.get? key).elim [] Group.members

structure Tally where
  stored : Option Group
  admitted : List Message
  /-- The unmarked members of each group that was given to the processor. -/
  processed : List (List Message)
  discarded : List Message

def Tally.start : Tally :=
  { stored := none, admitted := [], processed := [], discarded := [] }

namespace View

def tally (view : View) (channel : Channel) : Tally where
  stored := view.stored
  admitted := view.events.filterMap Event.admitted?
  processed := (view.events.filterMap Event.processed?).map Group.unmarked
  discarded := view.events.filterMap (Event.discarded? channel)

variable {view : View} {channel : Channel} {call : Nat} {key : Key}

theorem tally_enter :
    (view.enter call key).tally channel = view.tally channel := by
  simp [tally, enter, Event.admitted?, Event.processed?, Event.discarded?]

theorem tally_leave (result : Option Result) :
    (view.leave call key result).tally channel = view.tally channel := by
  simp [tally, leave, Event.admitted?, Event.processed?, Event.discarded?]

end View

inductive Tally.Takes (threshold : Nat) (key : Key) (message : Message)
    (tally : Tally) : Tally → Prop where
  | takes {group : Group} {generation : Nat} {time : Int}
      {stored : Option Group} {processed : List Group}
      {discarded : List Message}
      (sum : group =
        (tally.stored.getD (.empty key generation time)).add message time)
      (turns : TurnsInto (Release.count threshold group) group
        stored processed discarded) :
      Tally.Takes threshold key message tally
        { stored
          admitted := tally.admitted ++ [message]
          processed := tally.processed ++ processed.map Group.unmarked
          discarded := tally.discarded ++ discarded }

section Visits

variable {discipline : Discipline} {handler : Handler}
  {environment : Environment} {call ticket threshold : Nat} {key : Key}
  {message : Message} {visit before after : Visit}

theorem Discipline.Ensures.unobserved {α β : Type}
    {kind : Engine.Request → Prop}
    {observe : Event → Option β} {program : Call α} {post : α → Visit → Prop}
    (ensures : discipline.Ensures call key ticket program visit post)
    (asks : Asks kind program)
    (hidden : ∀ request answer, kind request →
      observe ⟨call, some key, .answered request answer⟩ = none) :
    discipline.Ensures call key ticket program visit fun value after =>
      post value after ∧
        after.view.events.filterMap observe =
          visit.view.events.filterMap observe := by
  induction program generalizing visit with
  | done value => exact ⟨ensures, rfl⟩
  | ask request next induction =>
      obtain ⟨isAbout, allowed, going⟩ := ensures
      refine ⟨isAbout, allowed,
        fun refusal mayRefuse middle answer responded => ?_⟩
      refine (induction answer (going refusal mayRefuse middle answer responded)
        (asks.2 answer)).imp
        fun value last ⟨holds, same⟩ => ⟨holds, same.trans ?_⟩
      obtain ⟨grows, -, -⟩ := grows_respond responded
      rw [grows.events, List.filterMap_append, List.filterMap_cons_none
        (hidden request answer asks.1), List.filterMap_nil, List.append_nil]

theorem admitted?_of_addsNothing (request : Engine.Request)
    (answer : request.Answer) (nothing : AddsNothing request) :
    Event.admitted? ⟨call, some key, .answered request answer⟩ = none := by
  cases request <;> first | rfl | exact nothing.elim

theorem tally_of_deed {processed : List Group} {discarded : List Message}
    (takes : discipline.Discards handler)
    (deed : Deed discipline handler call key before after
      processed discarded false)
    (same : after.view.events.filterMap Event.admitted? =
      before.view.events.filterMap Event.admitted?) :
    after.view.tally handler.discardChannel =
      { stored := after.view.stored
        admitted := (before.view.tally handler.discardChannel).admitted
        processed := (before.view.tally handler.discardChannel).processed ++
          processed.map Group.unmarked
        discarded := (before.view.tally handler.discardChannel).discarded ++
          discarded } := by
  obtain ⟨new, grows, rfl, discards, -⟩ := deed
  rw [View.tally, same, grows.events]
  simp only [View.tally, List.filterMap_append, List.map_append, discards takes]

theorem tally_eq_of_deed (takes : discipline.Discards handler)
    (deed : Deed discipline handler call key before after [] [] false)
    (stored : after.view.stored = before.view.stored)
    (same : after.view.events.filterMap Event.admitted? =
      before.view.events.filterMap Event.admitted?) :
    after.view.tally handler.discardChannel =
      before.view.tally handler.discardChannel := by
  rw [tally_of_deed takes deed same, stored, List.map_nil, List.append_nil,
    List.append_nil]
  rfl

variable (counts : Counts handler environment threshold)

include counts

theorem serves_unconstrained (key : Key) :
    (unconstrained environment).Serves handler key where
  works := counts.works
  allows := fun _ _ _ => trivial

theorem discards_unconstrained : (unconstrained environment).Discards handler :=
  counts.discards

theorem ensures_shelve (message : Message) :
    (unconstrained environment).Ensures call key ticket
      (Call.ask (.add key message)) visit
      fun answer after => ∃ group generation time,
        group = (visit.view.stored.getD (.empty key generation time)).add
          message time ∧
        answer = .ok group ∧ after.view.stored = some group ∧
        after.view.tally handler.discardChannel =
          { visit.view.tally handler.discardChannel with
            stored := some group
            admitted := (visit.view.tally handler.discardChannel).admitted ++
              [message] } := by
  refine ⟨rfl, trivial, fun refusal mayRefuse after answer responded => ?_⟩
  obtain rfl := mayRefuse.eq_none
  obtain ⟨grows, stored, answered⟩ := grows_respond responded
  have works := counts.works
  simp only [Circumstances.shelve, unconstrained, works, Option.none_or]
    at stored answered
  subst answered
  refine ⟨_, _, _, rfl, rfl, stored, ?_⟩
  simp only [View.tally, stored, grows.events, List.filterMap_append]
  simp [Event.admitted?, Event.processed?, Event.discarded?]

theorem ensures_enroll_tally
    (correlated : handler.correlation message = some key)
    (kept : Kept handler key visit.view.stored) :
    (unconstrained environment).Ensures call key ticket (handler.enroll ticket
      key message) visit fun _ after => Kept handler key after.view.stored ∧
        Tally.Takes threshold key
          message (visit.view.tally handler.discardChannel)
        (after.view.tally handler.discardChannel) := by
  have serves := serves_unconstrained counts key
  rw [Handler.enroll_eq]
  refine (ensures_shelve counts message).next fun answer added ⟨group,
    generation, time, sum, answered, addedStored, addedTally⟩ => ?_
  subst answered
  have belongs : Belongs handler key group := by
    rw [sum]
    exact (kept.getD_empty generation time).add correlated time
  have settles : Asks AddsNothing (handler.settle ticket key message group) :=
    (asks_settle handler ticket key message group).mono
      addsNothing_of_isSettling
  refine ((serves.ensures_settle belongs addedStored).unobserved settles
    admitted?_of_addsNothing).imp
    fun _ after ⟨⟨turn, processed, discarded, turns, deed⟩, same⟩ => ?_
  have judged :
    ((unconstrained environment).environment call turn).judge group =
      Release.count threshold group := congrFun (counts.judges call turn) group
  rw [judged] at turns
  refine ⟨turns.kept belongs, ?_⟩
  rw [tally_of_deed (discards_unconstrained counts) deed same, addedTally]
  exact .takes sum turns

theorem ensures_receive_tally
    (correlated : handler.correlation message = some key)
    (kept : Kept handler key visit.view.stored)
    (admits : ∀ generation time,
      (visit.view.stored.getD (.empty key generation time)).canAdd message =
        true) :
    (unconstrained environment).Ensures call key ticket (handler.receive ticket
      key message) visit fun _ after => Kept handler key after.view.stored ∧
        Tally.Takes threshold key
          message (visit.view.tally handler.discardChannel)
        (after.view.tally handler.discardChannel) := by
  have serves := serves_unconstrained counts key
  have takes := discards_unconstrained counts
  have looks : Asks AddsNothing (Call.ask (.load key)) :=
    ⟨trivial, fun _ => trivial⟩
  rw [Handler.receive_eq]
  refine (serves.ensures_load.unobserved looks admitted?_of_addsNothing).next
    fun answer loaded ⟨⟨deed, stored, generation, time, answered⟩, same⟩ => ?_
  subst answered
  have unmoved := tally_eq_of_deed takes deed stored same
  unfold Handler.place
  simp only [admits generation time, if_true]
  split
  · have retains : Asks AddsNothing (Call.ask (.retain ticket)) :=
      ⟨trivial, fun _ => trivial⟩
    have quiet : IsQuiet ticket (.retain ticket) := rfl
    refine ((serves.ensures_quiet quiet).unobserved
      retains admitted?_of_addsNothing).next
      fun _ retained ⟨⟨retainDeed, retainStored⟩, retainSame⟩ => ?_
    rw [← unmoved, ← tally_eq_of_deed takes retainDeed retainStored retainSame]
    exact ensures_enroll_tally counts correlated (by rwa [retainStored, stored])
  · rw [← unmoved]
    exact ensures_enroll_tally counts correlated (by rwa [stored])

end Visits

structure Lasts (threshold : Nat) (key : Key) (count : Nat)
    (message : Nat → Message) (holds : List Message → Tally → Prop) : Prop where
  start : holds [] .start
  admits : ∀ visitors call tally, (visitors ++ [call]).Nodup →
    (∀ other ∈ visitors ++ [call], other < count) →
    holds (visitors.map message) tally →
    ∀ generation time,
      (tally.stored.getD (.empty key generation time)).canAdd
        (message call) = true
  step : ∀ visitors call tally after, (visitors ++ [call]).Nodup →
    (∀ other ∈ visitors ++ [call], other < count) →
    holds (visitors.map message) tally →
    Tally.Takes threshold key (message call) tally after →
    holds (visitors.map message ++ [message call]) after

section Replay

variable {handler : Handler} {environment : Environment} {threshold count : Nat}
  {key : Key} {message : Nat → Message} {holds : List Message → Tally → Prop}
  {visitors : List Nat} {view : View}

theorem Lasts.of_replayed (counts : Counts handler environment threshold)
    (brings : Brings handler.correlation key count message)
    (lasts : Lasts threshold key count message holds)
    (replayed : Replayed environment (fun call ticket => (Errand.handle
      (message call)).course handler key ticket) key visitors view)
    (once : visitors.Nodup) (bounded : ∀ call ∈ visitors, call < count) :
    Kept handler key view.stored ∧
    holds (visitors.map message) (view.tally handler.discardChannel) := by
  induction replayed with
  | start => exact ⟨kept_none, lasts.start⟩
  | @visit visitors view replayed call ticket induction =>
      obtain ⟨kept, before⟩ :=
        induction (List.nodup_append.mp once).1 fun other member =>
          bounded other (List.mem_append_left _ member)
      have correlated : handler.correlation (message call) = some key :=
        (brings.mine call).mpr
          (bounded call (List.mem_append_right _ (List.mem_singleton_self _)))
      have arrived : (view.arrive call key).view.tally handler.discardChannel =
          view.tally handler.discardChannel := View.tally_enter
      have course : (unconstrained environment).Ensures call key ticket
            ((Errand.handle (message call)).course handler key ticket)
            (view.arrive call key)
            fun _ after => Kept handler key after.view.stored ∧
              Tally.Takes threshold
                key (message call) (view.tally handler.discardChannel)
              (after.view.tally handler.discardChannel) := by
        rw [← arrived]
        exact Ensures.next (ensures_receive_tally counts correlated kept
          (lasts.admits visitors call _ once bounded before))
          fun _ _ holds => holds
      obtain ⟨keptStill, takes⟩ := course.of_stay
      refine ⟨keptStill, ?_⟩
      rw [View.visited, View.tally_leave, List.map_append]
      exact lasts.step visitors call _ _ once bounded before takes

end Replay

/-- Full batches of messages outside sequences have been processed, and the
others wait. -/
structure Piles (key : Key) (threshold : Nat) (messages : List Message)
    (tally : Tally) : Prop where
  admitted : tally.admitted = messages
  processed : tally.processed = batches threshold messages
  discarded : tally.discarded = []
  waits : ∀ generation time, Buffers key (remainder threshold messages) 0
    (tally.stored.getD (.empty key generation time))

/-- Messages of a sequence have come: full batches have been processed, and the
others wait as long as messages are missing, and have been discarded when all
are here. -/
structure Fills (key : Key) (threshold count : Nat) (messages : List Message)
    (tally : Tally) : Prop where
  admitted : tally.admitted = messages
  processed : tally.processed = batches threshold messages
  waits : messages.length < count → tally.discarded = [] ∧ ∀ generation time,
    Buffers key messages (threshold * (messages.length / threshold))
      (tally.stored.getD (.empty key generation time))
  gone : messages.length = count →
    tally.stored = none ∧ tally.discarded = remainder threshold messages

section Steps

variable {handler : Handler} {key : Key} {threshold count : Nat}
  {messages : List Message} {message : Message} {group : Group}
  {tally after : Tally}

theorem length_remainder_lt (positive : 0 < threshold)
    (messages : List Message) :
    (remainder threshold messages).length < threshold := by
  rw [length_remainder]
  exact Nat.mod_lt _ positive

section Verdict

variable (unmarked : group.unmarked = remainder threshold messages ++ [message])

include unmarked

theorem full_of_ready (positive : 0 < threshold)
    (ready : Release.count threshold group = true) :
    (remainder threshold messages).length + 1 = threshold := by
  have enough : threshold ≤ group.unmarked.length := of_decide_eq_true ready
  rw [unmarked, List.length_append, List.length_singleton] at enough
  exact Nat.le_antisymm (length_remainder_lt positive messages) enough

theorem partial_of_unready (unready : Release.count threshold group = false) :
    (remainder threshold messages).length + 1 < threshold := by
  have few : ¬ threshold ≤ group.unmarked.length := of_decide_eq_false unready
  rw [unmarked, List.length_append, List.length_singleton] at few
  exact Nat.lt_of_not_le few

end Verdict

theorem Piles.canAdd (piles : Piles key threshold messages tally)
    (unnumbered : message.sequenceNumber = 0)
    (unknown : ∀ other ∈ messages, other.id ≠ message.id)
    (generation : Nat) (time : Int) :
    (tally.stored.getD (.empty key generation time)).canAdd message = true := by
  have absent :
    ((tally.stored.getD (.empty key generation time)).members.any fun member =>
      member.id = message.id) = false := by
    rw [(piles.waits generation time).members, List.any_eq_false]
    intro other member same
    exact unknown other (List.mem_of_mem_drop member) (of_decide_eq_true same)
  simp [Group.canAdd, absent, unnumbered]

theorem sequenceSize_eq_zero
    (unsized : ∀ member ∈ group.members, member.sequenceSize = 0) :
    group.sequenceSize = 0 := by
  unfold Group.sequenceSize Group.first?
  cases members : group.members with
  | nil => rfl
  | cons first rest =>
      exact unsized first (by rw [members]; exact List.mem_cons_self)

theorem Piles.takes (piles : Piles key threshold messages tally)
    (positive : 0 < threshold)
    (unsized : ∀ other ∈ messages ++ [message], other.sequenceSize = 0)
    (takes : Tally.Takes threshold key message tally after) :
    Piles key threshold (messages ++ [message]) after := by
  obtain @⟨group, generation, time, stored, processed, discarded, sum, turns⟩ :=
    takes
  have buffers :
      Buffers key (remainder threshold messages ++ [message]) 0 group := by
    rw [sum]
    exact (piles.waits generation time).add message time
  have size : group.sequenceSize = 0 := by
    refine sequenceSize_eq_zero fun member isMember => unsized member ?_
    rw [buffers.members] at isMember
    exact ((List.drop_sublist _ messages).append_right [message]).subset
      isMember
  have incomplete : group.isComplete = false := by simp [Group.isComplete, size]
  cases turns with
  | released ready time =>
      have full := full_of_ready buffers.unmarked positive ready
      have removed : leftBehind group time (some group) = none :=
        if_pos (by simp [size])
      constructor
      · rw [piles.admitted]
      · rw [batches_concat_of_full full, ← buffers.members, piles.processed]
        exact congrArg (_ ++ [·]) (buffers.unmarked.trans buffers.members.symm)
      · rw [piles.discarded, List.append_nil]
      · rw [removed, remainder_concat_of_full full]
        exact fun _ _ => ⟨rfl, rfl, rfl⟩
  | refused unready complete => exact absurd complete (by simp [incomplete])
  | waits unready _ =>
      have partly := partial_of_unready buffers.unmarked unready
      constructor
      · rw [piles.admitted]
      · rw [batches_concat_of_partial partly, List.map_nil, List.append_nil,
          piles.processed]
      · rw [piles.discarded, List.append_nil]
      · rw [remainder_concat_of_partial partly]
        exact fun _ _ => buffers

theorem Fills.takes (fills : Fills key threshold count messages tally)
    (positive : 0 < threshold) (missing : messages.length < count)
    (placed : ∀ other ∈ messages ++ [message], IsPlaced count other)
    (takes : Tally.Takes threshold key message tally after) :
    Fills key threshold count (messages ++ [message]) after := by
  obtain @⟨group, generation, time, stored, processed, discarded, sum, turns⟩ :=
    takes
  obtain ⟨undiscarded, waits⟩ := fills.waits missing
  have buffers : Buffers key (messages ++ [message])
      (threshold * (messages.length / threshold)) group := by
    rw [sum]
    exact (waits generation time).add message time
  have unmarked : group.unmarked = remainder threshold messages ++ [message] :=
    buffers.unmarked.trans (drop_concat threshold messages message)
  have nonempty : messages ++ [message] ≠ [] := by simp
  have complete := buffers.isComplete placed nonempty
  have sized : group.sequenceSize ≠ 0 := by
    rw [buffers.sequenceSize placed nonempty]
    exact Nat.ne_of_gt (Nat.zero_lt_of_lt missing)
  -- Until the last message comes the group stays, with the full batches marked.
  -- The last one either fills a batch, and the group is removed as a complete
  -- one, or does not, and the rest is refused.
  cases turns with
  | released ready time =>
      have full := full_of_ready unmarked positive ready
      constructor
      · rw [fills.admitted]
      · rw [batches_concat_of_full full, fills.processed,
          List.map_singleton, unmarked]
      · intro stillMissing
        have incomplete : group.isComplete = false :=
          complete.trans (decide_eq_false (Nat.not_le.mpr stillMissing))
        have goesOn :
            leftBehind group time (some group) = some (group.markAll time) :=
          if_neg (by simp [incomplete, sized])
        rw [undiscarded, goesOn, mul_div_concat_of_full full]
        exact ⟨rfl, fun _ _ => buffers.markAll time⟩
      · intro all
        have isComplete : group.isComplete = true :=
          complete.trans (decide_eq_true (Nat.le_of_eq all.symm))
        have removed : leftBehind group time (some group) = none :=
          if_pos (by simp [isComplete])
        rw [undiscarded, removed, remainder_concat_of_full full]
        exact ⟨rfl, rfl⟩
  | refused unready isComplete =>
      have partly := partial_of_unready unmarked unready
      constructor
      · rw [fills.admitted]
      · rw [batches_concat_of_partial partly, List.map_nil, List.append_nil,
          fills.processed]
      · intro stillMissing
        rw [complete, decide_eq_true_eq] at isComplete
        exact absurd stillMissing (Nat.not_lt.mpr isComplete)
      · intro _
        rw [undiscarded, remainder_concat_of_partial partly, unmarked]
        exact ⟨rfl, rfl⟩
  | waits unready incomplete =>
      have partly := partial_of_unready unmarked unready
      constructor
      · rw [fills.admitted]
      · rw [batches_concat_of_partial partly, List.map_nil, List.append_nil,
          fills.processed]
      · intro _
        rw [undiscarded, div_concat_of_partial partly]
        exact ⟨rfl, fun _ _ => buffers⟩
      · intro all
        rw [complete, decide_eq_false_iff_not] at incomplete
        exact absurd (Nat.le_of_eq all.symm) incomplete

end Steps

section Courses

variable {correlation : Correlation} {key : Key} {threshold count : Nat}
  {message : Nat → Message}

theorem Differ.not_mem {β : Type} {trait : Message → β}
    (differ : Differ trait count message) {visitors : List Nat}
    {call : Nat} (once : (visitors ++ [call]).Nodup)
    (bounded : ∀ other ∈ visitors ++ [call], other < count) :
    trait (message call) ∉ (visitors.map message).map trait := by
  rw [List.map_map]
  intro known
  obtain ⟨visitor, isVisitor, same⟩ := List.mem_map.mp known
  have equal :=
    differ visitor (bounded visitor (List.mem_append_left _ isVisitor)) call
      (bounded call (by simp)) same
  exact (List.nodup_append.mp once).2.2 visitor isVisitor call (by simp) equal

theorem Differ.ne {β : Type} {trait : Message → β}
    (differ : Differ trait count message) {visitors : List Nat}
    {call : Nat} (once : (visitors ++ [call]).Nodup)
    (bounded : ∀ other ∈ visitors ++ [call], other < count) :
    ∀ other ∈ visitors.map message, trait other ≠ trait (message call) :=
  fun _ member same =>
    differ.not_mem once bounded (same ▸ List.mem_map_of_mem member)

theorem Brings.differ {β : Type} {trait : Message → β}
    (brings : Brings correlation key count message)
    (differ : Differ trait count message) : Differ Message.id count message :=
  fun left leftWithin right rightWithin same =>
    differ left leftWithin right rightWithin (congrArg trait
      (brings.identified left leftWithin right rightWithin same))

theorem lasts_piles (positive : 0 < threshold)
    (distinct : Differ Message.id count message)
    (loose : ∀ call < count,
      (message call).sequenceNumber = 0 ∧ (message call).sequenceSize = 0) :
    Lasts threshold key count message (Piles key threshold) where
  start :=
    { admitted := rfl
      processed := (batches_nil threshold).symm
      discarded := rfl
      waits := fun _ _ => ⟨rfl, (remainder_nil threshold).symm, rfl⟩ }
  admits := by
    intro visitors call tally once bounded piles
    exact piles.canAdd (loose call (bounded call (by simp))).1
      (distinct.ne once bounded)
  step := by
    intro visitors call tally after once bounded piles takes
    refine piles.takes positive (fun other member => ?_) takes
    rw [← List.map_singleton, ← List.map_append] at member
    obtain ⟨visitor, isVisitor, rfl⟩ := List.mem_map.mp member
    exact (loose visitor (bounded visitor isVisitor)).2

theorem lasts_fills (positive : 0 < threshold)
    (distinct : Differ Message.id count message)
    (placed : ∀ call < count, IsPlaced count (message call))
    (numbered : Differ Message.sequenceNumber count message) :
    Lasts threshold key count message (Fills key threshold count) := by
  have allPlaced : ∀ visitors : List Nat, (∀ other ∈ visitors, other < count) →
      ∀ other ∈ visitors.map message, IsPlaced count other := by
    intro visitors bounded other member
    obtain ⟨visitor, isVisitor, rfl⟩ := List.mem_map.mp member
    exact placed visitor (bounded visitor isVisitor)
  have missing : ∀ (visitors : List Nat) call, (visitors ++ [call]).Nodup →
      (∀ other ∈ visitors ++ [call], other < count) →
      (visitors.map message).length < count := by
    intro visitors call once bounded
    have fits := (List.subperm_of_subset once fun other member =>
      List.mem_range.mpr (bounded other member)).length_le
    rw [List.length_append, List.length_singleton, List.length_range] at fits
    rwa [List.length_map]
  constructor
  · exact
      { admitted := rfl
        processed := (batches_nil threshold).symm
        waits := fun _ =>
          ⟨rfl, fun _ _ => ⟨rfl, rfl, by simp [Tally.start, Group.empty]⟩⟩
        gone := fun _ => ⟨rfl, (remainder_nil threshold).symm⟩ }
  · intro visitors call tally once bounded fills generation time
    obtain ⟨-, waits⟩ := fills.waits (missing visitors call once bounded)
    exact (waits generation time).canAdd_of_fresh
      (allPlaced visitors fun other member =>
        bounded other (List.mem_append_left _ member))
          (placed call (bounded call (by simp)))
        (distinct.ne once bounded) (numbered.not_mem once bounded)
  · intro visitors call tally after once bounded fills takes
    refine fills.takes positive (missing visitors call once bounded) ?_ takes
    rw [← List.map_singleton, ← List.map_append]
    exact allPlaced (visitors ++ [call]) bounded

end Courses

section Finished

variable {handler : Handler} {environment : Environment} {key : Key}
  {count : Nat} {message : Nat → Message} {system : System}
  (coherent : Coherent
    (serializing handler environment fun call => .handle (message call)) system)
  (brings : Brings handler.correlation key count message)
  (finished : ∀ call < count, (system.result? call).isSome)

include coherent brings finished

theorem perm_visitors :
    ((system.under key).filterMap Event.entrant?).Perm (List.range count) := by
  rw [← lockOrder_filter_key coherent]
  have entered : ∀ call < count,
      (system.lockOrder.filter fun other => other = call) = [call] := by
    intro call within
    have keyed :
        isKeyed handler (fun call => .handle (message call)) call = true := by
      simp [isKeyed, Errand.key?, (brings.mine call).mpr within]
    rw [lockOrder_filter_call, entrants_own coherent (finished call within),
      if_pos keyed]
  refine (List.perm_ext_iff_of_nodup ?_ List.nodup_range).mpr fun call => ?_
  · refine List.nodup_iff_count_le_one.mpr fun call => ?_
    by_cases within : call < count
    · refine Nat.le_trans (List.filter_sublist.count_le call) ?_
      rw [List.count_eq_length_filter]
      exact Nat.le_of_eq (congrArg List.length (entered call within))
    · refine Nat.le_trans (Nat.le_of_eq
        (List.count_eq_zero_of_not_mem fun member => ?_)) zero_le_one
      exact within ((brings.mine call).mp
        (of_decide_eq_true (List.mem_filter.mp member).2))
  · rw [List.mem_range, ← brings.mine call]
    constructor
    · exact fun member => of_decide_eq_true (List.mem_filter.mp member).2
    · intro correlated
      have only := entered call ((brings.mine call).mp correlated)
      have member :=
        List.mem_of_mem_filter (only ▸ List.mem_singleton_self call)
      exact List.mem_filter.mpr ⟨member, decide_eq_true correlated⟩

theorem unclaimed_of_finished (ticket : Nat) (stage : Claim.Stage) :
    ¬ system.locks.Stands ticket key stage := by
  intro stands
  obtain ⟨call, enters, found⟩ := coherent.enters_of_stands stands
  obtain ⟨result, come⟩ :=
    Option.isSome_iff_exists.mp (finished call ((brings.mine call).mp enters))
  rw [System.phase_of_result? come] at found
  simp [Phase.ticket?] at found

theorem Lasts.of_finished {threshold : Nat}
    {holds : List Message → Tally → Prop}
    (lasts : Lasts threshold key count message holds)
    (counts : Counts handler environment threshold) :
    ∃ order : List Nat, order.Perm (List.range count) ∧
      holds (order.map message)
        ((system.view key).tally handler.discardChannel) := by
  have perm := perm_visitors coherent brings finished
  have free :
      ∀ call ticket rest, system.phase call ≠ .inside key ticket rest := by
    intro call ticket rest inside
    have within := (brings.mine call).mp (coherent.enters_of_inside inside)
    obtain ⟨result, come⟩ := Option.isSome_iff_exists.mp (finished call within)
    rw [System.phase_of_result? come] at inside
    exact absurd inside nofun
  obtain ⟨-, replayed⟩ := coherent.idle_of_outside free
  refine ⟨_, perm, (lasts.of_replayed counts brings replayed ?_ ?_).2⟩
  · exact perm.nodup_iff.mpr List.nodup_range
  · exact fun call member => List.mem_range.mp (perm.subset member)

end Finished

/-- Of the messages that some calls have brought, those that have been admitted
are all of them, and the groups that were given to the processor had the full
batches of them, in order, as unmarked members. -/
structure Batched (key : Key) (threshold count : Nat) (message : Nat → Message)
    (system : System) : Prop where
  admitted : (system.admitted key).Perm ((List.range count).map message)
  times : (system.processings.filter fun group => group.key = key).length =
      count / threshold
  processed : (system.processings.filter fun group => group.key = key).map
      Group.unmarked = batches threshold (system.admitted key)
  rest : (remainder threshold (system.admitted key)).length = count % threshold

section Batched

variable {handler : Handler} {environment : Environment} {key : Key}
  {threshold count : Nat} {message : Nat → Message} {system : System}
  {order : List Nat}

theorem batched_of_tally
    (coherent : Coherent (serializing handler environment fun call =>
      .handle (message call)) system) (perm : order.Perm (List.range count))
    (admitted : ((system.view key).tally handler.discardChannel).admitted =
      order.map message)
    (processed : ((system.view key).tally handler.discardChannel).processed =
      batches threshold (order.map message)) :
    Batched key threshold count message system := by
  have all : system.admitted key = order.map message := admitted
  have length : (system.admitted key).length = count := by
    rw [all, List.length_map, perm.length_eq, List.length_range]
  have unmarked : (system.processings.filter fun group => group.key = key).map
        Group.unmarked = batches threshold (system.admitted key) := by
    rw [coherent.processings_of_key serializing_confines, all]
    exact processed
  refine ⟨all ▸ perm.map message, ?_, unmarked, ?_⟩
  · rw [← List.length_map, unmarked, length_batches, length]
  · rw [length_remainder, length]

theorem unlocked_of_finished {schedule : List Nat}
    (works : ∀ call turn, (environment call turn).fault = none)
    (brings : Brings handler.correlation key count message)
    (finished : ∀ call < count,
      ((serve handler environment
        (fun call => .handle (message call)) schedule).result? call).isSome)
    (gone : (serve handler environment
      (fun call => .handle (message call)) schedule).store.get? key = none) :
    (serve handler environment (fun call => .handle (message call))
      schedule).locks.contains key =
      false := by
  have agrees : Coherent (agreeing 0 environment) (serve handler environment
      (fun call => .handle (message call)) schedule) :=
    coherent_agreeing works schedule
  have free :=
    unclaimed_of_finished (coherent_serve works schedule) brings finished
  rw [agrees.contains_of_unclaimed free, gone]
  rfl

theorem discards_eq_tally (coherent : Coherent (serializing handler environment
      fun call => .handle (message call)) system) :
    ((system.discards handler.discardChannel).filter fun message =>
        handler.correlation message = some key) =
      ((system.view key).tally handler.discardChannel).discarded :=
  coherent.discards_of_key serializing_confines key

end Batched

/-- Messages of a key come in, over an unbounded store, to a handler that
releases by count and whose processor does what it likes. However their calls
and those of other keys interleave, they can all come to their ends, and when
they have, every message has been admitted, and the full batches of them in the
order of their admission have been processed, one after another. The others wait
if the messages are in no sequence. If they are all the messages of a sequence,
the others and no more have been discarded, and nothing is left of the key. -/
theorem batches_exact {handler : Handler} {environment : Environment}
    {key : Key} {threshold count : Nat} {message : Nat → Message}
    (positive : 0 < threshold) (counts : Counts handler environment threshold)
    (brings : Brings handler.correlation key count message)
    (schedule : List Nat) :
    let serving := serve handler environment fun call => .handle (message call)
    (∃ later,
      ∀ call < count, ((serving (schedule ++ later)).result? call).isSome) ∧
    ((∀ call < count, ((serving schedule).result? call).isSome) →
      let system := serving schedule
      let discarded :=
        (system.discards handler.discardChannel).filter fun message =>
          handler.correlation message = some key
      (Differ Message.id count message →
        (∀ call < count, (message call).sequenceNumber = 0 ∧
          (message call).sequenceSize = 0) →
        Batched key threshold count message system ∧ discarded = [] ∧
        system.buffered key = remainder threshold (system.admitted key) ∧
        waiting (system.store.get? key) = system.buffered key) ∧
      ((∀ call < count, IsPlaced count (message call)) →
        Differ Message.sequenceNumber count message →
        Batched key threshold count message system ∧
        discarded = remainder threshold (system.admitted key) ∧
        system.store.get? key = none ∧ system.locks.contains key = false)) := by
  intro serving
  have coherent : ∀ schedule, Coherent (serializing handler environment
      fun call => .handle (message call)) (serving schedule) :=
    coherent_serve counts.works
  refine ⟨?_,
    fun finished => ⟨fun distinct loose => ?_, fun placed numbered => ?_⟩⟩
  · obtain ⟨later, finished⟩ :=
      (coherent schedule).exists_ends (List.range count)
    refine ⟨later, fun call within => ?_⟩
    have continued : serving (schedule ++ later) =
          (serving schedule).run environment later :=
      System.run_append environment _ schedule later
    rw [continued]
    exact finished call (List.mem_range.mpr within)
  · obtain ⟨order, perm, piles⟩ :=
      (lasts_piles positive distinct loose).of_finished (coherent schedule)
        brings finished counts
    have batched :=
      batched_of_tally (coherent schedule) perm piles.admitted piles.processed
    have all : (serving schedule).admitted key = order.map message :=
      piles.admitted
    have buffers : Buffers key (remainder threshold (order.map message)) 0
          (((serving schedule).store.get? key).getD (.empty key 0 0)) :=
      piles.waits 0 0
    have buffered : (serving schedule).buffered key =
          remainder threshold (order.map message) := by
      rw [← buffers.members, System.buffered]
      cases (serving schedule).store.get? key <;> rfl
    refine ⟨batched, ?_, all ▸ buffered, ?_⟩
    · rw [discards_eq_tally (coherent schedule)]
      exact piles.discarded
    · rw [buffered, ← waiting_getD_empty _ key 0 0]
      exact buffers.unmarked
  · have lasts :
        Lasts threshold key count message (Fills key threshold count) :=
      lasts_fills positive (brings.differ numbered) placed numbered
    obtain ⟨order, perm, fills⟩ :=
      lasts.of_finished (coherent schedule) brings finished counts
    have all : (serving schedule).admitted key = order.map message :=
      fills.admitted
    have length : (order.map message).length = count := by
      rw [List.length_map, perm.length_eq, List.length_range]
    obtain ⟨gone, discarded⟩ := fills.gone length
    refine
      ⟨batched_of_tally (coherent schedule) perm fills.admitted fills.processed,
        ?_, gone, unlocked_of_finished counts.works brings finished gone⟩
    rw [discards_eq_tally (coherent schedule), all]
    exact discarded

/-! Three messages, outside sequences or in one, in batches of two that cannot
be processed. -/

def trio (inSequence : Bool) (call : Nat) : Message :=
  let draft := (Draft.ofPayload .null).correlationId (.text "trio")
  if call < 3 then (if inSequence then draft.sequence (call + 1) 3
    else draft).build ⟨⟨call⟩, 0⟩
  else .ofPayload .null ⟨⟨call⟩, 0⟩

def trios (inSequence : Bool) : System :=
  serve { gatherer with correlation := Correlation.standard }
    (fun _ _ => { faltering with judge := Release.count 2 })
    (fun call => .handle (trio inSequence call)) ([2, 1, 0] ++
      List.replicate 7 2 ++ List.replicate 12 1 ++ List.replicate 13 0)

theorem trios_batched :
    (((trios false).processings.filter fun group => group.key = ⟨"trio"⟩).map
      Group.unmarked = [[trio false 2, trio false 1]] ∧
      (trios false).buffered ⟨"trio"⟩ = [trio false 0]) ∧
    ((trios true).processings.filter fun group => group.key = ⟨"trio"⟩).map
      Group.unmarked = [[trio true 2, trio true 1]] ∧
    ((trios true).discards ⟨0, "discard"⟩).filter (fun message =>
      Correlation.standard message = some ⟨"trio"⟩) = [trio true 0] ∧
    (trios true).store.get? ⟨"trio"⟩ = none := by
  have brings : ∀ inSequence,
      Brings Correlation.standard ⟨"trio"⟩ 3 (trio inSequence) := by
    intro inSequence
    constructor
    · intro call
      constructor
      · intro correlated
        by_contra beyond
        rw [trio, if_neg beyond] at correlated
        exact absurd correlated nofun
      · intro within
        have mine : ∀ inSequence, ∀ call < 3,
            Correlation.standard (trio inSequence call) = some ⟨"trio"⟩ := by
          decide
        exact mine inSequence call within
    · intro left leftWithin right rightWithin same
      have distinct : ∀ inSequence, Differ Message.id 3 (trio inSequence) := by
        decide
      rw [distinct inSequence left leftWithin right rightWithin same]
  have counts : Counts { gatherer with correlation := Correlation.standard }
      (fun _ _ => { faltering with judge := Release.count 2 }) 2 :=
    { works := fun _ _ => rfl
      judges := fun _ _ => rfl
      discards := fun _ _ _ => rfl }
  have finished :
      ∀ inSequence, ∀ call < 3, ((trios inSequence).result? call).isSome := by
    decide +kernel
  have settled := fun inSequence =>
    (batches_exact (by decide) counts (brings inSequence) _).2
      (finished inSequence)
  have admitted : ∀ inSequence, (trios inSequence).admitted ⟨"trio"⟩ =
      [trio inSequence 2, trio inSequence 1, trio inSequence 0] :=
    fun inSequence =>
      match inSequence with
      | false => rfl
      | true => rfl
  constructor
  · obtain ⟨batched, -, buffered, -⟩ :=
      (settled false).1 (by decide) (by decide)
    exact ⟨batched.processed.trans (congrArg (batches 2) (admitted false)),
      buffered.trans (congrArg (remainder 2) (admitted false))⟩
  · have placed : ∀ call < 3, 1 ≤ (trio true call).sequenceNumber ∧
        (trio true call).sequenceNumber ≤ 3 ∧
        (trio true call).sequenceSize = 3 := by
      decide
    obtain ⟨batched, discarded, gone, -⟩ :=
      (settled true).2 (fun call within => ⟨(placed call within).1,
        (placed call within).2.1, (placed call within).2.2⟩) (by decide)
    exact ⟨batched.processed.trans (congrArg (batches 2) (admitted true)),
      discarded.trans (congrArg (remainder 2) (admitted true)), gone⟩

end Collate.Interleaving
