import Collate.Proofs.Handler.Sequence
import Collate.Proofs.Handler.Sight
import Collate.Proofs.Interleaving.Advance
import Collate.Release
import Mathlib.Data.List.Perm.Subperm

namespace Collate.Interleaving

open Discipline

/-- Surroundings in which groups are released when they are complete, and are
made into one message that the output channel takes. -/
structure Aggregates (handler : Handler) (environment : Environment)
    (channel : Channel) : Prop where
  output : handler.router.output = some channel
  works : ∀ call turn, (environment call turn).fault = none
  judges : ∀ call turn, (environment call turn).judge = Release.sequence false
  processes : ∀ call turn group, ∃ stamp,
    (environment call turn).process group =
      .ok (Processing.aggregate group stamp)
  delivers : ∀ call turn limit message,
    (environment call turn).deliverWithin limit channel message = some (.ok ())

structure Holds (key : Key) (message : Nat → Message) (admitted : List Nat)
    (group : Group) : Prop where
  sameKey : group.key = key
  unreleased : group.markedCount = 0
  members : group.members = admitted.map message

structure Collecting (key : Key) (count : Nat) (message : Nat → Message)
    (sight : Sight) : Prop where
  missing : sight.finished.length < count
  holds : ∀ generation time,
    Holds key message sight.finished
      (sight.stored.getD (.empty key generation time))
  processed : sight.processed = []
  replies : sight.replies = []

/-- All messages of a sequence have come, and one reply has gone out. -/
structure Released (key : Key) (count : Nat) (message : Nat → Message)
    (channel : Channel) (sight : Sight) : Prop where
  all : sight.finished.length = count
  stored : sight.stored = none
  entry : sight.entryStays = false
  processed :
    ∃ group, Holds key message sight.finished group ∧ sight.processed = [group]
  replied : ∃ reply, sight.replies = [(channel, reply)] ∧
    reply.payload =
      .array ((List.range count).map fun index => (message index).payload)

/-- The messages of a sequence that have come have come once each, and wait
until all are here. -/
structure Gathered (key : Key) (count : Nat) (message : Nat → Message)
    (channel : Channel) (sight : Sight) : Prop where
  once : sight.finished.Nodup
  bounded : ∀ call ∈ sight.finished, call < count
  counted : sight.admissions = sight.finished.length
  course : Collecting key count message sight ∨
    Released key count message channel sight

/-- What may be asked under the lock of the key of a sequence: a group is
processed only when all messages have been admitted, and nothing is
discarded. -/
def Gathers (key : Key) (count : Nat) (events : List Event) :
    Engine.Request → Prop
  | .process group => group.key = key ∧ admissions events = count
  | .deliver _ _ => False
  | _ => True

def gathering (handler : Handler) (environment : Environment) (key : Key)
    (count : Nat) (message : Nat → Message) (channel : Channel) :
    Discipline where
  capacity := 0
  environment := environment
  enters call name := name = key → call < count
  allows name events request :=
    if name = key then Gathers key count events request
      else Concerns handler name request
  idle name view :=
    if name = key then Gathered key count message channel view.sight
    else Kept handler name view.stored
  ends call own result := call < count →
    result = .handled (.ok ()) ∧
      ∃ keepsEntry, ⟨call, some key, .left keepsEntry (some result)⟩ ∈ own

section Gathering

variable {handler : Handler} {environment : Environment} {key : Key}
  {count : Nat} {message : Nat → Message} {channel : Channel}
  {call ticket : Nat} {visit : Visit}

theorem gathering_allows {events : List Event} {request : Engine.Request}
    (gathers : Gathers key count events request) :
    (gathering handler environment key count message channel).allows key
      events request := by
  simpa [gathering] using gathers

theorem gathered_start (positive : 0 < count) :
    Gathered key count message channel View.start.sight where
  once := List.nodup_nil
  bounded := by simp [View.sight, View.start]
  counted := rfl
  course := .inl
    { missing := positive
      holds := fun generation time => ⟨rfl, rfl, rfl⟩
      processed := rfl
      replies := rfl }

theorem perm_range_of_nodup {numbers : List Nat} (once : numbers.Nodup)
    (bounded : ∀ number ∈ numbers, number < count)
    (enough : count ≤ numbers.length) : numbers.Perm (List.range count) := by
  have within : numbers.Subperm (List.range count) :=
    List.subperm_of_subset once fun number member =>
      List.mem_range.mpr (bounded number member)
  exact within.perm_of_length_le (by rwa [List.length_range])

theorem Gathered.collecting {sight : Sight}
    (gathered : Gathered key count message channel sight)
    (within : call < count) (fresh : call ∉ sight.finished) :
    Collecting key count message sight := by
  rcases gathered.course with collecting | released
  · exact collecting
  · have perm := perm_range_of_nodup gathered.once gathered.bounded
      (Nat.le_of_eq released.all.symm)
    exact absurd (perm.mem_iff.mpr (List.mem_range.mpr within)) fresh

theorem Gathered.retained {sight : Sight}
    (gathered : Gathered key count message channel sight) :
    Gathered key count message channel { sight with keepsEntry := true } where
  once := gathered.once
  bounded := gathered.bounded
  counted := gathered.counted
  course := gathered.course.imp
    (fun collecting =>
      ⟨collecting.missing, collecting.holds, collecting.processed,
        collecting.replies⟩)
    fun released =>
      ⟨released.all, released.stored, released.entry, released.processed,
        released.replied⟩

variable {group : Group} {admitted : List Nat}

theorem Holds.add (holds : Holds key message admitted group) (call : Nat)
    (time : Int) :
    Holds key message (admitted ++ [call]) (group.add (message call) time) where
  sameKey := holds.sameKey
  unreleased := holds.unreleased
  members := by simp [Group.add, holds.members]

theorem Holds.unmarked (holds : Holds key message admitted group) :
    group.unmarked = admitted.map message := by
  simp [Group.unmarked, holds.unreleased, holds.members]

theorem Gathered.nodup_concat {sight : Sight}
    (gathered : Gathered key count message channel sight)
    (fresh : call ∉ sight.finished) : (sight.finished ++ [call]).Nodup :=
  List.concat_eq_append ▸ gathered.once.concat fresh

theorem Gathered.lt_of_mem_concat {sight : Sight}
    (gathered : Gathered key count message channel sight)
    (within : call < count) : ∀ other ∈ sight.finished ++ [call],
      other < count := by
  intro other member
  rcases List.mem_append.mp member with old | new
  · exact gathered.bounded other old
  · rw [List.mem_singleton.mp new]
    exact within

theorem Gathered.waits {sight : Sight}
    (gathered : Gathered key count message channel sight)
    (within : call < count) (fresh : call ∉ sight.finished)
    (holds : Holds key message (sight.finished ++ [call]) group)
    (missing : (sight.finished ++ [call]).length < count) :
    Gathered key count message channel
      ({ sight with
        stored := some group
        keepsEntry := true
        admissions := sight.admissions + 1 }.leave call) := by
  have collecting := gathered.collecting within fresh
  exact
    { once := gathered.nodup_concat fresh
      bounded := gathered.lt_of_mem_concat within
      counted := by simp [Sight.leave, gathered.counted]
      course := .inl
        { missing := missing
          holds := fun _ _ => holds
          processed := collecting.processed
          replies := collecting.replies } }

theorem Gathered.finishes {sight : Sight} {reply : Message}
    (isSequence : IsSequence handler.correlation key count message)
    (gathered : Gathered key count message channel sight)
    (within : call < count) (fresh : call ∉ sight.finished)
    (holds : Holds key message (sight.finished ++ [call]) group)
    (last : count ≤ (sight.finished ++ [call]).length)
    (payload : reply.payload =
      .array ((Processing.inSequence group).map Message.payload)) :
    Gathered key count message channel
      ({ sight with
        stored := none
        keepsEntry := false
        admissions := sight.admissions + 1
        processed := sight.processed ++ [group]
        replies := sight.replies ++ [(channel, reply)] }.leave call) := by
  have collecting := gathered.collecting within fresh
  have perm := perm_range_of_nodup (gathered.nodup_concat fresh)
    (gathered.lt_of_mem_concat within) last
  have inOrder : reply.payload =
      .array ((List.range count).map fun index => (message index).payload) := by
    rw [payload, isSequence.inSequence holds.unmarked perm, List.map_map]
    rfl
  exact
    { once := gathered.nodup_concat fresh
      bounded := gathered.lt_of_mem_concat within
      counted := by simp [Sight.leave, gathered.counted]
      course := .inr
        { all := perm.length_eq.trans List.length_range
          stored := rfl
          entry := rfl
          processed :=
            ⟨group, holds, by simp [Sight.leave, collecting.processed]⟩
          replied :=
            ⟨reply, by simp [Sight.leave, collecting.replies], inOrder⟩ } }

variable (aggregates : Aggregates handler environment channel)

include aggregates

theorem ensures_dispatch_aggregate (stamp : Stamp)
    (address : Option HeaderValue) :
    (gathering handler environment key count message channel).Ensures
      call key ticket
      (handler.dispatch key (Processing.aggregate group stamp) address) visit
      fun result after => result = .ok () ∧ ∃ reply,
        reply.payload =
          .array ((Processing.inSequence group).map Message.payload) ∧
        after.view.sight =
          { visit.view.sight with
            replies := visit.view.sight.replies ++ [(channel, reply)] } := by
  unfold Handler.dispatch Router.sendReplies Router.destination
  rw [aggregates.output]
  simp only [Program.bind_eq, Program.pure_eq, Program.bind_done,
    Program.bind_assoc, Processing.aggregate, Outcome.ofMessage, Outcome.parts,
    Router.messagesOf, Router.sendAll]
  refine Ensures.next (ensures_ask rfl trivial (gathering_allows trivial)
    (Sight.respond_log ..)) fun _ logged ⟨loggedSight, _⟩ => ?_
  refine Ensures.next (ensures_ask rfl trivial (gathering_allows trivial)
    (Sight.respond_deliverWithin _ _ _ _ (aggregates.delivers _ _ _ _)))
    fun taken sent ⟨sentSight, took⟩ => ?_
  subst took
  simp only [Program.bind_done]
  refine Ensures.next (ensures_ask rfl trivial (gathering_allows trivial)
    (Sight.respond_log ..)) fun _ after ⟨afterSight, _⟩ => ?_
  exact ⟨rfl, _, rfl, by rw [afterSight, sentSight, loggedSight]⟩

theorem ensures_release_sequence (sameKey : group.key = key)
    (isComplete : group.isComplete = true)
    (counted : admissions visit.view.events = count)
    (address : Option HeaderValue) :
    (gathering handler environment key count message channel).Ensures
      call key ticket (handler.release ticket key group address) visit
      fun result after => result = .ok () ∧ ∃ reply,
        reply.payload =
          .array ((Processing.inSequence group).map Message.payload) ∧
        after.view.sight =
          { visit.view.sight with
            stored := none
            keepsEntry := false
            processed := visit.view.sight.processed ++ [group]
            replies := visit.view.sight.replies ++ [(channel, reply)] } := by
  subst sameKey
  unfold Handler.release Handler.cleanUp Handler.removeGroup
  simp only [isComplete, Bool.true_or, if_true, Program.bind_eq,
    Program.pure_eq, Program.bind_assoc]
  refine Ensures.next (ensures_ask rfl trivial (gathering_allows ⟨rfl, counted⟩)
    (Sight.respond_process ..))
    fun outcome processed ⟨processedSight, came⟩ => ?_
  obtain ⟨stamp, made⟩ := aggregates.processes call visit.own.length group
  obtain rfl : outcome = .ok (Processing.aggregate group stamp) :=
    came.trans made
  refine Ensures.next (ensures_ask rfl rfl (gathering_allows trivial)
    (Sight.respond_remove _ _ _ (aggregates.works _ _)))
    fun _ removed ⟨removedSight, gone⟩ => ?_
  subst gone
  simp only [Program.bind_done, Program.bind_assoc]
  refine Ensures.next (ensures_ask rfl rfl (gathering_allows trivial)
    (Sight.respond_retire ..)) fun _ retired ⟨retiredSight, _⟩ => ?_
  refine Ensures.next (ensures_ask rfl trivial (gathering_allows trivial)
    (Sight.respond_log ..)) fun _ logged ⟨loggedSight, _⟩ => ?_
  refine (ensures_dispatch_aggregate aggregates stamp address).imp
    fun result after ⟨sent, reply, payload, afterSight⟩ =>
      ⟨sent, reply, payload, ?_⟩
  rw [afterSight, loggedSight, retiredSight, removedSight, processedSight]

theorem ensures_enroll_sequence
    (isSequence : IsSequence handler.correlation key count message)
    (gathered : Gathered key count message channel visit.view.sight)
    (within : call < count) (fresh : call ∉ visit.view.sight.finished) :
    (gathering handler environment key count message channel).Ensures
      call key ticket (handler.enroll ticket key (message call)) visit
      fun result after => result = .ok () ∧
        Gathered key count message channel (after.view.sight.leave call) := by
  refine Ensures.next (ensures_ask rfl rfl (gathering_allows trivial)
    (Sight.respond_add _ _ _ (aggregates.works _ _) _))
    fun _ added ⟨addedSight, answered⟩ => ?_
  subst answered
  generalize sum : Group.add _ _ _ = group at addedSight ⊢
  have holds :
      Holds key message (visit.view.sight.finished ++ [call]) group := by
    rw [← sum]
    exact ((gathered.collecting within fresh).holds _ _).add call _
  have complete := isSequence.isComplete holds.members
    (gathered.lt_of_mem_concat within) (by simp)
  refine Ensures.next (ensures_ask rfl rfl (gathering_allows trivial)
    (Sight.respond_retain ..)) fun _ retained ⟨retainedSight, _⟩ => ?_
  refine Ensures.next (ensures_ask rfl trivial (gathering_allows trivial)
    (Sight.respond_log ..)) fun _ logged ⟨loggedSight, _⟩ => ?_
  refine Ensures.next (ensures_ask rfl trivial (gathering_allows trivial)
    (Sight.respond_judge ..)) fun isReady judged ⟨judgedSight, verdict⟩ => ?_
  have ready : isReady = group.isComplete := by
    rw [verdict]
    exact (congrFun (aggregates.judges _ _) group).trans
      (by simp [Release.sequence])
  have seen : judged.view.sight =
      { visit.view.sight with
        stored := some group
        keepsEntry := true
        admissions := visit.view.sight.admissions + 1 } := by
    rw [judgedSight, loggedSight, retainedSight, addedSight]
  subst ready
  by_cases last : count ≤ (visit.view.sight.finished ++ [call]).length
  · have isComplete : group.isComplete = true := by simpa [complete] using last
    have perm := perm_range_of_nodup (gathered.nodup_concat fresh)
      (gathered.lt_of_mem_concat within) last
    have allAdmitted : admissions judged.view.events = count := by
      have admitted := congrArg Sight.admissions seen
      refine Eq.trans admitted ?_
      simpa [gathered.counted] using perm.length_eq
    rw [if_pos isComplete]
    refine (ensures_release_sequence aggregates holds.sameKey isComplete
      allAdmitted _).imp
      fun result after ⟨done, reply, payload, afterSight⟩ => ⟨done, ?_⟩
    rw [afterSight, seen]
    exact gathered.finishes isSequence within fresh holds last payload
  · have incomplete : group.isComplete = false := by simpa [complete] using last
    rw [if_neg (by simp [incomplete]), if_neg (by simp [incomplete])]
    refine ⟨rfl, ?_⟩
    rw [seen]
    exact gathered.waits within fresh holds (Nat.lt_of_not_le last)

theorem ensures_receive_sequence
    (isSequence : IsSequence handler.correlation key count message)
    (gathered : Gathered key count message channel visit.view.sight)
    (within : call < count) (fresh : call ∉ visit.view.sight.finished) :
    (gathering handler environment key count message channel).Ensures call key
      ticket (handler.receive ticket key (message call)) visit
      fun result after => result = .ok () ∧
        Gathered key count message channel (after.view.sight.leave call) := by
  refine Ensures.next
    (ensures_load rfl aggregates.works (gathering_allows trivial))
    fun _ loaded ⟨loadedSight, generation, time, answered⟩ => ?_
  subst answered
  have collecting := gathered.collecting within fresh
  have holds := collecting.holds generation time
  have canAdd := isSequence.canAdd holds.members gathered.bounded within fresh
  simp only [canAdd, if_true]
  split
  · refine Ensures.next (ensures_ask rfl rfl (gathering_allows trivial)
      (Sight.respond_retain ..)) fun _ retained ⟨retainedSight, _⟩ => ?_
    rw [loadedSight] at retainedSight
    refine ensures_enroll_sequence aggregates isSequence ?_ within
      (by rwa [retainedSight])
    rw [retainedSight]
    exact gathered.retained
  · exact ensures_enroll_sequence aggregates isSequence (by rwa [loadedSight])
      within (by rwa [loadedSight])

theorem abides_sequence
    (isSequence : IsSequence handler.correlation key count message)
    (within : call < count) :
    (gathering handler environment key count message channel).Abides call
      .outside [] ((Invocation.handle (message call)).program handler) := by
  rw [program_handle_some (isSequence.correlated call within)]
  apply Discipline.abides_locked (fun _ => within)
  intro ticket view idle _ first
  have gathered : Gathered key count message channel view.sight := by
    simpa [gathering] using idle
  have fresh : call ∉ view.sight.finished := by
    intro member
    obtain ⟨event, eventMember, found⟩ := List.mem_filterMap.mp member
    apply List.filter_eq_nil_iff.mp first event eventMember
    exact decide_eq_true (Event.call_of_finisher? found)
  have entered : (view.enter call key).sight = view.sight := View.sight_enter
  refine (ensures_receive_sequence aggregates isSequence (by rwa [entered])
    within (by rwa [entered])).imp
    fun result after ⟨done, left⟩ => ⟨?_, .done fun _ => ⟨?_, ?_⟩⟩
  · simpa [gathering, Interleaving.result?, View.sight_leave] using left
  · rw [done]
  · exact ⟨_, List.mem_append_right _ (List.mem_singleton_self _)⟩

theorem abides_other {other : Message}
    (elsewhere : handler.correlation other ≠ some key) (beyond : count ≤ call) :
    (gathering handler environment key count message channel).Abides call
      .outside [] ((Invocation.handle other).program handler) := by
  cases correlated : handler.correlation other with
  | none =>
      rw [program_handle_none correlated]
      exact Discipline.abides_log
        (.done fun within => absurd within (Nat.not_lt.mpr beyond))
  | some name =>
      have different : name ≠ key :=
        fun same => elsewhere (by rw [correlated, same])
      have serves :
        (gathering handler environment key count message channel).Serves handler
          name :=
        { works := aggregates.works
          allows := fun events request concerns =>
            by simpa [gathering, different] using concerns }
      rw [program_handle_some correlated]
      refine Discipline.abides_locked (fun same => absurd same different)
        fun ticket view idle _ _ => ?_
      have kept : Kept handler name view.stored := by
        simpa [gathering, different] using idle
      refine (serves.ensures_receive correlated kept).imp
        fun result after ⟨_, balances, _⟩ =>
          ⟨?_, .done fun within => absurd within (Nat.not_lt.mpr beyond)⟩
      obtain ⟨_, _, -, keptStill, -⟩ := balances
      simpa [gathering, different, View.leave] using keptStill

omit aggregates

variable {system : System}
  (coherent :
    Coherent (gathering handler environment key count message channel) system)

include coherent

theorem processed_of_key {event : Event} (member : event ∈ system.trace)
    {group : Group} (found : event.processed? = some group) :
    (group.key = key ↔ event.key = some key) ∧
    (group.key = key → count ≤ admissions (system.under key)) := by
  obtain ⟨answer, act⟩ := Event.act_of_processed? found
  obtain ⟨name, earlier, sameKey, isPrefix, allowed⟩ :=
    coherent.allowed_of_answered member act id
  by_cases same : name = key
  · subst same
    have gathers : Gathers name count (earlier.filter
        fun past => past.key = some name) (.process group) := by
      simpa [gathering] using allowed
    obtain ⟨groupKey, admitted⟩ := gathers
    refine ⟨by simp [groupKey, sameKey], fun _ => ?_⟩
    rw [← admitted]
    exact ((isPrefix.filter _).filter _).length_le
  · have concerns : Concerns handler name (.process group) := by
      simpa [gathering, same] using allowed
    have belongs : Belongs handler name group := concerns
    have elsewhere : group.key ≠ key := by rw [belongs.sameKey]; exact same
    simp [elsewhere, sameKey, same]

theorem processings_eq :
    (system.processings.filter fun group => group.key = key) =
      (system.view key).sight.processed := by
  apply filterMap_filter_eq
  intro event member group found
  simp [(processed_of_key coherent member found).1]

omit coherent in
theorem outside_of_finished
    (finished : ∀ call < count, (system.result? call).isSome)
    (within : call < count) : (system.phase call).ticket? = none := by
  obtain ⟨result, come⟩ := Option.isSome_iff_exists.mp (finished call within)
  simp [System.phase_of_result? come, Phase.ticket?]

theorem released_of_finished
    (finished : ∀ call < count, (system.result? call).isSome) :
    Released key count message channel (system.view key).sight ∧
    (system.view key).sight.finished.Perm (List.range count) := by
  have free :
      ∀ call ticket rest, system.phase call ≠ .inside key ticket rest := by
    intro call ticket rest phase
    have none :=
      outside_of_finished finished (coherent.enters_of_inside phase rfl)
    simp [phase, Phase.ticket?] at none
  have gathered :
      Gathered key count message channel (system.view key).sight := by
    simpa [gathering] using coherent.idle_of_outside free
  have subset : List.range count ⊆ (system.view key).sight.finished := by
    intro call member
    have within := List.mem_range.mp member
    obtain ⟨result, come⟩ := Option.isSome_iff_exists.mp (finished call within)
    obtain ⟨-, keepsEntry, left⟩ := coherent.ends_of_result? come within
    refine List.mem_filterMap.mpr
      ⟨_, List.mem_filter.mpr ⟨List.mem_of_mem_filter left, ?_⟩, rfl⟩
    simp
  have enough : count ≤ (system.view key).sight.finished.length := by
    have length := (List.subperm_of_subset List.nodup_range subset).length_le
    rwa [List.length_range] at length
  refine ⟨?_, perm_range_of_nodup gathered.once gathered.bounded enough⟩
  rcases gathered.course with collecting | released
  · exact absurd collecting.missing (Nat.not_lt.mpr enough)
  · exact released

theorem contains_of_finished
    (finished : ∀ call < count, (system.result? call).isSome) :
    system.locks.contains key = false := by
  refine (coherent.entry key fun ticket stage stands => ?_).trans
    (released_of_finished coherent finished).1.entry
  obtain ⟨call, enters, found⟩ := coherent.enters_of_stands stands
  rw [outside_of_finished finished (enters rfl)] at found
  simp at found

end Gathering

/-- The messages of a key are numbered from one and declare their number.
However their calls and those of other keys interleave, no group of the key is
processed before all messages have been admitted, and none of them is discarded.
When all calls are at their ends, all have succeeded, one group with all
messages has been processed, one reply with their payloads in the order of their
numbers has gone out, and nothing is left of the key. -/
theorem sequence_aggregated_once {handler : Handler} {environment : Environment}
    {channel : Channel} {key : Key}
    {count : Nat} {message : Nat → Message} {calls : Nat → Invocation}
    (aggregates : Aggregates handler environment channel) (positive : 0 < count)
    (isSequence : IsSequence handler.correlation key count message)
    (ofSequence : ∀ call < count, calls call = .handle (message call))
    (ofOthers : ∀ call, count ≤ call →
      ∃ other, calls call = .handle other ∧
        handler.correlation other ≠ some key) (schedule : List Nat) :
    let system := (System.start 0 fun call => (calls call).program handler).run
        environment schedule
    (admissions (system.under key) < count →
      (system.processings.filter fun group => group.key = key) = []) ∧
    (∀ event ∈ system.trace, ∀ destination other taken,
      event.act = .answered (.deliver destination other) taken →
      handler.correlation other ≠ some key) ∧
    ((∀ call < count, (system.result? call).isSome) →
      (∀ call < count, system.result? call = some (.handled (.ok ()))) ∧
      (∃ group,
        (system.processings.filter fun group => group.key = key) = [group] ∧
          group.unmarked = group.members ∧
          group.members.Perm ((List.range count).map message)) ∧
      (∃ reply, system.replies key = [(channel, reply)] ∧ reply.payload =
        .array ((List.range count).map fun index => (message index).payload)) ∧
      system.store.get? key = none ∧ system.locks.contains key = false) := by
  intro system
  have coherent : Coherent
        (gathering handler environment key count message channel) system := by
    refine (Coherent.start (fun name => ?_) fun call => ?_).run schedule
    · have kept : Kept handler name View.start.stored := kept_none
      by_cases same : name = key
      · simpa [gathering, same] using gathered_start positive
      · simpa [gathering, same] using kept
    · rcases Nat.lt_or_ge call count with within | beyond
      · rw [ofSequence call within]
        exact abides_sequence aggregates isSequence within
      · obtain ⟨other, invocation, elsewhere⟩ := ofOthers call beyond
        rw [invocation]
        exact abides_other aggregates elsewhere beyond
  refine ⟨fun early => ?_, ?_, fun finished => ?_⟩
  · apply List.filter_eq_nil_iff.mpr
    intro group member same
    obtain ⟨event, eventMember, found⟩ := List.mem_filterMap.mp member
    have enough :=
      (processed_of_key coherent eventMember found).2 (of_decide_eq_true same)
    exact absurd early (Nat.not_lt.mpr enough)
  · intro event member destination other taken act
    obtain ⟨name, earlier, -, -, allowed⟩ :=
      coherent.allowed_of_answered member act id
    by_cases same : name = key
    · simp [gathering, same, Gathers] at allowed
    · have concerns : Concerns handler name (.deliver destination other) := by
        simpa [gathering, same] using allowed
      rw [concerns.2]
      simpa using same
  · obtain ⟨released, perm⟩ := released_of_finished coherent finished
    refine ⟨fun call within => ?_, ?_, released.replied, released.stored,
      contains_of_finished coherent finished⟩
    · obtain ⟨result, come⟩ :=
        Option.isSome_iff_exists.mp (finished call within)
      rw [come, (coherent.ends_of_result? come within).1]
    · obtain ⟨group, holds, processed⟩ := released.processed
      refine ⟨group, (processings_eq coherent).trans processed, ?_, ?_⟩
      · rw [holds.unmarked, holds.members]
      · rw [holds.members]
        exact perm.map message

/-! A sequence of two messages, the second of which comes first. -/

def aggregating : Circumstances where
  generation := 0
  stamp := ⟨⟨9⟩, 0⟩
  time := 0
  fault := none
  judge := Release.sequence false
  process group := .ok (Processing.aggregate group ⟨⟨9⟩, 0⟩)
  resolve name := .error (.unknownChannel name)
  deliver _ _ := .ok ()
  deliverWithin _ _ _ := some (.ok ())
  rank _ := 0

def pairing : Handler where
  correlation message :=
    if message.sequenceSize = 2 then some ⟨"pair"⟩ else none
  router := { Router.standard with output := some ⟨1, "out"⟩ }
  discardChannel := ⟨0, "discard"⟩
  partialOnExpiry := false

def paired (index : Nat) : Message :=
  ((Draft.ofPayload (.bool (index = 0))).sequence (index + 1) 2).build
    ⟨⟨index⟩, 0⟩

def pairs (call : Nat) : Invocation :=
  .handle (if call < 2 then paired call else .ofPayload .null ⟨⟨call⟩, 0⟩)

def secondFirst : List Nat :=
  [1, 0] ++ List.replicate 7 1 ++ [2] ++ List.replicate 16 0

theorem pair_aggregated_once :
    ∃ reply,
      System.replies ((System.start 0 fun call =>
        (pairs call).program pairing).run (fun _ _ => aggregating) secondFirst)
          ⟨"pair"⟩ = [(⟨1, "out"⟩, reply)] ∧
        reply.payload = .array [.bool true, .bool false] := by
  have aggregates : Aggregates pairing (fun _ _ => aggregating) ⟨1, "out"⟩ :=
    { output := rfl
      works := fun _ _ => rfl
      judges := fun _ _ => rfl
      processes := fun _ _ _ => ⟨_, rfl⟩
      delivers := fun _ _ _ _ => rfl }
  have isSequence : IsSequence pairing.correlation ⟨"pair"⟩ 2 paired :=
    { correlated := by decide
      numbered := by decide
      sized := by decide
      distinct := by decide }
  have ofSequence : ∀ call < 2, pairs call = .handle (paired call) :=
    fun call within => by
    simp [pairs, within]
  have ofOthers : ∀ call, 2 ≤ call → ∃ other, pairs call = .handle other ∧
      pairing.correlation other ≠ some ⟨"pair"⟩ := by
    intro call beyond
    have plain : (Message.ofPayload .null ⟨⟨call⟩, 0⟩).sequenceSize = 0 := rfl
    refine ⟨.ofPayload .null ⟨⟨call⟩, 0⟩, ?_, ?_⟩
    · simp [pairs, Nat.not_lt.mpr beyond]
    · simp [pairing, plain]
  have run := sequence_aggregated_once aggregates (by decide) isSequence
      ofSequence ofOthers secondFirst
  obtain ⟨-, -, ⟨reply, sent, payload⟩, -⟩ := run.2.2 fun call within =>
    match call, within with
    | 0, _ => rfl
    | 1, _ => rfl
  exact ⟨reply, sent, payload⟩

end Collate.Interleaving
