import Collate.Proofs.Handler.Attendance
import Collate.Proofs.Handler.Flow
import Collate.Proofs.Interleaving.Rules

namespace Collate.Interleaving

variable {handler : Handler} {invocation : Invocation}
  {call ticket : Nat} {key : Key}

theorem store_answer_of_not_touches {circumstances : Circumstances}
    {store : Store} {request : Engine.Request} (idle : ¬ Touches request) :
    (circumstances.answer store request).1 = store := by
  cases request with
  | load name =>
      simp only [Circumstances.answer, Circumstances.unlessFault]
      cases circumstances.fault <;> rfl
  | add | mark | remove | removeUnchanged | unsubscribe =>
      exact absurd trivial idle
  | _ => rfl

namespace Event

def Touches (event : Event) : Prop :=
  ∃ request answer, event.act = .answered request answer ∧
    Interleaving.Touches request

theorem touches_answered_iff {place : Option Key} {request : Engine.Request}
    {answer : request.Answer} :
    Event.Touches ⟨call, place, .answered request answer⟩ ↔
    Interleaving.Touches request := by
  constructor
  · rintro ⟨asked, told, same, touches⟩
    cases same
    exact touches
  · exact fun touches => ⟨request, answer, rfl, touches⟩

def Fails (event : Event) : Prop :=
  ∃ channel message error,
    event.act = .answered (.deliver channel message) (.error error)

def surveyed (event : Event) : List Group :=
  match event.act with
  | .answered (.survey _) survey => survey.groups
  | _ => []

def asksForLock (event : Event) : Bool :=
  match event.act with
  | .asked _ => true
  | _ => false

def IsInner (event : Event) : Prop :=
  ∃ key ticket request answer, IsAbout key ticket request ∧
    event.act = .answered request answer

def IsSilent (event : Event) : Prop :=
  event.surveyed = [] ∧ event.asksForLock = false

theorem IsInner.isSilent {event : Event} (inner : event.IsInner) :
    event.IsSilent := by
  obtain ⟨key, ticket, request, answer, isAbout, act⟩ := inner
  simp only [IsSilent, surveyed, asksForLock, act, and_true]
  cases request with
  | survey => exact isAbout.elim
  | _ => rfl

end Event

/-- The group that a call is finishing, as it was seen: the one it is given, or
the last of those that a sweep has found and has asked for the lock of. -/
def Invocation.seen? : Invocation → List Event → Option Group
  | .handle _, _ => none
  | .forceComplete seen, _ => some seen
  | .expire _, own =>
      ((own.flatMap Event.surveyed).take
        (own.countP Event.asksForLock)).getLast?

def sinceEntered (own : List Event) : List Event :=
  own.foldl
    (fun since event =>
      match event.act with
      | .entered => []
      | _ => since ++ [event])
    []

structure HasSwept (own : List Event) (done rest : List Group) : Prop where
  found : own.flatMap Event.surveyed = done ++ rest
  asked : own.countP Event.asksForLock = done.length

theorem flatMap_surveyed_append {own events : List Event}
    (silent : ∀ event ∈ events, event.IsSilent) :
    (own ++ events).flatMap Event.surveyed = own.flatMap Event.surveyed := by
  have nothing : events.flatMap Event.surveyed = [] :=
    List.flatMap_eq_nil_iff.mpr fun event member => (silent event member).1
  rw [List.flatMap_append, nothing, List.append_nil]

theorem countP_asksForLock_append {own events : List Event}
    (silent : ∀ event ∈ events, event.IsSilent) :
    (own ++ events).countP Event.asksForLock =
      own.countP Event.asksForLock := by
  have none : events.countP Event.asksForLock = 0 :=
    List.countP_eq_zero.mpr
      fun event member => by simp [(silent event member).2]
  rw [List.countP_append, none, Nat.add_zero]

theorem seen?_append (invocation : Invocation) {own events : List Event}
    (silent : ∀ event ∈ events, event.IsSilent) :
    invocation.seen? (own ++ events) = invocation.seen? own := by
  cases invocation with
  | handle message => rfl
  | forceComplete seen => rfl
  | expire timeout =>
      simp only [Invocation.seen?, flatMap_surveyed_append silent,
        countP_asksForLock_append silent]

namespace HasSwept

variable {own events : List Event} {done rest : List Group} {group : Group}

theorem append (swept : HasSwept own done rest)
    (silent : ∀ event ∈ events, event.IsSilent) :
    HasSwept (own ++ events) done rest where
  found := (flatMap_surveyed_append silent).trans swept.found
  asked := (countP_asksForLock_append silent).trans swept.asked

theorem asks (swept : HasSwept own done (group :: rest)) (call : Nat)
    (key : Key) :
    HasSwept (own ++ [⟨call, none, .asked key⟩]) (done ++ [group]) rest where
  found := by simp [swept.found, Event.surveyed]
  asked := by simp [List.countP_append, swept.asked, Event.asksForLock]

theorem seen? (swept : HasSwept own (done ++ [group]) rest) (timeout : Nat) :
    (Invocation.expire timeout).seen? own = some group := by
  rw [Invocation.seen?, swept.found, swept.asked, List.take_append_of_le_length
    (Nat.le_refl _), List.take_length, List.getLast?_concat]

end HasSwept

theorem sinceEntered_append {own events : List Event}
    (inner : ∀ event ∈ events, event.IsInner) :
    sinceEntered (own ++ events) = sinceEntered own ++ events := by
  unfold sinceEntered
  rw [List.foldl_append]
  generalize List.foldl _ _ own = since
  induction events generalizing since with
  | nil => exact (List.append_nil since).symm
  | cons event rest induction =>
      obtain ⟨name, claimed, request, answer, -, act⟩ :=
        inner event List.mem_cons_self
      rw [List.foldl_cons, act]
      have later := induction (fun other member =>
          inner other (List.mem_cons_of_mem _ member)) (since ++ [event])
      exact later.trans (List.append_assoc _ _ _)

theorem sinceEntered_entered (own : List Event) (call : Nat)
    (place : Option Key) :
    sinceEntered (own ++ [⟨call, place, .entered⟩]) = [] := by
  simp [sinceEntered]

/-- What finishing a group may touch after what has been done under the lock of
its key: the whole group is processed once, and replies are sent only then; or
what waits in the group is offered to the discard channel in order; and the
group is removed after this, or after the discard channel has failed. -/
def Finishes (handler : Handler) (key : Key) (group : Group)
    (since : List Event) : Engine.Request → Prop
  | .process processed =>
      processed = group ∧ since.filterMap Event.processed? = []
  | .deliverWithin _ _ _ => since.filterMap Event.processed? = [group]
  | .deliver channel message =>
      since.filterMap Event.offered? ++ [(channel, message)] <+:
        group.unmarked.map fun message => (handler.discardChannel, message)
  | .remove name =>
      name = key ∧
        (since.filterMap Event.processed? = [group] ∨
          since.filterMap Event.offered? = group.unmarked.map
            (fun message => (handler.discardChannel, message)) ∨
          ∃ event ∈ since, event.Fails)
  | _ => False

/-- What a call must do that finishes groups: it touches only what a group of
the generation that it has seen makes it touch, and leaves no group behind if it
has touched anything. -/
def finishing (handler : Handler) (invocation : Invocation) : Rules where
  asks key tenure request := Touches request →
    ∃ seen group, invocation.seen? tenure.own = some seen ∧ seen.key = key ∧
      tenure.stored = some group ∧ group.generation = seen.generation ∧
      Finishes handler key group (sinceEntered tenure.own) request
  leaves tenure := (∃ event ∈ sinceEntered tenure.own, event.Touches) →
    tenure.stored = none
  ends own result := ∀ seen, invocation = .forceComplete seen →
    (∀ event ∈ own, ¬ event.Touches) → result = .finished (.ok false)

structure Arrives (invocation : Invocation) (key : Key) (seen : Group)
    (own : List Event) : Prop where
  sameKey : seen.key = key
  seen : invocation.seen? own = some seen
  since : sinceEntered own = []

structure Tenure.During (arrived : List Event) (stored : Option Group)
    (since : List Event) (tenure : Tenure) : Prop where
  own : tenure.own = arrived ++ since
  inner : ∀ event ∈ since, event.IsInner
  stored : tenure.stored = stored

def IsIdle (key : Key) (ticket : Nat) (request : Engine.Request) : Prop :=
  IsAbout key ticket request ∧ ¬ Touches request

theorem filterMap_processed?_of_idle {events : List Event}
    (idle : ∀ event ∈ events, ¬ event.Touches) :
    events.filterMap Event.processed? = [] := by
  refine List.filterMap_eq_nil_iff.mpr fun event member => ?_
  cases found : event.processed? with
  | none => rfl
  | some group =>
      obtain ⟨answer, act⟩ := Event.act_of_processed? found
      exact absurd ⟨_, answer, act, trivial⟩ (idle event member)

theorem filterMap_offered?_of_idle {events : List Event}
    (idle : ∀ event ∈ events, ¬ event.Touches) :
    events.filterMap Event.offered? = [] := by
  refine List.filterMap_eq_nil_iff.mpr fun event member => ?_
  unfold Event.offered?
  split
  · rename_i channel message answer act
    exact absurd ⟨.deliver channel message, answer, act, trivial⟩
      (idle event member)
  · rfl

namespace Rules

variable {seen group : Group} {arrived since : List Event}
  {stored : Option Group} {tenure : Tenure}
  (arrives : Arrives invocation key seen arrived)

theorem tenure_start (arrived : List Event) (stored : Option Group) :
    Tenure.During arrived stored [] ⟨arrived, stored⟩ :=
  ⟨(List.append_nil arrived).symm, by simp, rfl⟩

include arrives

theorem minds_ask {request : Engine.Request}
    (isAbout : IsAbout key ticket request)
    (during : tenure.During arrived stored since)
    (may : Touches request →
      ∃ group, stored = some group ∧ group.generation = seen.generation ∧
        Finishes handler key group since request) :
    (finishing handler invocation).Minds
      call key ticket (Call.ask request) tenure fun answer after =>
        ∃ (circumstances : Circumstances) (refusal : Option Error),
          circumstances.fault = none ∧
            answer = (circumstances.shelve refusal stored request).2 ∧
            after.During arrived (circumstances.shelve refusal stored request).1
              (since ++ [⟨call, some key, .answered request answer⟩]) := by
  refine ⟨isAbout, fun touches => ?_,
    fun circumstances refusal works after answer responded => ?_⟩
  · obtain ⟨group, held, same, finishes⟩ := may touches
    refine ⟨seen, group, ?_, arrives.sameKey,
      during.stored.trans held, same, ?_⟩
    · rw [during.own, seen?_append invocation
        fun event member => (during.inner event member).isSilent]
      exact arrives.seen
    · rwa [during.own, sinceEntered_append during.inner, arrives.since,
        List.nil_append]
  · obtain ⟨own, shelved, answered⟩ := Tenure.of_respond responded
    rw [during.stored] at shelved answered
    refine ⟨circumstances, refusal, works, answered, ?_, ?_, shelved⟩
    · rw [own, during.own, List.append_assoc]
    · intro event member
      rcases List.mem_append.mp member with past | new
      · exact during.inner event past
      · rw [List.mem_singleton.mp new]
        exact ⟨key, ticket, request, _, isAbout, rfl⟩

theorem minds_still {request : Engine.Request}
    (isAbout : IsAbout key ticket request)
    (keeps : ¬ Alters request) (during : tenure.During arrived stored since)
    (may : Touches request →
      ∃ group, stored = some group ∧ group.generation = seen.generation ∧
        Finishes handler key group since request) :
    (finishing handler invocation).Minds call key ticket (Call.ask request)
      tenure fun answer after =>
        after.During arrived stored
          (since ++ [⟨call, some key, .answered request answer⟩]) := by
  refine (minds_ask arrives isAbout during may).imp
    fun answer after ⟨circumstances, refusal, _, _, later⟩ => ?_
  rwa [shelve_of_not_alters keeps] at later

theorem minds_load (during : tenure.During arrived stored since) :
    (finishing handler invocation).Minds call key ticket (Call.ask (.load key))
      tenure fun answer after => (∃ generation time,
        answer = .ok (stored.getD (.empty key generation time))) ∧
        after.During arrived stored
          (since ++ [⟨call, some key, .answered (.load key) answer⟩]) := by
  have isAbout : IsAbout key ticket (.load key) := rfl
  refine (minds_ask arrives isAbout during nofun).imp
    fun answer after ⟨circumstances, refusal, works, answered, later⟩ => ?_
  simp only [Circumstances.shelve, works] at answered later
  exact ⟨⟨_, _, answered⟩, later⟩

theorem minds_quiet {α : Type} {program : Call α}
    (asks : Asks (IsIdle key ticket) program)
    (during : tenure.During arrived stored since)
    (idle : ∀ event ∈ since, ¬ event.Touches) :
    (finishing handler invocation).Minds call key ticket program tenure
      fun _ after =>
        ∃ later, after.During arrived stored later ∧
          ∀ event ∈ later, ¬ event.Touches := by
  induction program generalizing tenure since with
  | done value => exact ⟨since, during, idle⟩
  | ask request next induction =>
      obtain ⟨⟨isAbout, touchless⟩, asks⟩ := asks
      refine Minds.next
        (minds_still arrives isAbout (mt Alters.touches touchless) during
          fun touches => absurd touches touchless) fun answer after later => ?_
      refine induction answer (asks answer) later fun event member => ?_
      rcases List.mem_append.mp member with past | new
      · exact idle event past
      · rw [List.mem_singleton.mp new]
        exact fun touches => touchless (Event.touches_answered_iff.mp touches)

variable (same : group.generation = seen.generation)

include same

theorem minds_replies {α : Type} {program : Call α}
    (asks : Asks (IsQuiet ticket) program)
    (during : tenure.During arrived (some group) since)
    (processed : since.filterMap Event.processed? = [group]) :
    (finishing handler invocation).Minds call key ticket program tenure
      fun _ after =>
        ∃ later, after.During arrived (some group) later ∧
          later.filterMap Event.processed? = [group] := by
  induction program generalizing tenure since with
  | done value => exact ⟨since, during, processed⟩
  | ask request next induction =>
      obtain ⟨quiet, asks⟩ := asks
      have may : Touches request →
          Finishes handler key group since request := by
        cases request with
        | deliverWithin limit channel message => exact fun _ => processed
        | judge | retain | retire | build | resolve | log =>
            exact fun touches => touches.elim
        | _ => exact quiet.elim
      refine Minds.next (minds_still arrives quiet.isAbout quiet.not_alters
        during fun touches => ⟨group, rfl, same, may touches⟩)
        fun answer after later => ?_
      refine induction answer (asks answer) later ?_
      rw [List.filterMap_append, processed]
      cases request <;> first | rfl | exact quiet.elim

theorem minds_releaseExpired (during : tenure.During arrived (some group) since)
    (idle : ∀ event ∈ since, ¬ event.Touches) :
    (finishing handler invocation).Minds
      call key ticket (handler.releaseExpired group) tenure
      fun _ after => ∃ later, after.During arrived (some group) later ∧
        later.filterMap Event.processed? = [group] := by
  have isAbout : IsAbout key ticket (.process group) := trivial
  have nothing := filterMap_processed?_of_idle idle
  refine (minds_still arrives isAbout id during fun _ =>
    ⟨group, rfl, same, rfl, nothing⟩).next fun outcome processed during => ?_
  have once : List.filterMap Event.processed? (since ++
      [⟨call, some key, .answered (.process group) outcome⟩]) = [group] := by
    rw [List.filterMap_append, nothing]
    rfl
  cases outcome with
  | error error => exact ⟨_, during, once⟩
  | ok outcome =>
      refine minds_replies arrives same ?_ during once
      exact asks_dispatch handler ticket _ outcome _

theorem minds_discardAll {messages : List Message} {name : Key}
    (during : tenure.During arrived (some group) since)
    (left : since.filterMap Event.offered? ++
      messages.map (fun message => (handler.discardChannel, message)) =
      group.unmarked.map fun message => (handler.discardChannel, message)) :
    (finishing handler invocation).Minds call key ticket
      (handler.discardAll name messages) tenure
      fun _ after => ∃ later, after.During arrived (some group) later ∧
        (later.filterMap Event.offered? = group.unmarked.map
          (fun message => (handler.discardChannel, message)) ∨
          ∃ event ∈ later, event.Fails) := by
  induction messages generalizing tenure since with
  | nil => exact ⟨since, during, .inl (by simpa using left)⟩
  | cons message rest induction =>
      have isAbout : IsAbout key ticket
            (.deliver handler.discardChannel message) := trivial
      have isNext : since.filterMap Event.offered? ++
            [(handler.discardChannel, message)] ++ rest.map (fun message =>
              (handler.discardChannel, message)) = group.unmarked.map
                fun message => (handler.discardChannel, message) := by
        rw [← left, List.map_cons, ← List.append_cons]
      unfold Handler.discardAll Handler.discard
      simp only [Program.bind_eq, Program.bind_assoc]
      refine (minds_still arrives isAbout id during fun _ =>
        ⟨group, rfl, same, _, isNext⟩).next fun answer offered during => ?_
      cases answer with
      | ok value =>
          refine induction during ?_
          rw [List.filterMap_append]
          exact isNext
      | error error =>
          have isLog : IsAbout key ticket (.log (.dispatchFailed
              handler.discardChannel.name name error.message)) := trivial
          refine (minds_still arrives isLog id during nofun).next
            fun _ after later => ?_
          exact ⟨_, later,
            .inr ⟨_, List.mem_append_left _ List.mem_concat_self, _, _, _, rfl⟩⟩

theorem minds_conclude (isReady : Bool)
    (during : tenure.During arrived (some group) since)
    (idle : ∀ event ∈ since, ¬ event.Touches) :
    (finishing handler invocation).Minds
      call key ticket (handler.conclude group isReady) tenure
      fun _ after => ∃ later, after.During arrived (some group) later ∧
        Finishes handler key group later (.remove key) := by
  unfold Handler.conclude
  split
  · refine (minds_releaseExpired arrives same during idle).imp
      fun _ after ⟨later, during, processed⟩ => ?_
    exact ⟨later, during, rfl, .inl processed⟩
  · have nothing := filterMap_offered?_of_idle idle
    refine (minds_discardAll arrives same during (by rw [nothing]; rfl)).imp
      fun _ after ⟨later, during, offered⟩ => ?_
    exact ⟨later, during, rfl, .inr offered⟩

theorem minds_removeGroup (during : tenure.During arrived (some group) since)
    (finishes : Finishes handler key group since (.remove key)) :
    (finishing handler invocation).Minds
      call key ticket (Handler.removeGroup ticket key) tenure
      fun _ after => ∃ later, after.During arrived none later ∧
        ∃ event ∈ later, event.Touches := by
  have isAbout : IsAbout key ticket (.remove key) := rfl
  refine (minds_ask arrives isAbout during
    fun _ => ⟨group, rfl, same, finishes⟩).next
    fun answer removed ⟨circumstances, refusal, works, answered, during⟩ => ?_
  simp only [Circumstances.shelve, works] at answered during
  subst answered
  have isRetire : IsAbout key ticket (.retire ticket) := rfl
  refine (minds_still arrives isRetire id during
    fun touches => touches.elim).next fun _ after later => ?_
  exact ⟨_, later, _, List.mem_append_left _ List.mem_concat_self,
    Event.touches_answered_iff.mpr trivial⟩

theorem minds_finish (during : tenure.During arrived (some group) since)
    (idle : ∀ event ∈ since, ¬ event.Touches) :
    (finishing handler invocation).Minds call key
      ticket (handler.finish ticket key group) tenure fun _ after => ∃ later,
        after.During arrived none later ∧ ∃ event ∈ later, event.Touches := by
  have judges : Asks (IsIdle key ticket) (handler.isDue group) :=
    asks_isDue (fun _ => ⟨trivial, id⟩) handler group
  refine (minds_quiet arrives judges during idle).next
    fun isReady judged ⟨_, during, idle⟩ => ?_
  refine Minds.next (minds_quiet arrives ⟨⟨trivial, id⟩, fun _ => trivial⟩
    during idle) fun _ logged ⟨_, during, idle⟩ => ?_
  refine (minds_conclude arrives same isReady during idle).next
    fun finished done ⟨_, during, finishes⟩ => ?_
  refine (minds_removeGroup arrives same during finishes).next
    fun removed cleared ⟨later, during, event, member, touches⟩ => ?_
  split
  · exact ⟨later, during, event, member, touches⟩
  · refine Minds.next (minds_still arrives trivial id during nofun)
      fun _ after during => ?_
    exact ⟨_, during, event, List.mem_append_left _ member, touches⟩

omit same in
theorem minds_finishSeen (during : tenure.During arrived stored []) :
    (finishing handler invocation).Minds
      call key ticket (handler.finishSeen ticket seen) tenure
      fun result after => ∃ later, (∃ left, after.During arrived left later ∧
        ((∃ event ∈ later, event.Touches) → left = none)) ∧
        (result = .ok false ∨ ∃ event ∈ later, event.Touches) := by
  have untouched : ∀ {tenure : Tenure} {since : List Event} (event : Log.Event),
    tenure.During arrived stored since → (∀ event ∈ since, ¬ event.Touches) →
      (finishing handler invocation).Minds call key ticket (Call.log event >>=
        fun _ => pure (.ok false)) tenure fun result after =>
          ∃ later, (∃ left, after.During arrived left later ∧
            ((∃ event ∈ later, event.Touches) → left = none)) ∧
            (result = (.ok false : Except Error Bool) ∨
              ∃ event ∈ later, event.Touches) := by
    intro tenure since event during idle
    refine Minds.next (minds_quiet arrives ⟨⟨trivial, id⟩, fun _ => trivial⟩
      during idle) fun _ after ⟨later, during, idle⟩ => ?_
    refine ⟨later, ⟨stored, during, ?_⟩, .inl rfl⟩
    rintro ⟨event, member, touches⟩
    exact absurd touches (idle event member)
  unfold Handler.finishSeen
  rw [arrives.sameKey]
  refine (minds_load arrives during).next
    fun answer loaded ⟨⟨generation, time, loads⟩, loadDuring⟩ => ?_
  subst loads
  have loadIdle : ∀ event ∈ ([] ++ [⟨call, some key, .answered (.load key)
      (.ok (stored.getD (.empty key generation time)))⟩] : List Event),
        ¬ event.Touches := by
    intro event member
    rw [List.mem_singleton.mp member]
    exact fun touches => Event.touches_answered_iff.mp touches
  dsimp only
  split
  · exact untouched _ loadDuring loadIdle
  · rename_i notEmpty
    refine Minds.next (minds_quiet arrives ⟨⟨rfl, id⟩, fun _ => trivial⟩
      loadDuring loadIdle) fun _ retained ⟨since, during, idle⟩ => ?_
    split
    · exact untouched _ during idle
    · rename_i same
      cases stored with
      | none => exact absurd rfl notEmpty
      | some group =>
          refine (minds_finish arrives (not_not.mp same) during idle).imp
            fun result after ⟨later, during, touched⟩ => ?_
          exact ⟨later, ⟨none, during, fun _ => rfl⟩, .inr touched⟩

end Rules

section Calls

theorem isSilent_entered (call : Nat) (place : Option Key) :
    Event.IsSilent ⟨call, place, .entered⟩ := ⟨rfl, rfl⟩

theorem isSilent_left (call : Nat) (place : Option Key) (keepsEntry : Bool)
    (result : Option Result) :
    Event.IsSilent ⟨call, place, .left keepsEntry result⟩ := ⟨rfl, rfl⟩

theorem isSilent_log (call : Nat) (place : Option Key) (event : Log.Event) :
    Event.IsSilent ⟨call, place, .answered (.log event) ()⟩ := ⟨rfl, rfl⟩

theorem heeds_forceComplete {seen : Group} {own : List Event}
    {rest : Except Error Bool → Call Result}
    (glances :
      invocation.seen? (own ++ [⟨call, none, .asked seen.key⟩]) = some seen)
    (going : ∀ result new, (∀ event ∈ new, event.IsSilent) →
      (result = .ok false ∨ ∃ event ∈ new, event.Touches) →
      (finishing handler invocation).Heeds call (.outside
        (own ++ [⟨call, none, .asked seen.key⟩] ++ new)) (rest result)) :
    (finishing handler invocation).Heeds call (.outside own)
      ((handler.forceComplete seen).bind rest) := by
  apply Rules.heeds_locked
  intro ticket stored
  have arrives : Arrives invocation seen.key seen (own ++
      [⟨call, none, .asked seen.key⟩] ++ [⟨call, some seen.key, .entered⟩]) :=
    { sameKey := rfl
      seen :=
        (seen?_append invocation (by simp [isSilent_entered])).trans glances
      since := sinceEntered_entered _ _ _ }
  refine (Rules.minds_finishSeen arrives (Rules.tenure_start _ stored)).imp
    fun result after ⟨later, ⟨left, during, clears⟩, outcome⟩ =>
      ⟨?_, fun keepsEntry => ?_⟩
  · rintro ⟨event, member, touches⟩
    rw [during.own, sinceEntered_append during.inner, arrives.since,
      List.nil_append] at member
    exact during.stored.trans (clears ⟨event, member, touches⟩)
  · rw [during.own]
    have going := going result ([⟨call, some seen.key, .entered⟩] ++ later ++
      [⟨call, some seen.key, .left keepsEntry (result? (rest result))⟩]) ?_ ?_
    · simpa using going
    · intro event member
      simp only [List.mem_append, List.mem_singleton] at member
      rcases member with (rfl | inner) | rfl
      · exact isSilent_entered _ _
      · exact (during.inner event inner).isSilent
      · exact isSilent_left _ _ _ _
    · exact outcome.imp_right fun ⟨event, member, touches⟩ =>
        ⟨event, by simp [member], touches⟩

theorem heeds_offerAll {timeout : Nat} {next : Sweep → Call Result}
    (going : ∀ failure own,
      (finishing handler (.expire timeout)).Heeds
        call (.outside own) (next ⟨[System.subscriber], [], failure⟩))
    {rest done : List Group} {own : List Event}
    (swept : HasSwept own done rest) (failure : Option Error) :
    (finishing handler (.expire timeout)).Heeds call (.outside own)
      ((attend handler (Sweep.offerAll ⟨[System.subscriber], [], failure⟩
        rest)).bind next) := by
  induction rest generalizing done own failure with
  | nil => exact going failure own
  | cons group rest induction =>
      rw [attend_offerAll_cons]
      refine Rules.heeds_log ?_
      have told : HasSwept
            (own ++ [⟨call, none, .answered (.log (.expiring group)) ()⟩]) done
            (group :: rest) := swept.append (by simp [isSilent_log])
      have asked := told.asks call group.key
      refine heeds_forceComplete (asked.seen? timeout)
        fun result new silent _ => ?_
      have finished := asked.append silent
      cases result with
      | ok value => exact induction finished failure
      | error error =>
          exact Rules.heeds_log
            (induction (finished.append (by simp [isSilent_log])) _)

theorem heeds_sweep (timeout : Nat) :
    (finishing handler (.expire timeout)).Heeds call (.outside [])
      ((Invocation.expire timeout).program handler) := by
  refine .aside trivial
    fun circumstances store subscribers survey surveyed => ?_
  have listening : survey.subscribers = [System.subscriber] := by
    rw [surveyed]
    exact subscribers
  simp only [Program.bind_done]
  split
  · exact .done nofun
  · rw [listening, Program.bind_eq, attend_bind, Program.bind_assoc]
    have swept :
      HasSwept ([] ++ [⟨call, none, .answered (.survey timeout) survey⟩]) []
        survey.groups := ⟨by simp [Event.surveyed], rfl⟩
    refine heeds_offerAll (fun failure own => ?_) swept none
    cases failure with
    | none => exact .done nofun
    | some error => exact .done nofun

theorem finishing_program (finishes : ∀ message, invocation ≠ .handle message) :
    (finishing handler invocation).Heeds call (.outside [])
      (invocation.program handler) := by
  cases invocation with
  | handle message => exact absurd rfl (finishes message)
  | forceComplete seen =>
      refine heeds_forceComplete rfl
        fun result new _ outcome => .done fun _ _ untouched => ?_
      rcases outcome with rfl | ⟨event, member, touches⟩
      · rfl
      · exact absurd touches (untouched event (List.mem_append_right _ member))
  | expire timeout => exact heeds_sweep timeout

end Calls

end Collate.Interleaving
