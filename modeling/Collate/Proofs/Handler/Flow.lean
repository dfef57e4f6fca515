import Collate.Proofs.Handler.Record
import Collate.Proofs.Interleaving.Replay

namespace Collate.Interleaving

/-- The message that is offered to a channel as discarded, whether or not the
channel takes it. -/
def Event.offered? (event : Event) : Option (Channel × Message) :=
  match event.act with
  | .answered (.deliver channel message) _ => some (channel, message)
  | _ => none

def System.offers (system : System) (key : Key) : List (Channel × Message) :=
  (system.under key).filterMap Event.offered?

structure Flow where
  stored : Option Group
  replies : List (Channel × Message)
  offers : List (Channel × Message)
  discards : List Message

namespace Flow

def follow (flow : Flow) (channel : Channel) (stored : Option Group)
    (event : Event) : Flow where
  stored := stored
  replies := flow.replies ++ event.replied?.toList
  offers := flow.offers ++ event.offered?.toList
  discards := flow.discards ++ (event.discarded? channel).toList

end Flow

namespace View

def flow (view : View) (channel : Channel) : Flow where
  stored := view.stored
  replies := view.events.filterMap Event.replied?
  offers := view.events.filterMap Event.offered?
  discards := view.events.filterMap (Event.discarded? channel)

variable {view : View} {channel : Channel} {call : Nat} {key : Key}

theorem flow_append {after : View} {event : Event}
    (events : after.events = view.events ++ [event]) :
    after.flow channel =
      (view.flow channel).follow channel after.stored event := by
  have appended : ∀ {α : Type} (observe : Event → Option α),
      after.events.filterMap observe =
        view.events.filterMap observe ++ (observe event).toList := by
    intro α observe
    rw [events, List.filterMap_append]
    cases found : observe event <;> simp [found]
  simp only [flow, Flow.follow, appended]

theorem flow_enter :
    (view.enter call key).flow channel = view.flow channel := by
  rw [flow_append rfl]
  simp [Flow.follow, flow, enter, Event.replied?, Event.offered?,
    Event.discarded?]

theorem flow_leave (result : Option Result) :
    (view.leave call key result).flow channel = view.flow channel := by
  rw [flow_append rfl]
  simp [Flow.follow, flow, leave, Event.replied?, Event.offered?,
    Event.discarded?]

end View

def unconstrained (environment : Environment) : Discipline where
  capacity := 0
  environment := environment
  enters _ _ := True
  allows _ _ _ := True
  idle _ _ := True
  ends _ _ _ := True

section Questions

variable {environment : Environment} {call ticket : Nat} {key : Key}
  {visit : Visit} (channel : Channel)

open Discipline

theorem ensures_question {request : Engine.Request}
    (isAbout : IsAbout key ticket request) :
    (unconstrained environment).Ensures call key ticket (Call.ask request) visit
      fun answer after =>
        answer = ((environment call visit.own.length).shelve none
          visit.view.stored request).2 ∧
          after.view.flow channel = (visit.view.flow channel).follow channel
            ((environment call visit.own.length).shelve none visit.view.stored
              request).1 ⟨call, some key, .answered request answer⟩ := by
  refine ⟨isAbout, trivial, fun refusal mayRefuse after answer responded => ?_⟩
  obtain rfl := mayRefuse.eq_none
  obtain ⟨grows, stored, answered⟩ := grows_respond responded
  refine ⟨answered, ?_⟩
  rw [View.flow_append grows.events, stored]
  rfl

theorem ensures_still {request : Engine.Request}
    (still : IsStill key ticket request) :
    (unconstrained environment).Ensures call key ticket (Call.ask request) visit
      fun answer after =>
        answer = ((environment call visit.own.length).shelve none
          visit.view.stored request).2 ∧
          after.view.flow channel = visit.view.flow channel := by
  have isAbout : IsAbout key ticket request := by
    cases request <;> first | exact still | exact still.elim
  refine Ensures.imp (ensures_question channel isAbout)
    fun answer after ⟨answered, follows⟩ => ⟨answered, ?_⟩
  rw [follows]
  cases request with
  | load name =>
      simp only [Circumstances.shelve]
      cases (environment call visit.own.length).fault <;>
        simp [Flow.follow, View.flow, Event.replied?, Event.offered?,
          Event.discarded?]
  | judge | process | retain | retire | build | resolve | log =>
      simp [Flow.follow, View.flow, Circumstances.shelve, Event.replied?,
        Event.offered?, Event.discarded?]
  | _ => exact still.elim

theorem ensures_offer (message : Message) :
    (unconstrained environment).Ensures call key ticket
      (Call.ask (.deliver channel message)) visit fun taken after =>
        taken = (environment call visit.own.length).deliver channel message ∧
          after.view.flow channel =
            { visit.view.flow channel with
              offers := (visit.view.flow channel).offers ++ [(channel, message)]
              discards := (visit.view.flow channel).discards ++
                if taken.isOk then [message] else [] } := by
  refine Ensures.imp (ensures_question channel trivial)
    fun taken after ⟨answered, follows⟩ => ⟨answered, ?_⟩
  rw [follows]
  cases taken <;>
    simp [Flow.follow, View.flow, Circumstances.shelve, Event.replied?,
      Event.offered?, Event.discarded?, Except.isOk, Except.toBool]

theorem ensures_send {limit : Nat} {output : Channel} {message : Message}
    (takes : (environment call visit.own.length).deliverWithin limit
      output message = some (.ok ())) :
    (unconstrained environment).Ensures call key ticket
      (Call.ask (.deliverWithin limit output message)) visit fun taken after =>
        taken = some (.ok ()) ∧
          after.view.flow channel =
            { visit.view.flow channel with
              replies :=
                (visit.view.flow channel).replies ++ [(output, message)] } := by
  refine Ensures.imp (ensures_question channel trivial)
    fun taken after ⟨answered, follows⟩ => ?_
  obtain rfl : taken = some (.ok ()) := answered.trans takes
  refine ⟨rfl, ?_⟩
  rw [follows]
  simp [Flow.follow, View.flow, Circumstances.shelve, Event.replied?,
    Event.offered?, Event.discarded?]

variable (works : ∀ call turn, (environment call turn).fault = none)

include works

theorem ensures_loaded :
    (unconstrained environment).Ensures call key
      ticket (Call.ask (.load key)) visit
      fun answer after => after.view.flow channel = visit.view.flow channel ∧
        ∃ generation time,
          answer =
            .ok (visit.view.stored.getD (.empty key generation time)) := by
  refine Ensures.imp (ensures_still channel rfl)
    fun answer after ⟨answered, same⟩ => ⟨same, ?_⟩
  simp only [Circumstances.shelve, works] at answered
  exact ⟨_, _, answered⟩

theorem ensures_added (message : Message) :
    (unconstrained environment).Ensures call key ticket
      (Call.ask (.add key message)) visit
      fun answer after => ∃ generation time,
        answer = .ok ((visit.view.stored.getD (.empty key generation time)).add
          message time) ∧
          after.view.flow channel =
            { visit.view.flow channel with
              stored :=
                some ((visit.view.stored.getD (.empty key generation time)).add
                  message time) } := by
  refine Ensures.imp (ensures_question channel rfl)
    fun answer after ⟨answered, follows⟩ => ?_
  simp only [Circumstances.shelve, works, Option.none_or] at answered follows
  refine ⟨_, _, answered, ?_⟩
  rw [follows]
  simp [Flow.follow, Event.replied?, Event.offered?, Event.discarded?]

theorem ensures_marked {group : Group} (sameKey : group.key = key) :
    (unconstrained environment).Ensures call key ticket
      (Call.ask (.mark group)) visit
      fun answer after => (∃ marked, answer = .ok marked) ∧ ∃ time,
        after.view.flow channel =
          { visit.view.flow channel with
            stored :=
              visit.view.stored.map fun held => held.markAll time } := by
  refine Ensures.imp (ensures_question channel sameKey)
    fun answer after ⟨answered, follows⟩ => ?_
  simp only [Circumstances.shelve, works] at answered follows
  refine ⟨⟨_, answered⟩, (environment call visit.own.length).time, ?_⟩
  rw [follows]
  simp [Flow.follow, Event.replied?, Event.offered?, Event.discarded?]

theorem ensures_removed :
    (unconstrained environment).Ensures call key ticket (Call.ask (.remove key))
      visit fun answer after => answer = .ok () ∧
        after.view.flow channel =
          { visit.view.flow channel with stored := none } := by
  refine Ensures.imp (ensures_question channel rfl)
    fun answer after ⟨answered, follows⟩ => ?_
  simp only [Circumstances.shelve, works] at answered follows
  refine ⟨answered, ?_⟩
  rw [follows]
  simp [Flow.follow, Event.replied?, Event.offered?, Event.discarded?]

end Questions

end Collate.Interleaving
