import Collate.Proofs.Handler.Course
import Collate.Proofs.Handler.Record

namespace Collate.Interleaving

def Event.admits (event : Event) : Bool :=
  match event.act with
  | .answered (.add _ _) (.ok _) => true
  | _ => false

def admissions (events : List Event) : Nat :=
  (events.filter Event.admits).length

/-- What can be seen of a key. -/
structure Sight where
  stored : Option Group
  keepsEntry : Bool
  entryStays : Bool
  finished : List Nat
  processed : List Group
  replies : List (Channel × Message)
  admissions : Nat

def Sight.leave (sight : Sight) (call : Nat) : Sight :=
  { sight with
    keepsEntry := false
    entryStays := sight.keepsEntry
    finished := sight.finished ++ [call] }

namespace View

def sight (view : View) : Sight where
  stored := view.stored
  keepsEntry := view.keepsEntry
  entryStays := Interleaving.entryStays view.events
  finished := view.events.filterMap Event.finisher?
  processed := view.events.filterMap Event.processed?
  replies := view.events.filterMap Event.replied?
  admissions := Interleaving.admissions view.events

variable {view : View} {call : Nat} {key : Key}

theorem sight_enter : (view.enter call key).sight = view.sight := by
  simp [sight, enter, entryStays, admissions, Event.finisher?, Event.processed?,
    Event.replied?, Event.admits]

theorem sight_leave (result : Result) :
    (view.leave call key (some result)).sight = view.sight.leave call := by
  simp [sight, leave, Sight.leave, entryStays, admissions, Event.finisher?,
    Event.processed?, Event.replied?, Event.admits]

end View

def Sight.respond (sight : Sight) (circumstances : Circumstances) (call : Nat)
    (key : Key) (request : Engine.Request) : Sight × request.Answer :=
  let (stored, answer) := circumstances.shelve none sight.stored request
  let event : Event := ⟨call, some key, .answered request answer⟩
  ({ sight with
      stored
      keepsEntry := keepsAfter sight.keepsEntry request
      processed := sight.processed ++ event.processed?.toList
      replies := sight.replies ++ event.replied?.toList
      admissions := sight.admissions + if event.admits then 1 else 0 }, answer)

namespace Sight

variable (sight : Sight) (circumstances : Circumstances)
  (call : Nat) (key : Key)

theorem respond_log (event : Log.Event) :
    sight.respond circumstances call key (.log event) = (sight, ()) := by
  simp [respond, Circumstances.shelve, Circumstances.answer, keepsAfter,
    Event.processed?, Event.replied?, Event.admits]

theorem respond_judge (group : Group) :
    sight.respond circumstances call key (.judge group) =
      (sight, circumstances.judge group) := by
  simp [respond, Circumstances.shelve, Circumstances.answer, keepsAfter,
    Event.processed?, Event.replied?, Event.admits]

theorem respond_process (group : Group) :
    sight.respond circumstances call key (.process group) =
      ({ sight with processed := sight.processed ++ [group] },
        circumstances.process group) := by
  simp [respond, Circumstances.shelve, Circumstances.answer, keepsAfter,
    Event.processed?, Event.replied?, Event.admits]

theorem respond_retain (ticket : Nat) :
    sight.respond circumstances call key (.retain ticket) =
      ({ sight with keepsEntry := true }, ()) := by
  simp [respond, Circumstances.shelve, Circumstances.answer, keepsAfter,
    Event.processed?, Event.replied?, Event.admits]

theorem respond_retire (ticket : Nat) :
    sight.respond circumstances call key (.retire ticket) =
      ({ sight with keepsEntry := false }, ()) := by
  simp [respond, Circumstances.shelve, Circumstances.answer, keepsAfter,
    Event.processed?, Event.replied?, Event.admits]

theorem respond_deliverWithin {limit : Nat} {channel : Channel}
    {message : Message}
    (takes :
      circumstances.deliverWithin limit channel message = some (.ok ())) :
    sight.respond circumstances
      call key (.deliverWithin limit channel message) = ({ sight with
        replies := sight.replies ++ [(channel, message)] }, some (.ok ())) := by
  simp [respond, Circumstances.shelve, Circumstances.answer, takes, keepsAfter,
    Event.processed?, Event.replied?, Event.admits]

variable {circumstances} (works : circumstances.fault = none)

include works

theorem respond_load :
    sight.respond circumstances call key (.load key) =
      (sight, .ok (sight.stored.getD
        (.empty key circumstances.generation circumstances.time))) := by
  simp [respond, Circumstances.shelve, works, keepsAfter, Event.processed?,
    Event.replied?, Event.admits]

theorem respond_add (message : Message) :
    sight.respond circumstances call key (.add key message) =
      let group := (sight.stored.getD
        (.empty key circumstances.generation circumstances.time)).add message
          circumstances.time
      ({ sight with
          stored := some group
          admissions := sight.admissions + 1 }, .ok group) := by
  simp [respond, Circumstances.shelve, works, keepsAfter, Event.processed?,
    Event.replied?, Event.admits]

theorem respond_remove :
    sight.respond circumstances call key (.remove key) =
      ({ sight with stored := none }, .ok ()) := by
  simp [respond, Circumstances.shelve, works, keepsAfter, Event.processed?,
    Event.replied?, Event.admits]

end Sight

theorem View.sight_respond (view : View) (circumstances : Circumstances)
    (call : Nat) (key : Key) (request : Engine.Request) :
    ((view.respond circumstances none call key request).1.sight,
      (view.respond circumstances none call key request).2) =
      view.sight.respond circumstances call key request := by
  have appended : ∀ {α : Type} (observe : Event → Option α) (event : Event),
      (view.events ++ [event]).filterMap observe =
        view.events.filterMap observe ++ (observe event).toList := by
    intro α observe event
    rw [List.filterMap_append]
    cases found : observe event <;> simp [found]
  have counted : ∀ event : Event, admissions (view.events ++ [event]) =
      admissions view.events + if event.admits then 1 else 0 := by
    intro event
    unfold admissions
    rw [List.filter_append, List.length_append]
    cases kind : event.admits <;> simp [kind]
  simp only [sight, respond, Sight.respond, appended, counted, Prod.mk.injEq,
    and_true, Sight.mk.injEq, true_and]
  refine ⟨?_, ?_, rfl⟩
  · simp [entryStays]
  · simp [Event.finisher?]

namespace Discipline

variable {discipline : Discipline} {call ticket : Nat}
  {key : Key} {visit : Visit}

theorem ensures_ask {request : Engine.Request} {seen : Sight}
    {answered : request.Answer}
    (unbounded : discipline.capacity = 0) (isAbout : IsAbout key ticket request)
    (allowed : discipline.allows key visit.view.events request)
    (responds : visit.view.sight.respond (discipline.environment
      call visit.own.length) call key request = (seen, answered)) :
    discipline.Ensures call key ticket (Call.ask request) visit
      fun answer after =>
        after.view.sight = seen ∧ answer = answered := by
  refine ⟨isAbout, allowed, fun refusal mayRefuse after answer responded => ?_⟩
  rw [unbounded] at mayRefuse
  obtain rfl := mayRefuse.eq_none
  obtain ⟨rfl, rfl⟩ := Prod.mk.inj responded
  exact Prod.mk.inj
    ((visit.view.sight_respond _ call key request).trans responds)

theorem ensures_load (unbounded : discipline.capacity = 0)
    (works : ∀ call turn, (discipline.environment call turn).fault = none)
    (allowed : discipline.allows key visit.view.events (.load key)) :
    discipline.Ensures call key ticket (Call.ask (.load key)) visit
      fun answer after =>
        after.view.sight = visit.view.sight ∧ ∃ generation time,
          answer = .ok
            (visit.view.sight.stored.getD (.empty key generation time)) := by
  refine Ensures.imp (ensures_ask unbounded rfl allowed
    (Sight.respond_load _ _ _ (works _ _))) fun _ after ⟨same, answered⟩ => ?_
  exact ⟨same, _, _, answered⟩

end Discipline

end Collate.Interleaving
