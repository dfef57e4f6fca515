import Collate.Proofs.Handler.Course
import Collate.Proofs.Handler.Record
import Collate.Proofs.Interleaving.Replay
import Collate.Proofs.Interleaving.Serial

namespace Collate.Interleaving

/-- A call about one key, or about none. -/
inductive Errand where
  | handle (message : Message)
  | forceComplete (seen : Group)

namespace Errand

def invocation : Errand → Invocation
  | .handle message => .handle message
  | .forceComplete seen => .forceComplete seen

def key? (handler : Handler) : Errand → Option Key
  | .handle message => handler.correlation message
  | .forceComplete seen => some seen.key

def course (handler : Handler) (key : Key) (ticket : Nat) : Errand → Call Result
  | .handle message =>
      (handler.receive ticket key message).bind
        fun result => .done (.handled result)
  | .forceComplete seen =>
      (handler.finishSeen ticket seen).bind
        fun result => .done (.finished result)

end Errand

/-- The system in which a handler over an unbounded store does errands that take
turns. -/
def serve (handler : Handler) (environment : Environment)
    (errands : Nat → Errand) (schedule : List Nat) : System :=
  (System.start 0 fun call => (errands call).invocation.program handler).run
    environment schedule

def Event.entrant? (event : Event) : Option Nat :=
  match event.act with
  | .entered => some event.call
  | _ => none

theorem Event.entrant?_eq_some {event : Event} {call : Nat} :
    event.entrant? = some call ↔ event.act = .entered ∧ event.call = call := by
  unfold entrant?
  split <;> simp_all

def System.lockOrder (system : System) : List Nat :=
  system.trace.filterMap Event.entrant?

variable {handler : Handler} {environment : Environment}
  {errands : Nat → Errand} {call ticket : Nat} {key : Key} {errand : Errand}

theorem Visit.Grows.entrants {before after : Visit} {new : List Event}
    (grows : Visit.Grows call key before after new) :
    new.filterMap Event.entrant? = [] := by
  apply List.filterMap_eq_nil_iff.mpr
  intro event member
  obtain ⟨-, -, request, answer, act⟩ := grows.mine event member
  simp [Event.entrant?, act]

theorem Errand.program_eq (found : errand.key? handler = some key) :
    errand.invocation.program handler = (Handler.locked key
      fun ticket => errand.course handler key ticket).bind Program.done := by
  cases errand with
  | handle message =>
      have correlated : handler.correlation message = some key := found
      simp [Errand.invocation, Errand.course, program_handle_some correlated,
        Handler.locked, Program.bind_assoc]
  | forceComplete seen =>
      obtain rfl : seen.key = key := Option.some.inj found
      simp [Errand.invocation, Errand.course, Invocation.program,
        Handler.forceComplete, Handler.locked, Program.bind_assoc]

theorem Discipline.Serves.ensures_course {discipline : Discipline}
    {visit : Visit} (serves : discipline.Serves handler key)
    (found : errand.key? handler = some key)
    (kept : Kept handler key visit.view.stored) :
    discipline.Ensures call key ticket (errand.course handler key ticket) visit
      fun _ after =>
        Kept handler key after.view.stored ∧
          ∃ new, Visit.Grows call key visit after new := by
  cases errand with
  | handle message =>
      refine (serves.ensures_receive found kept).next
        fun result after ⟨_, balances, _⟩ => ?_
      obtain ⟨_, _, ⟨new, grows, -⟩, keptStill, -⟩ := balances
      exact ⟨keptStill, new, grows⟩
  | forceComplete seen =>
      have sameKey : seen.key = key := Option.some.inj found
      apply (serves.ensures_finishSeen sameKey kept).next
      intro result after balances
      obtain ⟨_, _, ⟨new, grows, -⟩, keptStill, -⟩ := balances
      exact ⟨keptStill, new, grows⟩

def serializing (handler : Handler) (environment : Environment)
    (errands : Nat → Errand) : Discipline where
  capacity := 0
  environment := environment
  enters call key := (errands call).key? handler = some key
  allows key _ request := Concerns handler key request
  idle key view := Kept handler key view.stored ∧
    Replayed environment (fun call ticket => (errands call).course handler key
      ticket) key (view.events.filterMap Event.entrant?) view
  ends call own result :=
    own.filterMap Event.entrant? =
      ((errands call).key? handler).toList.map (fun _ => call) ∧
      (∀ key, (errands call).key? handler = some key →
        ∃ keepsEntry, ⟨call, some key, .left keepsEntry (some result)⟩ ∈ own) ∧
      ∀ message, errands call = .handle message →
        handler.correlation message = none →
        result = .handled (.error (.missingKey message.id.text))

theorem serializing_confines :
    (serializing handler environment errands).Confines handler :=
  fun _ _ _ concerns => concerns

section Serializing

variable (works : ∀ call turn, (environment call turn).fault = none)

include works

theorem serializing_serves (key : Key) :
    (serializing handler environment errands).Serves handler key where
  works := works
  allows := fun _ _ concerns => concerns

theorem ensures_visit (found : (errands call).key? handler = some key)
    {view : View}
    (idle : (serializing handler environment errands).idle key view) :
    (serializing handler environment errands).Ensures call key
      ticket ((errands call).course handler key ticket) (view.arrive call key)
      fun value after =>
        (serializing handler environment errands).idle key
            (after.view.leave call key (some value)) ∧
          ∃ new, Visit.Grows call key (view.arrive call key) after new := by
  obtain ⟨kept, replayed⟩ := idle
  refine Discipline.Ensures.imp (Discipline.Ensures.stay rfl
    ((serializing_serves works key).ensures_course found kept))
    fun value after ⟨⟨keptStill, new, grows⟩, stayed⟩ => ?_
  refine ⟨⟨keptStill, ?_⟩, new, grows⟩
  have visitors : (after.view.leave call key (some value)).events.filterMap
        Event.entrant? = view.events.filterMap Event.entrant? ++ [call] := by
    simp [View.leave, grows.events, View.arrive, View.enter,
      List.filterMap_append, grows.entrants, Event.entrant?]
  have visited : after.view.leave call key (some value) = view.visited
      environment call key ((errands call).course handler key ticket) := by
    obtain ⟨rfl, rfl⟩ := Prod.mk.inj stayed
    rfl
  rw [visitors, visited]
  exact .visit replayed call ticket

theorem abides_errand (call : Nat) :
    (serializing handler environment errands).Abides call .outside []
      ((errands call).invocation.program handler) := by
  cases found : (errands call).key? handler with
  | some key =>
      rw [Errand.program_eq found]
      apply Discipline.abides_locked found
      intro ticket view idle _ _
      refine (ensures_visit works found idle).imp
        fun value after ⟨left, new, grows⟩ => ?_
      refine ⟨left, .done ⟨?_, ?_, ?_⟩⟩
      · simp [grows.own, View.arrive, List.filterMap_cons,
          List.filterMap_append, grows.entrants, Event.entrant?, found]
      · rintro name same
        obtain rfl : key = name := Option.some.inj (found.symm.trans same)
        exact ⟨_, List.mem_append_right _ (List.mem_singleton_self _)⟩
      · intro message same uncorrelated
        rw [same] at found
        exact absurd (found.symm.trans uncorrelated) (by simp)
  | none =>
      cases errand : errands call with
      | handle message =>
          have uncorrelated : handler.correlation message = none := by
            rwa [errand] at found
          rw [Errand.invocation, program_handle_none uncorrelated]
          refine Discipline.abides_log (.done ⟨?_, ?_, ?_⟩)
          · simp [found, Event.entrant?]
          · intro name same
            exact absurd (found.symm.trans same) (by simp)
          · intro other same _
            obtain rfl : message = other :=
              Errand.handle.inj (errand.symm.trans same)
            rfl
      | forceComplete seen =>
          rw [errand] at found
          exact absurd found (by simp [Errand.key?])

theorem coherent_serve (schedule : List Nat) :
    Coherent (serializing handler environment errands)
      (serve handler environment errands schedule) := by
  have started : Coherent (serializing handler environment errands)
      (System.start 0 fun call => (errands call).invocation.program handler) :=
    Coherent.start (fun _ => ⟨kept_none, .start⟩) (abides_errand works)
  exact started.run schedule

end Serializing

end Collate.Interleaving
