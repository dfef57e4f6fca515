import Collate.Proofs.Handler.Agreement
import Collate.Proofs.Interleaving.Serial

namespace Collate.Interleaving

variable {discipline : Discipline} {handler : Handler} {call ticket : Nat}
  {key : Key} {visit : Visit} {group : Group} {message : Message}

/-- Whether the last look at the group of a key has failed. -/
def lapsed (events : List Event) : Bool :=
  events.foldl
    (fun lapsed event =>
      match event.act with
      | .answered (.load _) (.error _) => true
      | .answered (.load _) (.ok _) => false
      | _ => lapsed)
    false

def IsLater : Engine.Request → Prop
  | .load _ => False
  | _ => True

theorem lapsed_load_error (events : List Event) (place : Option Key)
    (name : Key) (error : Error) :
    lapsed (events ++ [⟨call, place, .answered (.load name) (.error error)⟩]) =
      true := by
  simp [lapsed]

theorem lapsed_load_ok (events : List Event) (place : Option Key) (name : Key)
    (group : Group) :
    lapsed (events ++ [⟨call, place, .answered (.load name) (.ok group)⟩]) =
      false := by
  simp [lapsed]

theorem lapsed_answered (events : List Event) (place : Option Key)
    {request : Engine.Request}
    (later : IsLater request) (answer : request.Answer) :
    lapsed (events ++ [⟨call, place, .answered request answer⟩]) =
      lapsed events := by
  unfold lapsed
  rw [List.foldl_append]
  cases request with
  | load name => exact later.elim
  | _ => rfl

theorem lapsed_left (events : List Event) (place : Option Key)
    (keepsEntry : Bool) (result : Option Result) :
    lapsed (events ++ [⟨call, place, .left keepsEntry result⟩]) =
      lapsed events := by
  simp [lapsed]

/-- A key that has an entry, when nobody has its lock, if it has a group and the
last look at the group has not failed, and only then. -/
structure Lapses (key : Key) (view : View) : Prop where
  proper : IsProper key view.stored
  stays : entryStays view.events = (view.stored.isSome && !lapsed view.events)

structure Looked (key : Key) (view : View) : Prop where
  proper : IsProper key view.stored
  keeps : view.keepsEntry = (view.stored.isSome && !lapsed view.events)

theorem lapses_start : Lapses key .start where
  proper := isProper_none
  stays := rfl

theorem Looked.leave {view : View} (looked : Looked key view) (call : Nat)
    (result : Option Result) : Lapses key (view.leave call key result) where
  proper := looked.proper
  stays := by
    rw [View.leave, Coherent.entryStays_append, lapsed_left]
    exact looked.keeps

theorem Tied.looked {view : View} (tied : Tied key view)
    (seen : lapsed view.events = false) : Looked key view where
  proper := tied.proper
  keeps := by rw [seen, Bool.not_false, Bool.and_true, tied.keeps]

namespace Discipline

theorem isLater_of_isSettling (request : Engine.Request)
    (settling : IsSettling request) :
    IsLater request := by
  cases request <;> trivial

theorem isLater_of_isApart (request : Engine.Request)
    (apart : IsApart request) : IsLater request :=
  isLater_of_isSettling request (isSettling_of_isApart request apart)

theorem asks_enroll (handler : Handler) (ticket : Nat) (key : Key)
    (message : Message) : Asks IsLater (handler.enroll ticket key message) := by
  rw [Handler.enroll_eq]
  refine asks_ask_bind.mpr ⟨trivial, fun answer => ?_⟩
  cases answer with
  | error error => trivial
  | ok group =>
      exact (asks_settle handler ticket key message group).mono
        isLater_of_isSettling

theorem asks_place (handler : Handler) (ticket : Nat) (key : Key)
    (message : Message) (group : Group) :
    Asks IsLater (handler.place ticket key message group) := by
  have going : Asks IsLater
      (if group.canAdd message then handler.enroll ticket key message
      else do
        Call.log (.rejected key message)
        handler.discard key message) := by
    split
    · exact asks_enroll handler ticket key message
    · refine asks_ask_bind.mpr ⟨trivial, fun _ => ?_⟩
      exact (asks_discard handler key message).mono isLater_of_isApart
  unfold Handler.place
  dsimp only
  split
  · exact asks_ask_bind.mpr ⟨trivial, fun _ => going⟩
  · exact going

theorem Ensures.and_lapsed {α : Type} {program : Call α}
    {post : α → Visit → Prop}
    (ensures : discipline.Ensures call key ticket program visit post)
    (asks : Asks IsLater program) :
    discipline.Ensures call key ticket program visit fun value after =>
      post value after ∧
        lapsed after.view.events = lapsed visit.view.events := by
  induction program generalizing visit with
  | done value => exact ⟨ensures, rfl⟩
  | ask request next induction =>
      obtain ⟨isAbout, allowed, going⟩ := ensures
      refine ⟨isAbout, allowed,
        fun refusal mayRefuse middle answer responded => ?_⟩
      have same : lapsed middle.view.events = lapsed visit.view.events := by
        rw [(grows_respond responded).1.events]
        exact lapsed_answered _ _ asks.1 answer
      refine (induction answer (going refusal mayRefuse middle answer responded)
        (asks.2 answer)).imp fun value after ⟨holds, later⟩ => ?_
      exact ⟨holds, later.trans same⟩

section Looking

variable (free : ∀ events request, discipline.allows key events request)

include free

theorem ensures_look (proper : IsProper key visit.view.stored) :
    discipline.Ensures call key ticket (Call.ask (.load key)) visit
      fun answer after =>
        after.view.stored = visit.view.stored ∧
          after.view.keepsEntry = visit.view.keepsEntry ∧
          match answer with
          | .error _ => lapsed after.view.events = true
          | .ok group =>
              lapsed after.view.events = false ∧
                group.isEmpty = !visit.view.stored.isSome := by
  refine ⟨rfl, free _ _, fun refusal _ after answer responded => ?_⟩
  obtain ⟨grows, stored, answered⟩ := grows_respond responded
  have keeps := keepsEntry_respond responded
  cases fault : (discipline.environment call visit.own.length).fault with
  | some error =>
      simp only [Circumstances.shelve, fault] at stored answered
      subst answered
      refine ⟨stored, keeps, ?_⟩
      show lapsed after.view.events = true
      rw [grows.events]
      exact lapsed_load_error _ _ _ _
  | none =>
      simp only [Circumstances.shelve, fault] at stored answered
      subst answered
      refine ⟨stored, keeps, ?_, proper.isEmpty_getD _ _⟩
      rw [grows.events]
      exact lapsed_load_ok _ _ _ _

theorem ensures_looked {α : Type} {rest : Except Error Group → Call α}
    (proper : IsProper key visit.view.stored)
    (unkept : visit.view.keepsEntry = false)
    (fails : ∀ error, ∃ value, rest (.error error) = .done value)
    (later : ∀ group, Asks IsLater (rest (.ok group)))
    (ties : ∀ group (loaded : Visit), IsProper key loaded.view.stored →
      loaded.view.keepsEntry = false →
      group.isEmpty = (!loaded.view.stored.isSome) →
      discipline.Ensures call key ticket (rest (.ok group)) loaded
        fun _ after =>
          Tied key after.view) :
    discipline.Ensures call key ticket ((Call.ask (.load key)).bind rest) visit
      fun _ after =>
        Looked key after.view := by
  refine (ensures_look free proper).next
    fun answer loaded ⟨stored, keeps, look⟩ => ?_
  rw [← stored] at proper look
  cases answer with
  | error error =>
      obtain ⟨value, ends⟩ := fails error
      rw [ends]
      refine ⟨proper, ?_⟩
      rw [keeps, unkept, look, Bool.not_true, Bool.and_false]
  | ok group =>
      obtain ⟨seen, empty⟩ := look
      refine ((ties group loaded proper (keeps.trans unkept) empty).and_lapsed
        (later group)).imp fun value after ⟨tied, same⟩ => ?_
      exact tied.looked (same.trans seen)

theorem ensures_looked_receive (proper : IsProper key visit.view.stored)
    (unkept : visit.view.keepsEntry = false) (message : Message) :
    discipline.Ensures call key ticket (handler.receive ticket key message)
      visit fun _ after =>
        Looked key after.view := by
  rw [Handler.receive_eq]
  refine ensures_looked free proper unkept (fun error => ⟨_, rfl⟩)
    (fun group => asks_place handler ticket key message group) ?_
  intro group loaded properNow unkeptNow empty
  exact ensures_tied_place free properNow unkeptNow empty message

theorem ensures_looked_finishSeen (proper : IsProper key visit.view.stored)
    (unkept : visit.view.keepsEntry = false)
    {seen : Group} (sameKey : seen.key = key) :
    discipline.Ensures call key ticket (handler.finishSeen ticket seen) visit
      fun _ after =>
        Looked key after.view := by
  rw [Handler.finishSeen_eq, sameKey]
  refine ensures_looked free proper unkept (fun error => ⟨_, rfl⟩) (fun group =>
    (asks_finishFound handler ticket seen group).mono isLater_of_isSettling) ?_
  intro group loaded properNow unkeptNow empty
  exact ensures_tied_finishFound free properNow unkeptNow empty sameKey

end Looking

end Discipline

def looking (capacity : Nat) (environment : Environment) : Discipline where
  capacity := capacity
  environment := environment
  enters _ _ := True
  allows _ _ _ := True
  idle := Lapses
  ends _ _ _ := True

variable {capacity : Nat} {environment : Environment}

theorem looking_program (invocation : Invocation) :
    (looking capacity environment).Abides call .outside []
      (invocation.program handler) := by
  refine Discipline.abides_program (fun _ => trivial) (fun _ _ => trivial) _
    ?receives ?finishes
  case receives =>
    intro key message ticket own view idle unkept
    exact (Discipline.ensures_looked_receive (fun _ _ => trivial) idle.proper
      unkept message).imp fun _ after looked => looked.leave call
  case finishes =>
    intro _ seen ticket own view idle unkept
    exact (Discipline.ensures_looked_finishSeen (fun _ _ => trivial)
      idle.proper unkept rfl).imp fun _ after looked => looked.leave call

theorem looking_run (handler : Handler) (capacity : Nat)
    (environment : Environment) (calls : Nat → Invocation)
    (schedule : List Nat) :
    Coherent (looking capacity environment) ((System.start capacity
      fun call => (calls call).program handler).run environment schedule) :=
  (Coherent.start (fun _ => lapses_start)
    fun call => looking_program (calls call)).run schedule

/-- However the calls of a handler interleave and whatever operations of the
store fail, a key that no call has the lock of or waits for has an entry in the
lock table if it has a stored group and the last look at the group has not
failed, and only then. -/
theorem entries_agree_unless_lapsed (handler : Handler) (capacity : Nat)
    (environment : Environment) (calls : Nat → Invocation)
    (schedule : List Nat) (key : Key) :
    let system :=
      (System.start capacity fun call => (calls call).program handler).run
        environment schedule
    (∀ call, (system.phase call).key? ≠ some key) →
      system.locks.contains key =
        ((system.store.get? key).isSome && !lapsed (system.under key)) := by
  intro system away
  have coherent := looking_run handler capacity environment calls schedule
  have free : ∀ ticket stage, ¬ system.locks.Stands ticket key stage := by
    intro ticket stage stands
    obtain ⟨call, busy⟩ := coherent.key?_of_stands stands
    exact away call busy
  exact (coherent.entry key free).trans
    (coherent.idle key fun ticket keeps => free ticket _).stays

/-! Two calls of one key, one after the other. The second cannot look up the
group of the first. -/

def forgetful (call : Nat) (_ : Nat) : Circumstances :=
  if call = 1 then { faltering with
    fault := some (.internal "store get failed") } else faltering

def firstThenSecond : List Nat := List.replicate 8 0 ++ List.replicate 4 1

def forgotten : System :=
  (System.start 0 fun call => (Invocation.handle (numbered call)).program
    gatherer).run forgetful firstThenSecond

theorem forgotten_parts :
    forgotten.result? 0 = some (.handled (.ok ())) ∧
    forgotten.result? 1 =
      some (.handled (.error (.internal "store get failed"))) ∧
    (forgotten.store.get? ⟨"all"⟩).isSome = true ∧
    forgotten.locks.contains ⟨"all"⟩ = false :=
  ⟨rfl, rfl, rfl, rfl⟩

theorem forgotten_lapsed :
    forgotten.store.groupCount = 1 ∧
    forgotten.locks.contains ⟨"all"⟩ = ((forgotten.store.get? ⟨"all"⟩).isSome &&
      !lapsed (forgotten.under ⟨"all"⟩)) := by
  refine ⟨rfl, entries_agree_unless_lapsed gatherer 0 forgetful (fun call =>
    .handle (numbered call)) firstThenSecond ⟨"all"⟩ fun call => ?_⟩
  have finished :
      ∀ call ∈ firstThenSecond, (forgotten.result? call).isSome := by
    intro call member
    have few : ∀ call ∈ firstThenSecond, call = 0 ∨ call = 1 := by decide
    rcases few call member with rfl | rfl
    · rfl
    · rfl
  have free := System.free_of_finished finished call
  rw [Phase.key?_eq_none free]
  simp

end Collate.Interleaving
