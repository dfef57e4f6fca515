import Collate.Proofs.Handler.Attendance
import Collate.Proofs.Handler.Record
import Collate.Proofs.Interleaving.Advance
import Mathlib.Algebra.Order.Group.Multiset
import Mathlib.Data.List.Dedup
import Mathlib.Tactic.Abel

namespace Collate.Interleaving

def Invocation.brings? (handler : Handler) (key : Key) :
    Invocation → Option Message
  | .handle message =>
      if handler.correlation message = some key then some message else none
  | _ => none

def refusedIn (events : List Event) (call : Nat) : Bool :=
  (events.filter fun event => event.call = call).any Event.refuses

/-- The messages of a key that calls have brought and the store had room for. -/
def accepted (handler : Handler) (calls : Nat → Invocation) (key : Key)
    (events : List Event) (callers : List Nat) : List Message :=
  (callers.filter fun call => !refusedIn events call).filterMap fun call =>
    (calls call).brings? handler key

def System.finished (system : System) : List Nat :=
  (system.trace.map Event.call).dedup.filter
    fun call => (system.result? call).isSome

variable {discipline : Discipline} {handler : Handler}
  {calls : Nat → Invocation} {key : Key} {call other : Nat}
  {events new : List Event}

theorem refusedIn_append_of_ne (mine : ∀ event ∈ new, event.call = call)
    (different : other ≠ call) :
    refusedIn (events ++ new) other = refusedIn events other := by
  have none : (new.filter fun event => event.call = other) = [] := by
    apply List.filter_eq_nil_iff.mpr
    intro event member same
    rw [mine event member] at same
    exact different (of_decide_eq_true same).symm
  rw [refusedIn, List.filter_append, none, List.append_nil, refusedIn]

theorem refusedIn_append_self (mine : ∀ event ∈ new, event.call = call)
    (first : (events.filter fun event => event.call = call) = []) :
    refusedIn (events ++ new) call = new.any Event.refuses := by
  have all : (new.filter fun event => event.call = call) = new :=
    List.filter_eq_self.mpr
      fun event member => decide_eq_true (mine event member)
  rw [refusedIn, List.filter_append, first, all, List.nil_append]

def takers (handler : Handler) (calls : Nat → Invocation) (key : Key)
    (events : List Event) :
    List Nat :=
  (events.filterMap Event.finisher?).filter
    fun call => ((calls call).brings? handler key).isSome

/-- A key whose messages are all accounted for. -/
structure Balanced (handler : Handler) (calls : Nat → Invocation) (key : Key)
    (view : View) : Prop where
  kept : Kept handler key view.stored
  once : (takers handler calls key view.events).Nodup
  balance : (accepted handler calls key view.events
    (takers handler calls key view.events)).Perm (waiting view.stored ++
      (view.events.filterMap Event.processed?).flatMap Group.unmarked ++
      view.events.filterMap (Event.discarded? handler.discardChannel))

theorem balanced_start : Balanced handler calls key .start where
  kept := kept_none
  once := List.nodup_nil
  balance := List.Perm.refl _

theorem mem_takers :
    call ∈ takers handler calls key events ↔
      (∃ event ∈ events, event.finisher? = some call) ∧
        ((calls call).brings? handler key).isSome := by
  simp [takers]

theorem perm_of_balances {taken incoming waited waits : List Message}
    {processed moreProcessed discarded moreDiscarded : List Message}
    (before : taken.Perm (waited ++ processed ++ discarded))
    (since :
      (incoming ++ waited).Perm (waits ++ moreProcessed ++ moreDiscarded)) :
    (taken ++ incoming).Perm (waits ++ (processed ++ moreProcessed) ++
      (discarded ++ moreDiscarded)) := by
  rw [← Multiset.coe_eq_coe] at before since ⊢
  simp only [← Multiset.coe_add] at before since ⊢
  calc (taken + incoming : Multiset Message)
      = (incoming + waited) + processed + discarded := by rw [before]; abel
    _ = waits + (processed + moreProcessed) + (discarded + moreDiscarded) := by
      rw [since]; abel

theorem accepted_congr {callers : List Nat}
    (same : ∀ call ∈ callers, refusedIn new call = refusedIn events call) :
    accepted handler calls key new callers =
      accepted handler calls key events callers := by
  unfold accepted
  rw [List.filter_congr fun call member => by rw [same call member]]

def visitOf (call : Nat) (key : Key) (asked : List Event) (keepsEntry : Bool)
    (result : Option Result) : List Event :=
  [⟨call, some key, .entered⟩] ++ asked ++
    [⟨call, some key, .left keepsEntry result⟩]

section Visits

variable {keepsEntry : Bool} {result : Option Result}

theorem filterMap_visitOf {α : Type} (observe : Event → Option α)
    (entered : observe ⟨call, some key, .entered⟩ = none) :
    (visitOf call key new keepsEntry result).filterMap observe =
      new.filterMap observe ++
        (observe ⟨call, some key, .left keepsEntry result⟩).toList := by
  rw [visitOf, List.filterMap_append, List.filterMap_append]
  simp only [List.filterMap_cons, entered, List.filterMap_nil, List.nil_append]
  cases observe ⟨call, some key, .left keepsEntry result⟩ <;> rfl

theorem call_of_mem_visitOf (mine : ∀ event ∈ new, event.call = call)
    {event : Event} (member : event ∈ visitOf call key new keepsEntry result) :
    event.call = call := by
  simp only [visitOf, List.mem_append, List.mem_singleton] at member
  rcases member with (rfl | member) | rfl
  · rfl
  · exact mine event member
  · rfl

theorem refuses_visitOf :
    (visitOf call key new keepsEntry result).any Event.refuses =
      new.any Event.refuses := by
  simp [visitOf, Event.refuses]

theorem takers_append_visitOf (answers : ∀ event ∈ new, event.IsAnswer)
    (ending : ((calls call).brings? handler key).isSome → result.isSome) :
    takers handler calls key (events ++ visitOf
      call key new keepsEntry result) = takers handler calls key events ++
        ((calls call).brings? handler key).toList.map fun _ => call := by
  have finishers : new.filterMap Event.finisher? = [] := by
    apply List.filterMap_eq_nil_iff.mpr
    intro event member
    obtain ⟨request, answer, act⟩ := answers event member
    simp [Event.finisher?, act]
  unfold takers
  rw [List.filterMap_append, List.filter_append,
    filterMap_visitOf _ rfl, finishers]
  cases brought : (calls call).brings? handler key with
  | none => cases result <;> simp [Event.finisher?, brought]
  | some message =>
      obtain ⟨come, rfl⟩ :=
        Option.isSome_iff_exists.mp (ending (by simp [brought]))
      simp [Event.finisher?, brought]

theorem ne_of_mem_takers
    (first : ((calls call).brings? handler key).isSome →
      (events.filter fun event => event.call = call) = [])
    (member : other ∈ takers handler calls key events) : other ≠ call := by
  rintro rfl
  obtain ⟨⟨event, eventMember, found⟩, brings⟩ := mem_takers.mp member
  have absent := List.filter_eq_nil_iff.mp (first brings) event eventMember
  exact absent (decide_eq_true (Event.call_of_finisher? found))

theorem accepted_append_visitOf (mine : ∀ event ∈ new, event.call = call)
    (answers : ∀ event ∈ new, event.IsAnswer)
    (first : ((calls call).brings? handler key).isSome →
      (events.filter fun event => event.call = call) = [])
    (ending : ((calls call).brings? handler key).isSome → result.isSome) :
    accepted handler calls
      key (events ++ visitOf call key new keepsEntry result) (takers
        handler calls key (events ++ visitOf call key new keepsEntry result)) =
      accepted handler calls key events (takers handler calls key events) ++
        if new.any Event.refuses then []
        else ((calls call).brings? handler key).toList := by
  have visited :
      ∀ event ∈ visitOf call key new keepsEntry result, event.call = call :=
    fun event member => call_of_mem_visitOf mine member
  have unchanged : accepted handler calls key (events ++ visitOf call key new
      keepsEntry result) (takers handler calls key events) =
        accepted handler calls key events (takers handler calls key events) :=
    accepted_congr fun other member =>
      refusedIn_append_of_ne visited (ne_of_mem_takers first member)
  rw [takers_append_visitOf answers ending, ← unchanged]
  unfold accepted
  rw [List.filter_append, List.filterMap_append]
  cases brought : (calls call).brings? handler key with
  | none => simp
  | some message =>
      have refused := refusedIn_append_self visited (first (by simp [brought]))
      rw [refuses_visitOf] at refused
      simp only [Option.toList_some, List.map_cons, List.map_nil,
        List.filter_cons, refused, List.filter_nil]
      cases new.any Event.refuses <;> simp [brought]

end Visits

theorem Balanced.leave {view : View} {visit : Visit} {own : List Event}
    {result : Option Result}
    {refused : Bool} (balanced : Balanced handler calls key view)
    (works : discipline.Discards handler)
    (first : ((calls call).brings? handler key).isSome →
      (view.events.filter fun event => event.call = call) = [])
    (ending : ((calls call).brings? handler key).isSome → result.isSome)
    (balances : Balances discipline handler call key ((calls call).brings?
      handler key).toList refused ⟨own, view.enter call key⟩ visit) :
    Balanced handler calls key (visit.view.leave call key result) := by
  obtain ⟨processed, discarded, ⟨new, grows, rfl, discards, rfl⟩, kept,
      account⟩ := balances
  obtain rfl := discards works
  have mine : ∀ event ∈ new, event.call = call :=
    fun event member => (grows.mine event member).1
  have answers : ∀ event ∈ new, event.IsAnswer := fun event member =>
    (grows.mine event member).2.2
  have eventsAfter : (visit.view.leave call key result).events =
      view.events ++ visitOf call key new visit.view.keepsEntry result := by
    simp [View.leave, grows.events, View.enter, visitOf]
  constructor
  · exact kept
  · rw [eventsAfter, takers_append_visitOf answers ending]
    refine List.nodup_append.mpr ⟨balanced.once, ?_, ?_⟩
    · cases (calls call).brings? handler key <;> simp
    · intro other member taker isTaker
      obtain ⟨message, -, rfl⟩ := List.mem_map.mp isTaker
      exact ne_of_mem_takers first member
  · have processed :
        (visitOf call key new visit.view.keepsEntry result).filterMap
          Event.processed? = new.filterMap Event.processed? := by
      rw [filterMap_visitOf _ rfl]
      exact List.append_nil _
    have discarded : (visitOf call key new visit.view.keepsEntry
        result).filterMap (Event.discarded? handler.discardChannel) =
          new.filterMap (Event.discarded? handler.discardChannel) := by
      rw [filterMap_visitOf _ rfl]
      exact List.append_nil _
    rw [eventsAfter, accepted_append_visitOf mine answers first ending,
      List.filterMap_append, List.filterMap_append, List.flatMap_append,
      processed, discarded]
    exact perm_of_balances balanced.balance account

def conserving (handler : Handler) (capacity : Nat) (environment : Environment)
    (calls : Nat → Invocation) : Discipline where
  capacity := capacity
  environment := environment
  enters _ _ := True
  allows key _ request := Concerns handler key request
  idle := Balanced handler calls
  ends call own result :=
    ∀ message, calls call = .handle message →
      (∀ key, handler.correlation message = some key →
        (∃ keepsEntry, ⟨call, some key, .left keepsEntry (some result)⟩ ∈ own) ∧
        (own.filter fun event => event.key = some key).any Event.refuses =
          own.any Event.refuses) ∧
      (own.any Event.refuses = true →
        result = .handled (.error (.storeFull capacity)))

section Conserving

variable {capacity : Nat} {environment : Environment}

theorem conserving_serves
    (works : ∀ call turn, (environment call turn).fault = none) (key : Key) :
    (conserving handler capacity environment calls).Serves handler key where
  works := works
  allows := fun _ _ concerns => concerns

theorem conserving_confines :
    (conserving handler capacity environment calls).Confines handler :=
  fun _ _ _ concerns => concerns

theorem abides_forceComplete
    (works : ∀ call turn, (environment call turn).fault = none)
    (discards : (conserving handler capacity environment calls).Discards
      handler) (bringsNone : ∀ key, (calls call).brings? handler key = none)
    (seen : Group) (own : List Event) (rest : Except Error Bool → Call Result)
    (going : ∀ result own,
      (conserving handler capacity environment calls).Abides
        call .outside own (rest result)) :
    (conserving handler capacity environment calls).Abides call .outside own
      ((handler.forceComplete seen).bind rest) := by
  apply Discipline.abides_locked trivial
  intro ticket view idle _ _
  refine ((conserving_serves works seen.key).ensures_finishSeen rfl
    idle.kept).imp fun value after balances => ⟨?_, going value _⟩
  rw [← Option.toList_none, ← bringsNone seen.key] at balances
  exact idle.leave discards (by simp [bringsNone])
    (by simp [bringsNone]) balances

theorem abides_handle
    (works : ∀ call turn, (environment call turn).fault = none)
    (discards : (conserving handler capacity environment calls).Discards
      handler) {message : Message} (invocation : calls call = .handle message) :
    (conserving handler capacity environment calls).Abides call .outside []
      ((Invocation.handle message).program handler) := by
  have only : ∀ other, calls call = .handle other → other = message :=
    fun other same =>
      Invocation.handle.inj (same.symm.trans invocation)
  cases correlated : handler.correlation message with
  | none =>
      rw [program_handle_none correlated]
      refine Discipline.abides_log (.done fun other same => ?_)
      obtain rfl := only other same
      refine ⟨fun key found => ?_, fun refuses => ?_⟩
      · rw [correlated] at found
        exact absurd found (by simp)
      · simp [Event.refuses] at refuses
  | some key =>
      have brings : (calls call).brings? handler key = some message := by
        simp [invocation, Invocation.brings?, correlated]
      rw [program_handle_some correlated]
      apply Discipline.abides_locked trivial
      intro ticket view idle _ first
      refine ((conserving_serves works key).ensures_receive correlated
        idle.kept).imp fun result after ⟨refused, balances, full⟩ =>
          ⟨?_, .done fun other same => ?_⟩
      · rw [← Option.toList_some, ← brings] at balances
        exact idle.leave discards (fun _ => first) (fun _ => rfl) balances
      · obtain ⟨_, _, ⟨new, grows, -, -, refuses⟩, -, -⟩ := balances
        obtain rfl := only other same
        refine ⟨fun name found => ?_, fun isRefused => ?_⟩
        · obtain rfl : key = name :=
            Option.some.inj (correlated.symm.trans found)
          refine ⟨⟨_, List.mem_append_right _ (List.mem_singleton_self _)⟩, ?_⟩
          have all : (new.filter fun event => event.key = some key) = new :=
            List.filter_eq_self.mpr fun event member =>
              decide_eq_true (grows.mine event member).2.1
          simp [grows.own, List.filter_append, all, Event.refuses]
        · refine congrArg Result.handled (full ?_)
          rw [← refuses]
          simpa [grows.own, Event.refuses] using isRefused

theorem abides_conserving
    (works : ∀ call turn, (environment call turn).fault = none)
    (discards : (conserving handler capacity environment calls).Discards
      handler) (call : Nat) :
    (conserving handler capacity environment calls).Abides call .outside []
      ((calls call).program handler) := by
  cases invocation : calls call with
  | handle message => exact abides_handle works discards invocation
  | forceComplete seen =>
      refine abides_forceComplete works discards
        (fun key => by rw [invocation]; rfl) seen []
        _ fun result own => .done ?_
      intro message same
      simp [invocation] at same
  | expire timeout =>
      refine Discipline.abides_sweep
        (fun seen own rest going => abides_forceComplete works discards
          (fun key => by rw [invocation]; rfl) seen own rest going)
        (fun result own => ?_) timeout []
      intro message same
      simp [invocation] at same

variable {system : System}

theorem brings?_eq_some {invocation : Invocation} {message : Message} :
    invocation.brings? handler key = some message ↔
    invocation = .handle message ∧ handler.correlation message = some key := by
  cases invocation with
  | handle brought =>
      simp only [Invocation.brings?, Option.ite_none_right_eq_some,
        Option.some.injEq, Invocation.handle.injEq]
      constructor
      · rintro ⟨correlated, rfl⟩
        exact ⟨rfl, correlated⟩
      · rintro ⟨rfl, correlated⟩
        exact ⟨correlated, rfl⟩
  | _ => simp [Invocation.brings?]

theorem finished_perm_takers
    (coherent : Coherent (conserving handler capacity environment calls) system)
    (balanced : Balanced handler calls key (system.view key)) :
    (system.finished.filter fun call => ((calls call).brings? handler
      key).isSome).Perm (takers handler calls key (system.under key)) := by
  have nodup :=
    (List.nodup_dedup (system.trace.map Event.call)).filter fun call =>
      (system.result? call).isSome
  apply (List.perm_ext_iff_of_nodup (nodup.filter _) balanced.once).mpr
  intro call
  rw [List.mem_filter]
  refine Iff.trans ?_ mem_takers.symm
  apply and_congr_left
  intro brings
  obtain ⟨message, brings⟩ := Option.isSome_iff_exists.mp brings
  obtain ⟨invocation, correlated⟩ := brings?_eq_some.mp brings
  constructor
  · intro isFinished
    obtain ⟨result, come⟩ :=
      Option.isSome_iff_exists.mp (List.mem_filter.mp isFinished).2
    obtain ⟨perKey, -⟩ := coherent.ends_of_result? come message invocation
    obtain ⟨⟨keepsEntry, left⟩, -⟩ := perKey key correlated
    refine ⟨_, List.mem_filter.mpr ⟨List.mem_of_mem_filter left, by simp⟩, rfl⟩
  · rintro ⟨event, member, found⟩
    have inTrace := List.mem_of_mem_filter member
    obtain rfl := Event.call_of_finisher? found
    unfold Event.finisher? at found
    split at found
    · rename_i keepsEntry result left
      have phase := coherent.settled event inTrace keepsEntry result left
      refine List.mem_filter.mpr ⟨?_, ?_⟩
      · exact List.mem_dedup.mpr (List.mem_map_of_mem inTrace)
      · rw [System.result?_of_phase phase]
        rfl
    · simp at found

theorem refusedIn_under
    (coherent : Coherent (conserving handler capacity environment calls) system)
    (isFinished : call ∈ system.finished)
    (brings : ((calls call).brings? handler key).isSome) :
    refusedIn (system.under key) call = refusedIn system.trace call := by
  obtain ⟨result, come⟩ :=
    Option.isSome_iff_exists.mp (List.mem_filter.mp isFinished).2
  obtain ⟨message, brings⟩ := Option.isSome_iff_exists.mp brings
  obtain ⟨invocation, correlated⟩ := brings?_eq_some.mp brings
  obtain ⟨perKey, -⟩ := coherent.ends_of_result? come message invocation
  rw [refusedIn, System.under_filter_call]
  exact (perKey key correlated).2

theorem accepted_perm
    (coherent : Coherent (conserving handler capacity environment calls) system)
    (balanced : Balanced handler calls key (system.view key)) :
    (accepted handler calls key system.trace system.finished).Perm
      (accepted handler calls key (system.under key)
        (takers handler calls key (system.under key))) := by
  have narrowed :
    accepted handler calls key system.trace (system.finished.filter
      fun call => ((calls call).brings? handler key).isSome) =
      accepted handler calls key system.trace system.finished := by
    unfold accepted
    rw [List.filter_filter, List.filterMap_filter, List.filterMap_filter]
    refine congrArg (fun observe => system.finished.filterMap observe)
      (funext fun call => ?_)
    cases (calls call).brings? handler key <;> simp
  rw [← narrowed, ← accepted_congr fun call member =>
    refusedIn_under coherent (List.mem_of_mem_filter member)
      (List.mem_filter.mp member).2]
  exact ((finished_perm_takers coherent balanced).filter _).filterMap _

/-- However the calls of a handler interleave, the messages of a key that
finished calls have brought, and that the store had room for, are those that
wait in the stored group of the key when no call has the lock of the key, those
that were unmarked in processed groups of the key, and those of the key that
were discarded. Messages without a key are nowhere, and neither are those of
calls that have ended with the failure of a full store. -/
theorem messages_conserved (handler : Handler) (capacity : Nat)
    (environment : Environment) (calls : Nat → Invocation)
    (works : ∀ call turn, (environment call turn).fault = none)
    (discards : ∀ call turn message,
      (environment call turn).deliver handler.discardChannel message = .ok ())
    (schedule : List Nat) :
    let system :=
      (System.start capacity fun call => (calls call).program handler).run
        environment schedule
    (∀ key, (∀ call ticket rest, system.phase call ≠ .inside key ticket rest) →
      (accepted handler calls key system.trace system.finished).Perm
        (waiting (system.store.get? key) ++ (system.processings.filter
          fun group => group.key = key).flatMap Group.unmarked ++
          (system.discards handler.discardChannel).filter fun message =>
            handler.correlation message = some key) ∧
      ∀ group, system.store.get? key = some group →
        ∀ message ∈ group.members, handler.correlation message = some key) ∧
    (∀ group ∈ system.processings, ∀ message ∈ group.members,
      handler.correlation message = some group.key) ∧
    (∀ message ∈ system.discards handler.discardChannel,
      (handler.correlation message).isSome) ∧
    (∀ call message result, calls call = .handle message →
      system.result? call = some result →
      refusedIn system.trace call = true →
      result = .handled (.error (.storeFull capacity))) := by
  intro system
  have coherent :
      Coherent (conserving handler capacity environment calls) system :=
    (Coherent.start (fun key => balanced_start)
      (abides_conserving works discards)).run schedule
  refine ⟨fun key free => ?_, ?_, ?_, ?_⟩
  · have balanced : Balanced handler calls key (system.view key) :=
      coherent.idle_of_outside free
    refine ⟨?_, fun group stored => (balanced.kept group stored).members⟩
    rw [coherent.processings_of_key conserving_confines,
      coherent.discards_of_key conserving_confines]
    exact (accepted_perm coherent balanced).trans balanced.balance
  · intro group member
    obtain ⟨event, eventMember, found⟩ := List.mem_filterMap.mp member
    exact (coherent.belongs_of_processed conserving_confines eventMember
      found).2.members
  · intro message member
    obtain ⟨event, eventMember, found⟩ := List.mem_filterMap.mp member
    obtain ⟨key, -, correlated⟩ :=
      coherent.correlation_of_discarded conserving_confines eventMember found
    exact Option.isSome_iff_exists.mpr ⟨key, correlated⟩
  · intro call message result invocation come refused
    exact (coherent.ends_of_result? come message invocation).2 refused

end Conserving

/-! Three calls of one key, of which two bring the same message: it is discarded
once, and the two others are processed, which fails. -/

def faltering : Circumstances where
  generation := 0
  stamp := ⟨⟨0⟩, 0⟩
  time := 0
  fault := none
  judge group := group.size = 2
  process group := .error (.processing group.key.text "no")
  resolve name := .ok ⟨0, name⟩
  deliver _ _ := .ok ()
  deliverWithin _ _ _ := some (.ok ())
  rank _ := 0

def gatherer : Handler where
  correlation _ := some ⟨"all"⟩
  router := .standard
  discardChannel := ⟨0, "discard"⟩
  partialOnExpiry := false

def numbered (number : Nat) : Message := .ofPayload .null ⟨⟨number⟩, 0⟩

def twiceFirst (call : Nat) : Invocation := .handle (numbered (call - 1))

def standing : List Nat :=
  [0, 1, 2] ++ List.replicate 7 0 ++ List.replicate 6 1 ++ List.replicate 12 2

def faltered : System :=
  (System.start 0 fun call => (twiceFirst call).program gatherer).run
    (fun _ _ => faltering) standing

theorem faltered_conserves :
    accepted gatherer twiceFirst ⟨"all"⟩ faltered.trace faltered.finished =
      [numbered 0, numbered 0, numbered 1] ∧
    faltered.store.get? ⟨"all"⟩ = none ∧
    (accepted gatherer twiceFirst ⟨"all"⟩ faltered.trace faltered.finished).Perm
      (waiting (faltered.store.get? ⟨"all"⟩) ++ (faltered.processings.filter
        fun group => group.key = ⟨"all"⟩).flatMap Group.unmarked ++
        (faltered.discards gatherer.discardChannel).filter fun message =>
            gatherer.correlation message = some ⟨"all"⟩) := by
  refine ⟨rfl, rfl, ?_⟩
  refine ((messages_conserved gatherer 0 (fun _ _ => faltering) twiceFirst
    (fun _ _ => rfl) (fun _ _ _ => rfl) standing).1 ⟨"all"⟩ ?_).1
  intro call ticket rest inside
  by_cases turns : call ∈ standing
  · have bound : call < 3 := by
      simp only [standing, List.mem_append, List.mem_replicate, List.mem_cons,
        List.not_mem_nil, or_false] at turns
      omega
    have none : (faltered.phase call).ticket? = none := by
      match call, bound with
      | 0, _ => rfl
      | 1, _ => rfl
      | 2, _ => rfl
    rw [faltered, inside] at none
    simp [Phase.ticket?] at none
  · rw [System.phase_run_of_not_mem turns] at inside
    simp [System.start] at inside

end Collate.Interleaving
