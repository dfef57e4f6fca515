import Collate.Proofs.Handler.Linearization
import Collate.Proofs.Handler.Upshot

namespace Collate.Interleaving

namespace Likeness

variable (likeness : Likeness)

/-- Surroundings in which the store does not fail, and whose fresh numbers and
policies correspond. Processors and channels may be as different as they
like. -/
structure SameGrounds (left right : Circumstances) : Prop where
  generation : likeness.generation left.generation right.generation
  time : likeness.time left.time right.time
  works : left.fault = none
  worksToo : right.fault = none
  judge : ∀ group other, likeness.SameGroup group other →
    left.judge group = right.judge other

structure SameUpshot (left right : Upshot) : Prop where
  stored : Option.Rel likeness.SameGroup left.stored right.stored
  processed : List.Forall₂ likeness.SameGroup left.processed right.processed

variable {likeness}

theorem SameGrounds.empty {left right : Circumstances}
    (grounds : likeness.SameGrounds left right) (key : Key) :
    likeness.SameGroup (.empty key left.generation left.time)
      (.empty key right.generation right.time) where
  key := rfl
  members := rfl
  markedCount := rfl
  generation := grounds.generation
  createdAt := grounds.time
  modifiedAt := grounds.time

theorem SameGroup.remainder {group other : Group}
    (same : likeness.SameGroup group other)
    (isReady : Bool) {time instant : Int} (times : likeness.time time instant) :
    Option.Rel likeness.SameGroup (group.remainder isReady time)
      (other.remainder isReady instant) := by
  unfold Group.remainder
  rw [same.isComplete, same.sequenceSize]
  split
  · exact .none
  · split
    · exact .some same
    · split
      · exact .none
      · exact .some (same.markAll times)

theorem sameUpshot_still {stored other : Option Group}
    (same : Option.Rel likeness.SameGroup stored other) :
    likeness.SameUpshot { stored, processed := [] }
      { stored := other, processed := [] } :=
  ⟨same, .nil⟩

theorem isSome_eq {stored other : Option Group}
    (same : Option.Rel likeness.SameGroup stored other) :
    stored.isSome = other.isSome := by
  cases same <;> rfl

section Upshots

variable {left right : Nat → Circumstances}
  (grounds : ∀ turn, likeness.SameGrounds (left turn) (right turn))
  {stored other : Option Group}
  (same : Option.Rel likeness.SameGroup stored other)

include grounds same

theorem sameUpshot_admitted (turn : Nat) (hasRoom : Bool) (key : Key)
    (message : Message) :
    likeness.SameUpshot (admitted left turn hasRoom key message stored)
      (admitted right turn hasRoom key message other) := by
  cases hasRoom with
  | false => exact sameUpshot_still same
  | true =>
      have sum := (sameGroup_getD same ((grounds turn).empty key)).add message
          (grounds turn).time
      have verdict := (grounds (turn + 3)).judge _ _ sum
      simp only [admitted, if_true, verdict]
      refine ⟨sum.remainder _ (grounds (turn + 5)).time, ?_⟩
      simp only
      split
      · exact .cons sum .nil
      · exact .nil

theorem sameUpshot_received (turn : Nat) (hasRoom : Bool) (key : Key)
    (message : Message) :
    likeness.SameUpshot (received left turn hasRoom key message stored)
      (received right turn hasRoom key message other) := by
  have loaded := sameGroup_getD same ((grounds turn).empty key)
  simp only [received, loaded.canAdd message, isSome_eq same]
  split
  · exact sameUpshot_admitted grounds same _ hasRoom key message
  · exact sameUpshot_still same

theorem sameUpshot_finished (turn : Nat) {handler second : Handler}
    (expiry : handler.partialOnExpiry = second.partialOnExpiry)
    {seen shown : Group} (alike : likeness.SameGroup seen shown) :
    likeness.SameUpshot (finished left turn handler seen stored)
      (finished right turn second shown other) := by
  cases same with
  | none => exact ⟨.none, .nil⟩
  | @some group inOther held =>
      have generations : group.generation = seen.generation ↔
          inOther.generation = shown.generation :=
        Relator.rel_eq likeness.oneToOne held.generation alike.generation
      have verdict := (grounds (turn + 2)).judge _ _ held
      simp only [finished, ne_eq, generations, verdict, expiry]
      split
      · exact sameUpshot_still (.some held)
      · refine ⟨.none, ?_⟩
        simp only
        split
        · exact .cons held .nil
        · exact .nil

theorem sameUpshot {handler second : Handler}
    (correlation : handler.correlation = second.correlation)
    (expiry : handler.partialOnExpiry = second.partialOnExpiry)
    {errand errandToo : Errand} (errands : likeness.SameErrand errand errandToo)
    (hasRoom : Bool) (key : Key) :
    likeness.SameUpshot (errand.upshot handler left hasRoom key stored)
      (errandToo.upshot second right hasRoom key other) := by
  have keys : errand.key? handler = errandToo.key? second := by
    rw [errands.key? handler]
    cases errandToo <;> simp [Errand.key?, correlation]
  unfold Errand.upshot
  rw [keys]
  split
  · cases errands with
    | handle message =>
        exact sameUpshot_received grounds same 2 hasRoom key message
    | forceComplete alike =>
        exact sameUpshot_finished grounds same 2 expiry alike
  · exact sameUpshot_still same

end Upshots

end Likeness

section Order

variable {environment : Environment} {system : System} {turns : Nat → Nat}
  {first : Nat} {rest order done : List Nat}

def System.Completes (system : System) (environment : Environment)
    (turns : Nat → Nat) (order : List Nat) : Prop :=
  ∀ call ∈ order,
    ((system.run environment (oneByOne turns order)).result? call).isSome

theorem System.run_oneByOne_append (system : System) (environment : Environment)
    (turns : Nat → Nat) (done rest : List Nat) :
    system.run environment (oneByOne turns (done ++ rest)) =
      (system.run environment (oneByOne turns done)).run environment
        (oneByOne turns rest) := by
  rw [oneByOne, List.flatMap_append, System.run_append]
  rfl

theorem System.result?_run_of_not_mem {call : Nat} {schedule : List Nat}
    (absent : call ∉ schedule) :
    (system.run environment schedule).result? call = system.result? call := by
  rw [System.result?, System.phase_run_of_not_mem absent]
  rfl

theorem System.Completes.parts
    (completes : system.Completes environment turns (done ++ rest))
    (once : (done ++ rest).Nodup) :
    system.Completes environment turns done ∧
    (system.run environment (oneByOne turns done)).Completes environment
      turns rest := by
  unfold Completes at completes ⊢
  rw [run_oneByOne_append] at completes
  constructor
  · intro call member
    have absent : call ∉ oneByOne turns rest := fun turn =>
      (List.disjoint_of_nodup_append once) member (mem_of_mem_oneByOne turn)
    rw [← result?_run_of_not_mem absent]
    exact completes call (List.mem_append_left _ member)
  · exact fun call member => completes call (List.mem_append_right _ member)

theorem oneByOne_singleton (turns : Nat → Nat) (call : Nat) :
    oneByOne turns [call] = List.replicate (turns call) call := by
  simp [oneByOne]

end Order

structure Paused (handler : Handler) (capacity : Nat)
    (environment : Environment) (errands : Nat → Errand) (pending : List Nat)
    (system : System) : Prop where
  coherent : Coherent (agreeing capacity environment) system
  sound : system.store.Sound
  free : ∀ call, (system.phase call).ticket? = none
  fresh : ∀ call ∈ pending, system.own call = []
  ready : ∀ call ∈ pending,
    system.phase call = .outside ((errands call).invocation.program handler)

namespace Paused

variable {handler : Handler} {capacity : Nat} {environment : Environment}
  {errands : Nat → Errand} {call : Nat} {rest pending : List Nat}
  {system : System}

theorem start (works : ∀ call turn, (environment call turn).fault = none)
    (pending : List Nat) :
    Paused handler capacity environment errands pending (System.start capacity
      fun call => (errands call).invocation.program handler) where
  coherent :=
    Coherent.start (fun _ => agrees_start) fun _ => agreeing_program works _
  sound := (Store.empty_sound capacity).subscribe _
  free _ := rfl
  fresh _ _ := rfl
  ready _ _ := rfl

theorem isProper
    (paused : Paused handler capacity environment errands pending system)
    (key : Key) : IsProper key (system.store.get? key) :=
  fun _ held => paused.sound.proper_of_get? held

theorem hasRoom_eq
    (paused : Paused handler capacity environment errands pending system) :
    system.store.hasRoom =
      (capacity = 0 || system.store.messageCount < capacity) := by
  rw [Store.hasRoom, paused.coherent.capacity]
  rfl

theorem contains_eq
    (paused : Paused handler capacity environment errands pending system)
    (key : Key) :
    system.locks.contains key = (system.store.get? key).isSome := by
  have agrees : Agrees key (system.view key) := by
    apply paused.coherent.idle_of_outside
    intro call ticket rest phase
    have none := paused.free call
    simp [phase, Phase.ticket?] at none
  rw [paused.coherent.contains_of_free paused.free key]
  exact agrees.stays

theorem ended
    (paused : Paused handler capacity environment errands (call :: rest) system)
    (once : (call :: rest).Nodup) {turns : Nat} {result : Result}
    (come : (system.run environment (List.replicate turns call)).result? call =
      some result) :
    Paused handler capacity environment errands rest
      (system.run environment (List.replicate turns call)) := by
  obtain ⟨absent, -⟩ := List.nodup_cons.mp once
  have elsewhere : ∀ other ∈ rest, other ∉ List.replicate turns call := by
    intro other member turn
    rw [List.eq_of_mem_replicate turn] at member
    exact absent member
  refine ⟨paused.coherent.run _, System.sound_run paused.sound _,
    fun other => ?_, ?_, ?_⟩
  · by_cases same : other = call
    · rw [same, System.phase_of_result? come]
      rfl
    · rw [System.phase_run_of_not_mem
        fun turn => same (List.eq_of_mem_replicate turn)]
      exact paused.free other
  · intro other member
    rw [System.own_run_of_not_mem (elsewhere other member)]
    exact paused.fresh other (List.mem_cons_of_mem _ member)
  · intro other member
    rw [System.phase_run_of_not_mem (elsewhere other member)]
    exact paused.ready other (List.mem_cons_of_mem _ member)

theorem next
    (paused : Paused handler capacity environment errands (call :: rest) system)
    (works : ∀ call turn, (environment call turn).fault = none)
    (once : (call :: rest).Nodup) {turns : Nat}
    (finished : ((system.run environment (List.replicate turns call)).result?
      call).isSome) :
    Paused handler capacity environment errands rest
      (system.run environment (List.replicate turns call)) ∧
    (∀ key, (system.run environment (List.replicate turns call)).store.get?
      key = ((errands call).upshot handler (environment call)
        system.store.hasRoom key (system.store.get? key)).stored) ∧
    ∃ groups, (system.run environment (List.replicate turns call)).processings =
      system.processings ++ groups ∧
      ∀ key, (groups.filter fun group => group.key = key) =
        ((errands call).upshot handler (environment call) system.store.hasRoom
          key (system.store.get? key)).processed := by
  obtain ⟨result, come⟩ := Option.isSome_iff_exists.mp finished
  have began : system.own call = [] := paused.fresh call List.mem_cons_self
  have alone : Alone (environment call) ((errands call).invocation.program
    handler) (system.progress call) fun _ after =>
        (errands call).Makes handler (environment call)
          (system.progress call) after := by
    refine Errand.alone_makes (works call) (errands call) ?_ paused.isProper
    simp [System.progress, began]
  have makes := paused.coherent.of_alone (fun other _ => paused.free other)
    (.inl (paused.ready call List.mem_cons_self)) alone come
  obtain ⟨groups, processed, filtered⟩ := makes.processed
  refine ⟨paused.ended once come, makes.stored, groups, ?_, filtered⟩
  obtain ⟨new, trace, own⟩ :=
    System.trace_run_replicate environment system turns call
  rw [began, List.nil_append] at own
  have new_groups : new.filterMap Event.processed? = groups := by
    have here := processed
    simp only [System.progress, began, List.filterMap_nil, List.nil_append]
      at here
    rw [← own]
    exact here
  rw [System.processings, trace, List.filterMap_append, new_groups]
  rfl

end Paused

end Collate.Interleaving
