import Collate.Proofs.Handler.Arrival
import Collate.Proofs.Handler.Correspondence
import Collate.Proofs.Handler.Errands

namespace Collate.Interleaving

/-- A policy and a processor that look at nothing but the group, and the
channels of names. The processor may build messages, which get stamps in
order. -/
structure Setting where
  policy : ReleasePolicy
  processor : Group → (Nat → Stamp) → Except Error Outcome
  resolve : String → Except Error Channel

/-- What is fresh in the turns of each call. -/
structure Supply where
  generation : Nat → Nat → Nat
  stamps : Nat → Nat → Nat → Stamp
  time : Nat → Nat → Int

def Setting.environment (setting : Setting) (supply : Supply) : Environment :=
  fun call turn =>
    { generation := supply.generation call turn
      stamp := supply.stamps call turn 0
      time := supply.time call turn
      fault := none
      judge := setting.policy
      process := fun group => setting.processor group (supply.stamps call turn)
      resolve := setting.resolve
      deliver := fun _ _ => .ok ()
      deliverWithin := fun _ _ _ => some (.ok ())
      rank := fun _ => 0 }

namespace Likeness

variable (likeness : Likeness)

/-- A policy and a processor that make no difference between groups that are
alike. -/
structure Respects (setting : Setting) : Prop where
  policy : ∀ left right, likeness.SameGroup left right →
    setting.policy left = setting.policy right
  processor : ∀ left right stamps others, likeness.SameGroup left right →
    (∀ index, likeness.stamp (stamps index) (others index)) →
    SameResult likeness.SameOutcome (setting.processor left stamps)
      (setting.processor right others)

structure SameSupply (left right : Supply) : Prop where
  generation : ∀ call turn, likeness.generation (left.generation call turn)
    (right.generation call turn)
  stamp : ∀ call turn index, likeness.stamp (left.stamps call turn index)
    (right.stamps call turn index)
  time : ∀ call turn, likeness.time (left.time call turn) (right.time call turn)

inductive SameErrand : Errand → Errand → Prop
  | handle (message : Message) : SameErrand (.handle message) (.handle message)
  | forceComplete {seen shown : Group} (same : likeness.SameGroup seen shown) :
      SameErrand (.forceComplete seen) (.forceComplete shown)

def SameSending (left right : Channel × Message) : Prop :=
  left.1 = right.1 ∧ likeness.SameMessage left.2 right.2

/-- Systems that show the same of every key: what is stored, whether there is a
lock, and what was processed, discarded and sent, in order. -/
structure SameEffects (handler : Handler) (left right : System) : Prop where
  stored : ∀ key,
    Option.Rel likeness.SameGroup (left.store.get? key) (right.store.get? key)
  entries : ∀ key, left.locks.contains key = right.locks.contains key
  processings : ∀ key, List.Forall₂ likeness.SameGroup
    (left.processings.filter fun group => group.key = key)
    (right.processings.filter fun group => group.key = key)
  discards : ∀ key,
    ((left.discards handler.discardChannel).filter fun message =>
      handler.correlation message = some key) =
    (right.discards handler.discardChannel).filter fun message =>
      handler.correlation message = some key
  replies : ∀ key,
    List.Forall₂ likeness.SameSending (left.replies key) (right.replies key)

variable {likeness}

theorem Respects.sameCircumstances {setting : Setting}
    (respects : likeness.Respects setting) {supply other : Supply}
    (supplies : likeness.SameSupply supply other) (call turn : Nat) :
    likeness.SameCircumstances (setting.environment supply call turn)
      (setting.environment other call turn) where
  generation := supplies.generation call turn
  stamp := supplies.stamp call turn 0
  time := supplies.time call turn
  works := rfl
  worksToo := rfl
  judge := respects.policy
  process := fun group shown same =>
    respects.processor group shown _ _ same (supplies.stamp call turn)
  resolve := fun _ => rfl
  deliver := fun _ _ => rfl
  deliverWithin := fun _ _ _ _ _ => rfl

theorem SameErrand.key? {errand other : Errand}
    (same : likeness.SameErrand errand other) (handler : Handler) :
    errand.key? handler = other.key? handler := by
  cases same with
  | handle message => rfl
  | forceComplete same => exact congrArg some same.key

theorem SameErrand.course {errand other : Errand}
    (same : likeness.SameErrand errand other)
    (handler : Handler) (key : Key) (ticket claimed : Nat) :
    likeness.SameCourse Eq (errand.course handler key ticket)
      (other.course handler key claimed) := by
  cases same with
  | handle message =>
      apply (sameCourse_receive handler ticket claimed key message).bind
      rintro result _ rfl
      exact .done rfl
  | forceComplete same =>
      apply (sameCourse_finishSeen handler ticket claimed same).bind
      rintro result _ rfl
      exact .done rfl

end Likeness

def Event.ended? (event : Event) : Option (Nat × Result) :=
  match event.act with
  | .left _ (some result) => some (event.call, result)
  | _ => none

theorem Event.ended?_eq_some {event : Event} {call : Nat} {result : Result} :
    event.ended? = some (call, result) ↔
    ∃ keepsEntry, event.act = .left keepsEntry (some result) ∧
      event.call = call := by
  unfold ended?
  split <;> simp_all [and_comm]

namespace Likeness

variable {likeness : Likeness}

namespace SameEvent

variable {left right : Event} (same : likeness.SameEvent left right)

include same

theorem processed? :
    Option.Rel likeness.SameGroup left.processed? right.processed? := by
  cases same with
  | entered => exact .none
  | left => exact .none
  | answered call key question agree =>
      cases question with
      | process group => exact .some group
      | _ => exact .none

theorem discarded? (channel : Channel) :
    Option.Rel Eq (left.discarded? channel) (right.discarded? channel) := by
  have refl : ∀ found : Option Message, Option.Rel Eq found found :=
    fun found => by
    cases found with
    | none => exact .none
    | some message => exact .some rfl
  cases same with
  | entered => exact .none
  | left => exact .none
  | answered call key question agree =>
      cases question with
      | deliver other message =>
          obtain rfl := agree
          exact refl _
      | _ => exact .none

theorem replied? :
    Option.Rel likeness.SameSending left.replied? right.replied? := by
  cases same with
  | entered => exact .none
  | left => exact .none
  | @answered call key _ _ _ question answer reply agree =>
      cases question with
      | deliverWithin limit channel message =>
          obtain rfl : answer = reply := agree
          match answer with
          | none => exact .none
          | some (.error error) => exact .none
          | some (.ok ()) => exact .some ⟨rfl, message⟩
      | _ => exact .none

theorem ended? : left.ended? = right.ended? := by
  cases same <;> rfl

theorem keeps (stays : Bool) :
    (match left.act with
      | .left keepsEntry _ => keepsEntry
      | _ => stays) =
    match right.act with
      | .left keepsEntry _ => keepsEntry
      | _ => stays := by
  cases same <;> rfl

end SameEvent

theorem SameView.entryStays {left right : View}
    (same : likeness.SameView left right) :
    Interleaving.entryStays left.events =
      Interleaving.entryStays right.events := by
  unfold Interleaving.entryStays
  refine List.rel_foldl (P := Eq) (fun stays _ agree event other alike => ?_)
    rfl same.events
  subst agree
  exact alike.keeps stays

theorem SameView.ended_mem {left right : View}
    (same : likeness.SameView left right) {call : Nat}
    {key : Option Key} {keepsEntry : Bool} {result : Result}
    (member : ⟨call, key, .left keepsEntry (some result)⟩ ∈ left.events) :
    ∃ event ∈ right.events, event.ended? = some (call, result) := by
  have equal : left.events.filterMap Event.ended? =
        right.events.filterMap Event.ended? := by
    rw [← List.forall₂_eq_eq_eq]
    refine List.rel_filterMap (fun event other alike => ?_) same.events
    rw [alike.ended?]
    cases other.ended? with
    | none => exact .none
    | some come => exact .some rfl
  refine List.mem_filterMap.mp (equal ▸ List.mem_filterMap.mpr ⟨_, member, rfl⟩)

end Likeness

section Finished

variable {handler : Handler} {environment : Environment}
  {errands : Nat → Errand} {system : System} {call : Nat}
  {schedule order : List Nat} {turns : Nat → Nat}

def isKeyed (handler : Handler) (errands : Nat → Errand) (call : Nat) : Bool :=
  ((errands call).key? handler).isSome

theorem free_serve
    (finished : ∀ call ∈ schedule,
      ((serve handler environment errands schedule).result? call).isSome)
    (call : Nat) :
    ((serve handler environment errands schedule).phase call).ticket? = none :=
  System.free_of_finished finished call

theorem own_serve_of_not_mem (absent : call ∉ schedule) :
    (serve handler environment errands schedule).own call = [] := by
  rw [serve, System.own_run_of_not_mem absent]
  rfl

theorem lockOrder_filter_call (system : System) (call : Nat) :
    (system.lockOrder.filter fun other => other = call) =
      (system.own call).filterMap Event.entrant? := by
  apply filterMap_filter_eq
  intro event _ other found
  rw [(Event.entrant?_eq_some.mp found).2]

variable (coherent : Coherent (serializing handler environment errands) system)

include coherent

theorem entrants_own (finished : (system.result? call).isSome) :
    (system.own call).filterMap Event.entrant? =
      if isKeyed handler errands call then [call] else [] := by
  obtain ⟨result, come⟩ := Option.isSome_iff_exists.mp finished
  rw [(coherent.ends_of_result? come).1, isKeyed]
  cases (errands call).key? handler <;> rfl

theorem lockOrder_filter_key (key : Key) :
    (system.lockOrder.filter fun call => (errands call).key? handler =
      some key) = (system.under key).filterMap Event.entrant? := by
  apply filterMap_filter_eq
  intro event member call found
  obtain ⟨act, rfl⟩ := Event.entrant?_eq_some.mp found
  obtain ⟨name, sameKey, enters⟩ := coherent.enters_of_entered member act
  have keyed : (errands event.call).key? handler = some name := enters
  rw [sameKey, keyed]

theorem isKeyed_of_mem_lockOrder (member : call ∈ system.lockOrder) :
    isKeyed handler errands call = true := by
  obtain ⟨event, eventMember, found⟩ := List.mem_filterMap.mp member
  obtain ⟨act, rfl⟩ := Event.entrant?_eq_some.mp found
  obtain ⟨name, -, enters⟩ := coherent.enters_of_entered eventMember act
  exact Option.isSome_iff_exists.mpr ⟨name, enters⟩

theorem lockOrder_eq_filter
    (finished : ∀ call ∈ order, (system.result? call).isSome)
    (once : order.Nodup) (ordered : system.lockOrder.Sublist order) :
    system.lockOrder = order.filter (isKeyed handler errands) := by
  have keyed :
      system.lockOrder.filter (isKeyed handler errands) = system.lockOrder :=
    List.filter_eq_self.mpr
      fun call member => isKeyed_of_mem_lockOrder coherent member
  have sublist :
      system.lockOrder.Sublist (order.filter (isKeyed handler errands)) :=
    keyed ▸ ordered.filter _
  apply sublist.eq_of_length_le
  refine (List.subperm_of_subset (once.filter _)
    fun call member => ?_).length_le
  obtain ⟨inOrder, isKeyed⟩ := List.mem_filter.mp member
  have entrants := entrants_own coherent (finished call inOrder)
  rw [if_pos isKeyed, ← lockOrder_filter_call] at entrants
  exact List.mem_of_mem_filter (entrants ▸ List.mem_singleton_self call)

theorem replayed_of_free (free : ∀ call, (system.phase call).ticket? = none)
    (key : Key) :
    Replayed environment (fun call ticket => (errands call).course
      handler key ticket) key (system.lockOrder.filter fun call =>
        (errands call).key? handler = some key) (system.view key) := by
  have idle :
      (serializing handler environment errands).idle key (system.view key) := by
    apply coherent.idle_of_outside
    intro call ticket rest phase
    have none := free call
    simp [phase, Phase.ticket?] at none
  rw [lockOrder_filter_key coherent]
  exact idle.2

omit coherent

theorem mem_schedule_of_mem_lockOrder
    (member : call ∈ (serve handler environment errands schedule).lockOrder) :
    call ∈ schedule := by
  by_contra absent
  have none :=
    lockOrder_filter_call (serve handler environment errands schedule) call
  rw [own_serve_of_not_mem absent] at none
  exact List.filter_eq_nil_iff.mp none call member (decide_eq_true rfl)

variable (works : ∀ call turn, (environment call turn).fault = none)

include works

theorem nodup_lockOrder
    (finished : ∀ call ∈ schedule,
      ((serve handler environment errands schedule).result? call).isSome) :
    (serve handler environment errands schedule).lockOrder.Nodup := by
  have coherent : Coherent (serializing handler environment errands)
        (serve handler environment errands schedule) :=
    coherent_serve works schedule
  apply List.nodup_iff_count_le_one.mpr
  intro call
  have count := congrArg List.length
    (lockOrder_filter_call (serve handler environment errands schedule) call)
  rw [List.count_eq_length_filter]
  apply le_of_eq_of_le count
  by_cases member : call ∈ schedule
  · rw [entrants_own coherent (finished call member)]
    split <;> simp
  · simp [own_serve_of_not_mem member]

theorem lockOrder_oneByOne (once : order.Nodup)
    (finished : ∀ call ∈ order,
      ((serve handler environment errands (oneByOne turns order)).result?
        call).isSome) :
    (serve handler environment errands (oneByOne turns order)).lockOrder =
      order.filter (isKeyed handler errands) := by
  have coherent : Coherent (serializing handler environment errands)
        (serve handler environment errands (oneByOne turns order)) :=
    coherent_serve works _
  have trace : (serve handler environment errands
      (oneByOne turns order)).trace = order.flatMap
        (serve handler environment errands (oneByOne turns order)).own :=
    System.trace_oneByOne once fun _ _ => rfl
  rw [System.lockOrder, trace, List.filterMap_flatMap,
    ← List.filterMap_eq_filter, List.filterMap_eq_flatMap_toList]
  apply List.flatMap_congr
  intro call member
  rw [entrants_own coherent (finished call member), Option.guard]
  split <;> rfl

end Finished

section Runs

variable {likeness : Likeness} {handler : Handler}
  {environment surroundings : Environment} {errands others : Nat → Errand}
  {left right : System}

theorem sameView_of_lockOrder
    (coherent : Coherent (serializing handler environment errands) left)
    (again : Coherent (serializing handler surroundings others) right)
    (agree : ∀ call turn,
      likeness.SameCircumstances (environment call turn) (surroundings call
        turn)) (same : ∀ call, likeness.SameErrand (errands call) (others call))
    (free : ∀ call, (left.phase call).ticket? = none)
    (freeToo : ∀ call, (right.phase call).ticket? = none)
    (order : left.lockOrder = right.lockOrder) (key : Key) :
    likeness.SameView (left.view key) (right.view key) := by
  have replayed := replayed_of_free coherent free key
  have replayedToo := replayed_of_free again freeToo key
  rw [order] at replayed
  simp only [fun call => (same call).key? handler] at replayed
  exact Likeness.sameView_of_replayed agree (fun call ticket claimed =>
    (same call).course handler key ticket claimed) replayed replayedToo

theorem sameEffects_of_sameView
    (coherent : Coherent (serializing handler environment errands) left)
    (again : Coherent (serializing handler surroundings others) right)
    (free : ∀ call, (left.phase call).ticket? = none)
    (freeToo : ∀ call, (right.phase call).ticket? = none)
    (same : ∀ key, likeness.SameView (left.view key) (right.view key)) :
    likeness.SameEffects handler left right where
  stored := fun key => (same key).stored
  entries := fun key => by
    rw [coherent.contains_of_free free, again.contains_of_free freeToo]
    exact (same key).entryStays
  processings := fun key => by
    rw [coherent.processings_of_key serializing_confines,
      again.processings_of_key serializing_confines]
    exact List.rel_filterMap (fun _ _ alike => alike.processed?)
      (same key).events
  discards := fun key => by
    rw [coherent.discards_of_key serializing_confines,
      again.discards_of_key serializing_confines, ← List.forall₂_eq_eq_eq]
    exact List.rel_filterMap (fun _ _ alike => alike.discarded? _)
      (same key).events
  replies := fun key =>
    List.rel_filterMap (fun _ _ alike => alike.replied?) (same key).events

theorem result?_of_sameView
    (coherent : Coherent (serializing handler environment errands) left)
    (again : Coherent (serializing handler surroundings others) right)
    {call : Nat} (errand : likeness.SameErrand (errands call) (others call))
    (same : ∀ key, likeness.SameView (left.view key) (right.view key))
    (finished : (left.result? call).isSome)
    (finishedToo : (right.result? call).isSome) :
    left.result? call = right.result? call := by
  obtain ⟨result, come⟩ := Option.isSome_iff_exists.mp finished
  obtain ⟨other, comeToo⟩ := Option.isSome_iff_exists.mp finishedToo
  obtain ⟨-, leaves, reports⟩ := coherent.ends_of_result? come
  obtain ⟨-, -, reportsToo⟩ := again.ends_of_result? comeToo
  cases found : (errands call).key? handler with
  | some key =>
      obtain ⟨keepsEntry, leaving⟩ := leaves key found
      have member : ⟨call, some key, .left keepsEntry (some result)⟩ ∈
            (left.view key).events :=
        List.mem_filter.mpr ⟨List.mem_of_mem_filter leaving, by simp⟩
      obtain ⟨event, eventMember, ended⟩ := (same key).ended_mem member
      obtain ⟨kept, act, rfl⟩ := Event.ended?_eq_some.mp ended
      have phase :=
        again.settled event (List.mem_of_mem_filter eventMember) kept result act
      rw [come, System.result?_of_phase phase]
  | none =>
      generalize errands call = mine,
        others call = theirs at errand found reports reportsToo
      cases errand with
      | handle message =>
          rw [come, comeToo, reports message rfl found,
            reportsToo message rfl found]
      | forceComplete => simp [Errand.key?] at found

end Runs

/-- Errands of a handler that alone uses an unbounded store get the locks of
their keys in some order, each at most once. If they are done one after another
in this order, each comes to its end, and however they have interleaved, all has
come out alike but for what is fresh: what each errand has come to, what is
stored of every key and whether it has a lock, and what was processed, discarded
and sent for it, in order. -/
theorem interleaved_like_oneByOne {handler : Handler} {setting : Setting}
    {likeness : Likeness} {supply other : Supply}
    {errands others : Nat → Errand} (respects : likeness.Respects setting)
    (supplies : likeness.SameSupply supply other)
    (same : ∀ call, likeness.SameErrand (errands call) (others call))
    {schedule : List Nat}
    (finished : ∀ call ∈ schedule,
      ((serve handler (setting.environment supply) errands schedule).result?
        call).isSome) :
    let interleaved :=
      serve handler (setting.environment supply) errands schedule
    interleaved.lockOrder.Nodup ∧
      (∀ call ∈ interleaved.lockOrder, call ∈ schedule) ∧
    ∀ order : List Nat, order.Nodup → (∀ call, call ∈ order ↔ call ∈ schedule) →
      interleaved.lockOrder.Sublist order →
      (∃ turns, ∀ call ∈ order, ((serve handler (setting.environment other)
        others (oneByOne turns order)).result? call).isSome) ∧
      ∀ turns,
        let serial := serve handler (setting.environment other) others
            (oneByOne turns order)
        (∀ call ∈ order, (serial.result? call).isSome) →
        serial.lockOrder = interleaved.lockOrder ∧
        (∀ call ∈ order, interleaved.result? call = serial.result? call) ∧
        likeness.SameEffects handler interleaved serial := by
  intro interleaved
  have coherent : Coherent (serializing handler (setting.environment supply)
      errands) interleaved :=
    coherent_serve (fun _ _ => rfl) schedule
  refine ⟨nodup_lockOrder (fun _ _ => rfl) finished, fun call member =>
    mem_schedule_of_mem_lockOrder member, fun order once members ordered => ?_⟩
  have finishedInOrder : ∀ call ∈ order, (interleaved.result? call).isSome :=
    fun call member => finished call ((members call).mp member)
  constructor
  · have started : Coherent
          (serializing handler (setting.environment other) others) (System.start
            0 fun call => (others call).invocation.program handler) :=
      coherent_serve (fun _ _ => rfl) []
    exact started.exists_oneByOne (fun _ => rfl) once
  · intro turns serial finishedToo
    have again : Coherent
          (serializing handler (setting.environment other) others) serial :=
      coherent_serve (fun _ _ => rfl) (oneByOne turns order)
    have free : ∀ call, (interleaved.phase call).ticket? = none :=
      free_serve finished
    have freeToo : ∀ call, (serial.phase call).ticket? = none :=
      free_serve
        fun call member => finishedToo call (mem_of_mem_oneByOne member)
    have sameOrder : interleaved.lockOrder = serial.lockOrder := by
      have keyed : isKeyed handler errands = isKeyed handler others :=
        funext fun call => by simp only [isKeyed, (same call).key? handler]
      rw [lockOrder_eq_filter coherent finishedInOrder once ordered, keyed]
      exact (lockOrder_oneByOne (fun _ _ => rfl) once finishedToo).symm
    have views := sameView_of_lockOrder coherent again
        (respects.sameCircumstances supplies) same free freeToo sameOrder
    refine ⟨sameOrder.symm, fun call member => ?_, ?_⟩
    · exact result?_of_sameView coherent again (same call) views
        (finishedInOrder call member) (finishedToo call member)
    · exact sameEffects_of_sameView coherent again free freeToo views

/-! The pair whose second message gets the lock first, and a message without a
key. -/

def aggregatingSetting : Setting where
  policy := Release.sequence false
  processor := fun group stamps => .ok (Processing.aggregate group (stamps 0))
  resolve := fun name => .error (.unknownChannel name)

def numberedFrom (first : Nat) : Supply where
  generation := fun call turn => first + 100 * call + turn
  stamps :=
    fun call turn index => ⟨⟨first + 10000 * call + 100 * turn + index⟩, first⟩
  time := fun _ _ => first

def apart (distance : Nat) : Likeness where
  generation := fun left right => right = left + distance
  stamp := fun left right => right.id.index = left.id.index + distance
  time := fun left right => right = left + distance
  oneToOne := by
    constructor
    · intro left right other same again
      omega
    · intro left right other same again
      omega

def pairErrands (call : Nat) : Errand :=
  .handle (if call < 2 then paired call else .ofPayload .null ⟨⟨call⟩, 0⟩)

theorem pair_like_oneByOne :
    ∃ turns,
      let interleaved :=
        serve pairing (aggregatingSetting.environment (numberedFrom 0))
          pairErrands secondFirst
      let serial :=
        serve pairing (aggregatingSetting.environment (numberedFrom 1000))
          pairErrands (oneByOne turns [1, 2, 0])
      interleaved.result? 0 = serial.result? 0 ∧
        (apart 1000).SameEffects pairing interleaved serial := by
  have respects : (apart 1000).Respects aggregatingSetting :=
    { policy := fun left right same => by
        simp [aggregatingSetting, Release.sequence, same.isComplete]
      processor := fun left right stamps others same stampsAlike => by
        have equal :
            Processing.inSequence left = Processing.inSequence right := by
          simp only [Processing.inSequence, same.unmarked]
        refine .ok (.single (.message ?_))
        refine ⟨?_, ?_, .inr (stampsAlike 0)⟩
        · exact congrArg Processing.commonHeaders equal
        · exact congrArg
            (fun messages => Json.array (messages.map Message.payload)) equal }
  have supplies :
      (apart 1000).SameSupply (numberedFrom 0) (numberedFrom 1000) :=
    { generation := fun call turn => by simp only [apart, numberedFrom]; omega
      stamp := fun call turn index => by simp only [apart, numberedFrom]; omega
      time := fun _ _ => rfl }
  have same :
      ∀ call, (apart 1000).SameErrand (pairErrands call) (pairErrands call) :=
    fun call => .handle _
  have finished : ∀ call ∈ secondFirst, ((serve pairing
      (aggregatingSetting.environment (numberedFrom 0)) pairErrands
      secondFirst).result? call).isSome := by
    intro call member
    have few : ∀ call ∈ secondFirst, call = 0 ∨ call = 1 ∨ call = 2 := by decide
    rcases few call member with rfl | rfl | rfl
    · rfl
    · rfl
    · rfl
  have entered : (serve pairing (aggregatingSetting.environment
      (numberedFrom 0)) pairErrands secondFirst).lockOrder = [1, 0] := rfl
  have listed : ∀ call ∈ [1, 2, 0], call ∈ secondFirst := by decide
  have onlyThese : ∀ call ∈ secondFirst, call ∈ [1, 2, 0] := by decide
  obtain ⟨-, -, alike⟩ :=
    interleaved_like_oneByOne respects supplies same finished
  obtain ⟨⟨turns, ends⟩, serially⟩ := alike [1, 2, 0] (by decide)
    (fun call => ⟨listed call, onlyThese call⟩) (by rw [entered]; decide)
  obtain ⟨-, results, effects⟩ := serially turns ends
  exact ⟨turns, results 0 (by decide), effects⟩

end Collate.Interleaving
