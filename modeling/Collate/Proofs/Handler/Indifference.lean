import Collate.Proofs.Handler.Readiness
import Collate.Proofs.Handler.Succession

namespace Collate.Interleaving

variable {likeness : Likeness} {handler other : Handler} {capacity : Nat}
  {left right : Environment} {errands others : Nat → Errand} {order : List Nat}
  {system again : System} {turns turnsToo : Nat → Nat}

theorem map_size_eq {stored other : Option Group}
    (same : Option.Rel likeness.SameGroup stored other) :
    stored.map Group.size = other.map Group.size := by
  cases same with
  | none => rfl
  | some same => simp [Group.size, same.members]

/-- Systems between two errands whose stores hold alike groups. -/
structure Alongside (likeness : Likeness) (system again : System) : Prop where
  stored : ∀ key,
    Option.Rel likeness.SameGroup (system.store.get? key) (again.store.get? key)
  count : system.store.messageCount = again.store.messageCount
  entries : ∀ key, system.locks.contains key = again.locks.contains key

theorem Paused.alongside {pending pendingToo : List Nat}
    (paused : Paused handler capacity left errands pending system)
    (pausedToo : Paused other capacity right others pendingToo again)
    (stored : ∀ key, Option.Rel likeness.SameGroup (system.store.get? key)
      (again.store.get? key)) : Alongside likeness system again where
  stored := stored
  count := paused.sound.messageCount_eq pausedToo.sound
    fun key => map_size_eq (stored key)
  entries key := by
    rw [paused.contains_eq, pausedToo.contains_eq,
      Likeness.isSome_eq (stored key)]

section Runs

variable (correlation : handler.correlation = other.correlation)
  (expiry : handler.partialOnExpiry = other.partialOnExpiry)
  (grounds :
    ∀ call turn, likeness.SameGrounds (left call turn) (right call turn))
  (same : ∀ call, likeness.SameErrand (errands call) (others call))

include correlation expiry grounds same

theorem Alongside.run (once : order.Nodup)
    (paused : Paused handler capacity left errands order system)
    (pausedToo : Paused other capacity right others order again)
    (alongside : Alongside likeness system again)
    (completes : system.Completes left turns order)
    (completesToo : again.Completes right turnsToo order) :
    Alongside likeness (system.run left (oneByOne turns order))
      (again.run right (oneByOne turnsToo order)) := by
  induction order generalizing system again with
  | nil => exact alongside
  | cons call rest induction =>
      have works : ∀ call turn, (left call turn).fault = none :=
        fun call turn =>
          (grounds call turn).works
      have worksToo : ∀ call turn, (right call turn).fault = none :=
        fun call turn =>
          (grounds call turn).worksToo
      have split : ([call] ++ rest).Nodup := once
      have whole : system.Completes left turns ([call] ++ rest) := completes
      have wholeToo : again.Completes right turnsToo ([call] ++ rest) :=
        completesToo
      obtain ⟨first, later⟩ := whole.parts split
      obtain ⟨firstToo, laterToo⟩ := wholeToo.parts split
      have come := first call (List.mem_singleton_self call)
      have comeToo := firstToo call (List.mem_singleton_self call)
      rw [← List.singleton_append, System.run_oneByOne_append,
        System.run_oneByOne_append]
      rw [oneByOne_singleton] at come comeToo later laterToo ⊢
      rw [oneByOne_singleton]
      obtain ⟨pausedNext, stored, -⟩ := paused.next works once come
      obtain ⟨pausedNextToo, storedToo, -⟩ :=
        pausedToo.next worksToo once comeToo
      refine induction (List.nodup_cons.mp once).2 pausedNext pausedNextToo
        (pausedNext.alongside pausedNextToo fun key => ?_) later laterToo
      have room : system.store.hasRoom = again.store.hasRoom := by
        rw [paused.hasRoom_eq, pausedToo.hasRoom_eq, alongside.count]
      rw [stored key, storedToo key, room]
      exact (Likeness.sameUpshot (grounds call) (alongside.stored key)
        correlation expiry (same call) again.store.hasRoom key).stored

end Runs

/-- Two runs of the same errands, each done before the next begins, may differ
arbitrarily in what the processor answers, in routers and discard channels, and
in what becomes of every message that is sent: after each errand, both have
alike groups under the same keys, the same number of messages, and the same
entries in the lock table. -/
theorem stored_alike_however_processed {likeness : Likeness}
    {handler other : Handler}
    {left right : Environment} {errands others : Nat → Errand}
    (correlation : handler.correlation = other.correlation)
    (expiry : handler.partialOnExpiry = other.partialOnExpiry)
    (grounds :
      ∀ call turn, likeness.SameGrounds (left call turn) (right call turn))
    (same : ∀ call, likeness.SameErrand (errands call) (others call))
    (capacity : Nat) {order : List Nat} (once : order.Nodup) :
    let system := System.start capacity
        fun call => (errands call).invocation.program handler
    let again :=
      System.start capacity fun call => (others call).invocation.program other
    (∃ turns, system.Completes left turns order) ∧
    (∃ turns, again.Completes right turns order) ∧
    ∀ turns turnsToo, system.Completes left turns order →
      again.Completes right turnsToo order →
      ∀ done, done <+: order →
        Alongside likeness (system.run left (oneByOne turns done))
          (again.run right (oneByOne turnsToo done)) := by
  intro system again
  have paused :
      ∀ pending, Paused handler capacity left errands pending system :=
    Paused.start fun call turn => (grounds call turn).works
  have pausedToo :
      ∀ pending, Paused other capacity right others pending again :=
    Paused.start fun call turn => (grounds call turn).worksToo
  refine ⟨?_, ?_, ?_⟩
  · exact (paused order).coherent.exists_oneByOne (fun _ => rfl) once
  · exact (pausedToo order).coherent.exists_oneByOne (fun _ => rfl) once
  · rintro turns turnsToo completes completesToo done ⟨rest, rfl⟩
    have alongside : Alongside likeness system again :=
      (paused []).alongside (pausedToo []) fun key => .none
    exact alongside.run correlation expiry grounds same
      (List.nodup_append.mp once).1 (paused done) (pausedToo done)
      (completes.parts once).1 (completesToo.parts once).1

/-! Two parts that are released, and the first of them again, which is
discarded. In one run the group cannot be processed; in the other it is, but
nothing that is sent arrives. -/

def unreachable : Circumstances :=
  { byTwo with
    generation := 1000
    time := 1000
    process := fun _ => .ok (.many [.payload .null])
    deliver := fun channel _ => .error (.channelClosed channel.name)
    deliverWithin := fun _ _ _ => none }

theorem sameGrounds_unreachable :
    (apart 1000).SameGrounds byTwo unreachable where
  generation := rfl
  time := rfl
  works := rfl
  worksToo := rfl
  judge := by
    intro group other same
    simp [byTwo, unreachable, Release.count, same.unmarked]

def elsewhere : Handler :=
  { gatherer with
    router := { Router.standard with output := some ⟨1, "out"⟩ }
    discardChannel := ⟨2, "elsewhere"⟩ }

def twoParts (call : Nat) : Errand := .handle (part (call % 2))

def parting (handler : Handler) : System :=
  System.start 2 fun call => (twoParts call).invocation.program handler

def inTurn (_ : Nat) : Nat := 18

theorem parting_stored_alike :
    (((parting elsewhere).run (fun _ _ => unreachable)
      (oneByOne inTurn [0, 1, 2])).store.get? ⟨"all"⟩).map
      (fun group => (group.size, group.markedCount)) = some (2, 2) ∧
    Alongside (apart 1000) ((parting gatherer).run
      (fun _ _ => byTwo) (oneByOne inTurn [0, 1, 2])) ((parting elsewhere).run
        (fun _ _ => unreachable) (oneByOne inTurn [0, 1, 2])) := by
  have correlation : gatherer.correlation = elsewhere.correlation := rfl
  have expiry : gatherer.partialOnExpiry = elsewhere.partialOnExpiry := rfl
  have same : ∀ call, (apart 1000).SameErrand (twoParts call) (twoParts call) :=
    fun call => .handle _
  have completes :
      (parting gatherer).Completes (fun _ _ => byTwo) inTurn [0, 1, 2] := by
    intro call member
    simp only [List.mem_cons, List.not_mem_nil, or_false] at member
    rcases member with rfl | rfl | rfl <;> decide +kernel
  have completesToo : (parting elsewhere).Completes (fun _ _ => unreachable)
        inTurn [0, 1, 2] := by
    intro call member
    simp only [List.mem_cons, List.not_mem_nil, or_false] at member
    rcases member with rfl | rfl | rfl <;> decide +kernel
  refine ⟨by decide +kernel, ?_⟩
  exact (stored_alike_however_processed correlation expiry
    (fun _ _ => sameGrounds_unreachable) same 2 (by decide)).2.2 inTurn inTurn
    completes completesToo [0, 1, 2] (List.prefix_refl _)

end Collate.Interleaving
