import Collate.Proofs.Handler.Arrival
import Collate.Proofs.Handler.Indifference

namespace Collate.Interleaving

def upshotOf (handler : Handler) (environment : Environment)
    (errands : Nat → Errand) (key : Key) : List Nat → Option Group → Upshot
  | [], stored => { stored, processed := [] }
  | call :: rest, stored =>
      let first :=
        (errands call).upshot handler (environment call) true key stored
      let later := upshotOf handler environment errands key rest first.stored
      { stored := later.stored, processed :=
          first.processed ++ later.processed }

def ofKey (handler : Handler) (errands : Nat → Errand) (key : Key)
    (order : List Nat) : List Nat :=
  order.filter fun call => (errands call).key? handler = some key

variable {likeness : Likeness} {handler : Handler}
  {environment left right : Environment} {errands others : Nat → Errand}
  {key : Key} {order orderToo : List Nat} {system again : System}
  {turns turnsToo : Nat → Nat}

theorem upshotOf_ofKey (order : List Nat) (stored : Option Group) :
    upshotOf handler environment errands key
      (ofKey handler errands key order) stored =
      upshotOf handler environment errands key order stored := by
  induction order generalizing stored with
  | nil => rfl
  | cons call rest induction =>
      by_cases keyed : (errands call).key? handler = some key
      · have kept : ofKey handler errands key (call :: rest) =
            call :: ofKey handler errands key rest :=
          List.filter_cons_of_pos (by simpa using keyed)
        simp only [kept, upshotOf, induction]
      · have dropped : ofKey handler errands key (call :: rest) =
            ofKey handler errands key rest :=
          List.filter_cons_of_neg (by simpa using keyed)
        rw [dropped, induction]
        simp only [upshotOf, Errand.upshot_of_ne keyed, List.nil_append]

theorem ofKey_ofKey (order : List Nat) :
    ofKey handler errands key (ofKey handler errands key order) =
      ofKey handler errands key order := by
  simp [ofKey, List.filter_filter]

theorem sameUpshot_upshotOf (handler : Handler) (key : Key)
    (grounds :
      ∀ call turn, likeness.SameGrounds (left call turn) (right call turn))
    (same : ∀ call, likeness.SameErrand (errands call) (others call))
    (order : List Nat) {stored other : Option Group}
    (alike : Option.Rel likeness.SameGroup stored other) :
    likeness.SameUpshot (upshotOf handler left errands key order stored)
      (upshotOf handler right others key order other) := by
  induction order generalizing stored other with
  | nil => exact Likeness.sameUpshot_still alike
  | cons call rest induction =>
      have first := Likeness.sameUpshot (grounds call) alike
          (rfl : handler.correlation = _) rfl (same call) true key
      have later := induction first.stored
      exact ⟨later.stored, List.rel_append first.processed later.processed⟩

theorem Paused.run_eq_upshotOf
    (works : ∀ call turn, (environment call turn).fault = none)
    (once : order.Nodup)
    (paused : Paused handler 0 environment errands order system)
    (completes : system.Completes environment turns order) (key : Key) :
    Paused handler 0 environment errands []
      (system.run environment (oneByOne turns order)) ∧
    (system.run environment (oneByOne turns order)).store.get? key = (upshotOf
      handler environment errands key order (system.store.get? key)).stored ∧
    ((system.run environment (oneByOne turns order)).processings.filter
      fun group =>
          group.key = key) =
        (system.processings.filter fun group => group.key = key) ++
          (upshotOf handler environment errands key order
            (system.store.get? key)).processed := by
  induction order generalizing system with
  | nil => exact ⟨paused, rfl, (List.append_nil _).symm⟩
  | cons call rest induction =>
      have whole : system.Completes environment turns ([call] ++ rest) :=
        completes
      obtain ⟨first, later⟩ := whole.parts once
      have come := first call (List.mem_singleton_self call)
      rw [← List.singleton_append, System.run_oneByOne_append]
      rw [oneByOne_singleton] at come later ⊢
      obtain ⟨pausedNext, stored, groups, processings, processed⟩ :=
        paused.next works once come
      obtain ⟨ended, storedLater, processedLater⟩ :=
        induction (List.nodup_cons.mp once).2 pausedNext later
      -- Room is all that one key could take from another, and an unbounded
      -- store always has it.
      have room : system.store.hasRoom = true := by simp [paused.hasRoom_eq]
      rw [stored key, room] at storedLater processedLater
      refine ⟨ended, storedLater, ?_⟩
      rw [processedLater, processings, List.filter_append, processed key, room,
        List.append_assoc]
      rfl

/-- Systems in which a key is alike: what is stored of it, whether it has an
entry in the lock table, and which groups of it have been given to the
processor, in order. -/
structure SameAt (likeness : Likeness) (key : Key)
    (system again : System) : Prop where
  stored :
    Option.Rel likeness.SameGroup (system.store.get? key) (again.store.get? key)
  entry : system.locks.contains key = again.locks.contains key
  processings : List.Forall₂ likeness.SameGroup
    (system.processings.filter fun group => group.key = key)
    (again.processings.filter fun group => group.key = key)

section Runs

variable (grounds :
  ∀ call turn, likeness.SameGrounds (left call turn) (right call turn))
  (same : ∀ call, likeness.SameErrand (errands call) (others call))

include grounds same

theorem sameAt_of_ofKey_eq (once : order.Nodup) (onceToo : orderToo.Nodup)
    (ordered : ofKey handler errands key order = ofKey handler errands key
      orderToo) (completes : (System.start 0 fun call =>
        (errands call).invocation.program handler).Completes left turns order)
    (completesToo : (System.start 0 fun call =>
      (others call).invocation.program handler).Completes right
        turnsToo orderToo) :
    SameAt likeness key ((System.start 0 fun call => (errands
      call).invocation.program handler).run left (oneByOne turns order))
      ((System.start 0 fun call => (others call).invocation.program handler).run
        right (oneByOne turnsToo orderToo)) := by
  obtain ⟨paused, stored, processings⟩ := (Paused.start (fun call turn =>
    (grounds call turn).works) order).run_eq_upshotOf
      (fun call turn => (grounds call turn).works) once completes key
  obtain ⟨pausedToo, storedToo, processingsToo⟩ :=
    (Paused.start (fun call turn =>
      (grounds call turn).worksToo) orderToo).run_eq_upshotOf
        (fun call turn => (grounds call turn).worksToo) onceToo completesToo key
  have alike : likeness.SameUpshot (upshotOf handler left errands key order
      none) (upshotOf handler right others key orderToo none) := by
    have keys : ofKey handler others key orderToo =
          ofKey handler errands key orderToo := by
      simp only [ofKey, fun call => (same call).key? handler]
    rw [← upshotOf_ofKey order, ← upshotOf_ofKey orderToo, keys, ← ordered]
    exact sameUpshot_upshotOf handler key grounds same _ .none
  constructor
  · rw [stored, storedToo]
    exact alike.stored
  · rw [paused.contains_eq, pausedToo.contains_eq, stored, storedToo]
    exact Likeness.isSome_eq alike.stored
  · rw [processings, processingsToo]
    exact alike.processed

end Runs

/-- Whatever the errands of a handler that alone uses an unbounded store do, and
whatever becomes of what they process and send: done one after another, they
leave each key as the errands of the key alone would, with an alike group, with
an entry in the lock table in both cases or in none, and with alike groups given
to the processor in the same order. So errands of different keys may change
places. -/
theorem keys_apart {likeness : Likeness} {handler : Handler}
    {left right : Environment} {errands others : Nat → Errand}
    (grounds :
      ∀ call turn, likeness.SameGrounds (left call turn) (right call turn))
    (same : ∀ call, likeness.SameErrand (errands call) (others call)) :
    let system :=
      System.start 0 fun call => (errands call).invocation.program handler
    let again :=
      System.start 0 fun call => (others call).invocation.program handler
    (∀ order : List Nat, order.Nodup →
      (∃ turns, system.Completes left turns order) ∧
      ∃ turns, again.Completes right turns order) ∧
    (∀ (order : List Nat) (turns turnsToo : Nat → Nat) (key : Key),
      order.Nodup →
        system.Completes left turns order →
        again.Completes right turnsToo (ofKey handler errands key order) →
        SameAt likeness key (system.run left (oneByOne turns order)) (again.run
          right (oneByOne turnsToo (ofKey handler errands key order)))) ∧
    ∀ (order reordered : List Nat) (turns turnsToo : Nat → Nat), order.Nodup →
      reordered.Nodup →
      (∀ key,
        ofKey handler errands key order = ofKey handler errands key reordered) →
      system.Completes left turns order →
      again.Completes right turnsToo reordered →
      ∀ key, SameAt likeness key (system.run left (oneByOne turns order))
        (again.run right (oneByOne turnsToo reordered)) := by
  intro system again
  refine ⟨fun order once => ⟨?_, ?_⟩, ?_, ?_⟩
  · have paused : Paused handler 0 left errands order system :=
      Paused.start (fun call turn => (grounds call turn).works) order
    exact paused.coherent.exists_oneByOne (fun _ => rfl) once
  · have paused : Paused handler 0 right others order again :=
      Paused.start (fun call turn => (grounds call turn).worksToo) order
    exact paused.coherent.exists_oneByOne (fun _ => rfl) once
  · intro order turns turnsToo key once completes completesToo
    exact sameAt_of_ofKey_eq grounds same once (once.filter _)
      (ofKey_ofKey order).symm completes completesToo
  · intro order reordered turns turnsToo once onceToo ordered completes
      completesToo key
    exact sameAt_of_ofKey_eq grounds same once onceToo (ordered key)
      completes completesToo

/-! Parts of two sequences that come in turn, or all of one before the other. -/

def bySize : Handler :=
  { gatherer with
    correlation := fun message => some ⟨toString message.sequenceSize⟩ }

def alternating (call : Nat) : Errand :=
  .handle (if call % 2 = 0 then part (call / 2) else paired (call / 2))

def alternate : System :=
  System.start 0 fun call => (alternating call).invocation.program bySize

theorem alternate_reordered :
    ((alternate.run (fun _ _ => byTwo) (oneByOne inTurn [0, 1, 2,
      3])).processings.filter fun group => group.key = ⟨"2"⟩).length = 1 ∧
    SameAt (apart 1000) ⟨"2"⟩ (alternate.run (fun _ _ => byTwo)
      (oneByOne inTurn [0, 1, 2, 3])) (alternate.run (fun _ _ => unreachable)
        (oneByOne inTurn [1, 3, 0, 2])) := by
  have same :
      ∀ call, (apart 1000).SameErrand (alternating call) (alternating call) :=
    fun call => .handle _
  have completes :
      alternate.Completes (fun _ _ => byTwo) inTurn [0, 1, 2, 3] := by
    intro call member
    simp only [List.mem_cons, List.not_mem_nil, or_false] at member
    rcases member with rfl | rfl | rfl | rfl <;> decide +kernel
  have completesToo :
      alternate.Completes (fun _ _ => unreachable) inTurn [1, 3, 0, 2] := by
    intro call member
    simp only [List.mem_cons, List.not_mem_nil, or_false] at member
    rcases member with rfl | rfl | rfl | rfl <;> decide +kernel
  have ordered : ∀ key, ofKey bySize alternating key [0, 1, 2, 3] =
      ofKey bySize alternating key [1, 3, 0, 2] := by
    intro key
    have four : ∀ call, call = 0 ∨ call = 2 →
        (alternating call).key? bySize = some ⟨"4"⟩ := by
      rintro call (rfl | rfl) <;> rfl
    have two : ∀ call, call = 1 ∨ call = 3 →
        (alternating call).key? bySize = some ⟨"2"⟩ := by
      rintro call (rfl | rfl) <;> rfl
    by_cases isFour : some ⟨"4"⟩ = some key
    · obtain rfl := Option.some.inj isFour
      rfl
    · simp [ofKey, List.filter_cons, four, two, isFour]
  refine ⟨by decide +kernel, ?_⟩
  exact (keys_apart (fun _ _ => sameGrounds_unreachable) same).2.2 [0, 1, 2, 3]
    [1, 3, 0, 2] inTurn inTurn (by decide) (by decide) ordered completes
    completesToo ⟨"2"⟩

end Collate.Interleaving
