import Collate.Proofs.Queue.Conduct
import Mathlib.Logic.Function.Basic

namespace Collate.Simulation

open Function (update)

/-- Whether what a call relies on at its place holds of a queue. -/
def Stands (queue : Queue) (use : Use) : Place → Prop
  | .offering ticket =>
      ∃ message, use.message? = some message ∧ ⟨ticket, message⟩ ∈ queue.offers
  | .admitted ticket =>
      (∃ message, use.message? = some message ∧
        ⟨ticket, message⟩ ∈ queue.offers) ∧
        queue.isAdmitted ticket = true
  | .atFront ticket => queue.isTurn ticket = true ∧ use.isServed queue = true
  | _ => True

/-- What holds of a queue, of the places of calls with regard to it, and of
those who have begun in the order in which they did: every call has what it
relies on, and the line is that of the calls that are in it. -/
structure Lined (uses : Nat → Use) (queue : Queue) (place : Nat → Place)
    (begun : List Nat) : Prop where
  sound : queue.Sound
  stands : ∀ call, Stands queue (uses call) (place call)
  issued : ∀ call ticket, (place call).ticket? = some ticket →
    ticket < queue.nextTicket
  distinct : ∀ call other ticket, (place call).ticket? = some ticket →
    (place other).ticket? = some ticket → call = other
  line : queue.receivers = begun.filterMap fun call => (place call).receiver?

theorem Use.grab_frame (use : Use) (queue : Queue) :
    (use.grab queue).1.offers = queue.offers ∧
    (use.grab queue).1.receivers = queue.receivers ∧
    (use.grab queue).1.nextTicket = queue.nextTicket ∧
    (use.grab queue).1.capacity = queue.capacity := by
  have frame : queue.take.1.offers = queue.offers ∧
      queue.take.1.receivers = queue.receivers ∧
      queue.take.1.nextTicket = queue.nextTicket ∧
      queue.take.1.capacity = queue.capacity := by
    unfold Queue.take
    cases queue.messages <;> exact ⟨rfl, rfl, rfl, rfl⟩
  cases use with
  | drain => exact ⟨rfl, rfl, rfl, rfl⟩
  | _ => exact frame

theorem Use.grab_sound {queue : Queue} (sound : queue.Sound) (use : Use) :
    (use.grab queue).1.Sound := by
  cases use with
  | drain => exact sound.takeAll
  | _ => exact sound.take

theorem Use.grab_messages (use : Use) (queue : Queue) :
    (use.grab queue).2.handedOut ++ (use.grab queue).1.messages =
      queue.messages := by
  have taken :
      queue.take.2.toList ++ queue.take.1.messages = queue.messages := by
    unfold Queue.take
    cases messages : queue.messages with
    | nil => exact messages
    | cons message rest => rfl
  cases use with
  | drain => exact List.append_nil _
  | _ => exact taken

variable {uses : Nat → Use} {queue after : Queue} {place : Nat → Place}
  {begun : List Nat} {call ticket : Nat} {next : Place} {use : Use}

theorem Stands.of_spares {here : Place} (stands : Stands queue use here)
    (spares : queue.Spares ticket after) (differ : here.ticket? ≠ some ticket) :
    Stands after use here := by
  cases here with
  | fresh => trivial
  | apart => trivial
  | inLine other => trivial
  | offering other =>
      obtain ⟨message, sends, isOffer⟩ := stands
      exact ⟨message, sends,
        spares.offers _ isOffer fun same => differ (congrArg some same)⟩
  | admitted other =>
      obtain ⟨⟨message, sends, isOffer⟩, isAdmitted⟩ := stands
      have apart : other ≠ ticket := fun same => differ (congrArg some same)
      exact ⟨⟨message, sends, spares.offers _ isOffer apart⟩,
        spares.admitted _ apart isAdmitted⟩
  | atFront other =>
      obtain ⟨isTurn, served⟩ := stands
      obtain ⟨still, news⟩ :=
        spares.turn other (fun same => differ (congrArg some same)) isTurn
      refine ⟨still, ?_⟩
      cases use with
      | receive limit => exact news served
      | _ => rfl

namespace Lined

theorem step {begunAfter : List Nat} (lined : Lined uses queue place begun)
    (spares : queue.Spares ticket after)
    (mine : ∀ other, other ≠ call → (place other).ticket? ≠ some ticket)
    (sound : after.Sound) (stands : Stands after (uses call) next)
    (own : ∀ ticket, next.ticket? = some ticket → ticket < after.nextTicket ∧
      ∀ other, other ≠ call → (place other).ticket? ≠ some ticket)
    (line : after.receivers = begunAfter.filterMap
      fun other => (update place call next other).receiver?) :
    Lined uses after (update place call next) begunAfter where
  sound := sound
  stands other := by
    by_cases same : other = call
    · subst same
      rw [Function.update_self]
      exact stands
    · rw [Function.update_of_ne same]
      exact (lined.stands other).of_spares spares (mine other same)
  issued other held found := by
    by_cases same : other = call
    · subst same
      rw [Function.update_self] at found
      exact (own held found).1
    · rw [Function.update_of_ne same] at found
      exact Nat.lt_of_lt_of_le (lined.issued other held found) spares.issued
  distinct left right held foundLeft foundRight := by
    by_cases isLeft : left = call <;> by_cases isRight : right = call
    · exact isLeft.trans isRight.symm
    · subst isLeft
      rw [Function.update_self] at foundLeft
      rw [Function.update_of_ne isRight] at foundRight
      exact absurd foundRight ((own held foundLeft).2 right isRight)
    · subst isRight
      rw [Function.update_self] at foundRight
      rw [Function.update_of_ne isLeft] at foundLeft
      exact absurd foundLeft ((own held foundRight).2 left isLeft)
    · rw [Function.update_of_ne isLeft] at foundLeft
      rw [Function.update_of_ne isRight] at foundRight
      exact lined.distinct left right held foundLeft foundRight
  line := line

theorem done {begunAfter : List Nat} (lined : Lined uses queue place begun)
    (spares : queue.Spares ticket after)
    (mine : ∀ other, other ≠ call → (place other).ticket? ≠ some ticket)
    (sound : after.Sound)
    (line : after.receivers = begunAfter.filterMap
      fun other => (update place call .apart other).receiver?) :
    Lined uses after (update place call .apart) begunAfter :=
  lined.step spares mine sound trivial nofun line

theorem filterMap_update (same : next.receiver? = (place call).receiver?)
    (begun : List Nat) :
    begun.filterMap (fun other => (update place call next other).receiver?) =
      begun.filterMap fun other => (place other).receiver? := by
  refine List.filterMap_congr fun other _ => ?_
  by_cases mine : other = call
  · rw [mine, Function.update_self, same]
  · rw [Function.update_of_ne mine]

theorem filterMap_update_concat (unbegun : call ∉ begun) (next : Place) :
    (begun ++ [call]).filterMap
      (fun other => (update place call next other).receiver?) = begun.filterMap
        (fun other => (place other).receiver?) ++ next.receiver?.toList := by
  rw [List.filterMap_append]
  congr 1
  · refine List.filterMap_congr fun other earlier => ?_
    have differ : other ≠ call := fun same => unbegun (same ▸ earlier)
    rw [Function.update_of_ne differ]
  · cases found : next.receiver? with
    | none => simp [Function.update_self, found]
    | some ticket => simp [Function.update_self, found]

theorem ticket?_of_receiver? {here : Place}
    (found : here.receiver? = some ticket) : here.ticket? = some ticket := by
  cases here <;> first | exact found | cases found

theorem filterMap_update_leave (lined : Lined uses queue place begun)
    (here : (place call).receiver? = some ticket) :
    begun.filterMap (fun other => (update place call .apart other).receiver?) =
      (begun.filterMap fun other => (place other).receiver?).filter
        fun other => other ≠ ticket := by
  rw [List.filter_filterMap]
  refine List.filterMap_congr fun other _ => ?_
  by_cases mine : other = call
  · rw [mine, Function.update_self, here]
    simp [Place.receiver?, Option.filter]
  · rw [Function.update_of_ne mine]
    cases found : (place other).receiver? with
    | none => rfl
    | some held =>
        have differ : held ≠ ticket := by
          rintro rfl
          exact mine (lined.distinct other call held
            (ticket?_of_receiver? found) (ticket?_of_receiver? here))
        simp [Option.filter, differ]

variable (lined : Lined uses queue place begun)

include lined

theorem unissued (other : Nat) :
    (place other).ticket? ≠ some queue.nextTicket :=
  fun found => Nat.lt_irrefl _ (lined.issued other _ found)

theorem mine (here : (place call).ticket? = some ticket) (other : Nat)
    (differ : other ≠ call) : (place other).ticket? ≠ some ticket :=
  fun found => differ (lined.distinct other call ticket found here)

theorem begin (unbegun : call ∉ begun) :
    Lined uses queue (update place call .apart) (begun ++ [call]) := by
  refine lined.done (.refl queue.nextTicket queue)
    (fun other _ => lined.unissued other) lined.sound ?_
  rw [filterMap_update_concat unbegun, lined.line]
  exact (List.append_nil _).symm

theorem proceed (sameTicket : next.ticket? = (place call).ticket?)
    (sameReceiver : next.receiver? = (place call).receiver?)
    (stands : Stands queue (uses call) next) :
    Lined uses queue (update place call next) begun := by
  refine lined.step (.refl queue.nextTicket queue) (fun other _ =>
    lined.unissued other) lined.sound stands (fun ticket found => ?_) ?_
  · rw [sameTicket] at found
    exact ⟨lined.issued call ticket found, lined.mine found⟩
  · rw [filterMap_update sameReceiver, lined.line]

theorem offer {message : Message} (sends : (uses call).message? = some message)
    (apart : place call = .apart) :
    Lined uses (queue.offer message).1
      (update place call (.offering queue.nextTicket)) begun := by
  refine lined.step (queue.spares_offer message queue.nextTicket)
    (fun other _ => lined.unissued other) (lined.sound.offer message) ?_ ?_ ?_
  · exact ⟨message, sends, List.mem_append_right _ List.mem_cons_self⟩
  · rintro ticket ⟨rfl⟩
    exact ⟨Nat.lt_succ_self _, fun other _ => lined.unissued other⟩
  · rw [filterMap_update (by rw [apart]; rfl)]
    exact lined.line

theorem withdraw (here : place call = .offering ticket) :
    Lined uses (queue.withdraw ticket) (update place call .apart) begun := by
  refine lined.done (queue.spares_withdraw ticket)
    (lined.mine (by rw [here]; rfl)) (lined.sound.withdraw ticket) ?_
  rw [filterMap_update (by rw [here]; rfl)]
  exact lined.line

theorem accept (here : place call = .admitted ticket) :
    Lined uses (queue.accept ticket) (update place call .apart) begun ∧
      (queue.accept ticket).capacity = queue.capacity ∧
      ∃ message, (uses call).message? = some message ∧
        (queue.accept ticket).messages = queue.messages ++ [message] := by
  have stands := lined.stands call
  rw [here] at stands
  obtain ⟨⟨message, sends, isOffer⟩, isAdmitted⟩ := stands
  have first := lined.sound.mem_of_isAdmitted isOffer isAdmitted
  have accepted : queue.accept ticket =
      { queue.withdraw ticket with messages := queue.messages ++ [message] } :=
    lined.sound.accept_eq first
  refine ⟨lined.done (lined.sound.spares_accept first) (lined.mine
    (by rw [here]; rfl)) (lined.sound.accept first) ?_, ?_, message, sends, ?_⟩
  · rw [filterMap_update (by rw [here]; rfl), ← lined.line, accepted]
    rfl
  · rw [accepted]
    rfl
  · rw [accepted]

theorem approach (unbegun : call ∉ begun) :
    Lined uses queue.approach.1 (update place call (.inLine queue.nextTicket))
      (begun ++ [call]) := by
  refine lined.step (queue.spares_approach queue.nextTicket)
    (fun other _ => lined.unissued other) lined.sound.approach trivial ?_ ?_
  · rintro ticket ⟨rfl⟩
    exact ⟨Nat.lt_succ_self _, fun other _ => lined.unissued other⟩
  · rw [filterMap_update_concat unbegun, ← lined.line]
    rfl

theorem leave (here : (place call).receiver? = some ticket) :
    Lined uses (queue.leave ticket) (update place call .apart) begun := by
  refine lined.done (queue.spares_leave ticket)
    (lined.mine (ticket?_of_receiver? here)) (lined.sound.leave ticket) ?_
  rw [lined.filterMap_update_leave here, ← lined.line]
  rfl

theorem grab (here : place call = .atFront ticket) :
    Lined uses (((uses call).grab queue).1.leave ticket)
      (update place call .apart) begun := by
  have stands := lined.stands call
  rw [here] at stands
  obtain ⟨offers, receivers, issued, capacity⟩ := (uses call).grab_frame queue
  have parts := congrArg List.length ((uses call).grab_messages queue)
  rw [List.length_append] at parts
  set grabbed := ((uses call).grab queue).1
  have room : queue.room ≤ (grabbed.leave ticket).room := by
    simp only [Queue.room, Queue.leave, capacity]
    omega
  refine lined.done (Queue.spares_taken stands.1 offers room issued) (lined.mine
    (by rw [here]; rfl)) ((Use.grab_sound lined.sound _).leave ticket) ?_
  rw [lined.filterMap_update_leave (by rw [here]; rfl),
    ← lined.line, ← receivers]
  rfl

end Lined

end Collate.Simulation
