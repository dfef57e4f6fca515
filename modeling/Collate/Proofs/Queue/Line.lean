import Collate.Channel.Queue
import Mathlib.Data.List.Nodup

namespace Collate.Queue

/-- What holds of every queue that is used by its own steps alone. -/
structure Sound (queue : Queue) : Prop where
  bounded : queue.messages.length ≤ queue.capacity
  once : (queue.offers.map Offer.ticket).Nodup
  issued : ∀ offer ∈ queue.offers, offer.ticket < queue.nextTicket

/-- What the step of one with a ticket leaves to the others. -/
structure Spares (ticket : Nat) (queue after : Queue) : Prop where
  offers : ∀ offer ∈ queue.offers, offer.ticket ≠ ticket → offer ∈ after.offers
  admitted : ∀ other, other ≠ ticket → queue.isAdmitted other = true →
    after.isAdmitted other = true
  turn : ∀ other, other ≠ ticket → queue.isTurn other = true →
    after.isTurn other = true ∧
    (queue.hasMessage = true → after.hasMessage = true)
  issued : queue.nextTicket ≤ after.nextTicket

variable {queue : Queue} {ticket : Nat} {placed : Offer}

theorem withdraw_eq (queue : Queue) (ticket : Nat) :
    queue.withdraw ticket = { queue with
      offers := queue.offers.filter fun offer => offer.ticket ≠ ticket } := rfl

theorem isAdmitted_iff :
    queue.isAdmitted ticket = true ↔
    ∃ offer ∈ queue.offers.take queue.room, offer.ticket = ticket := by
  simp [isAdmitted]

theorem mem_take_filter {α : Type} {keeps : α → Bool} {list : List α}
    {count room : Nat}
    {value : α} (first : value ∈ list.take count) (kept : keeps value = true)
    (short : ((list.take count).filter keeps).length ≤ room) :
    value ∈ (list.filter keeps).take room := by
  obtain ⟨rest, parts⟩ := (List.take_prefix count list).filter keeps
  rw [← parts, List.take_append, List.take_of_length_le short]
  exact List.mem_append_left _ (List.mem_filter.mpr ⟨first, kept⟩)

namespace Sound

theorem eq_of_ticket (sound : queue.Sound) {left right : Offer}
    (isLeft : left ∈ queue.offers) (isRight : right ∈ queue.offers)
    (same : left.ticket = right.ticket) : left = right :=
  List.inj_on_of_nodup_map sound.once isLeft isRight same

theorem mem_of_isAdmitted (sound : queue.Sound)
    (isOffer : placed ∈ queue.offers)
    (isAdmitted : queue.isAdmitted placed.ticket = true) :
    placed ∈ queue.offers.take queue.room := by
  obtain ⟨other, first, same⟩ := isAdmitted_iff.mp isAdmitted
  obtain rfl := sound.eq_of_ticket (List.mem_of_mem_take first) isOffer same
  exact first

theorem accept_eq (sound : queue.Sound)
    (first : placed ∈ queue.offers.take queue.room) :
    queue.accept placed.ticket = { queue.withdraw placed.ticket with
      messages := queue.messages ++ [placed.message] } := by
  have found : (queue.offers.take queue.room).find?
    (fun offer => offer.ticket = placed.ticket) =
      some placed := by
    cases found : (queue.offers.take queue.room).find?
      fun offer => offer.ticket = placed.ticket with
    | none => simpa using List.find?_eq_none.mp found placed first
    | some other =>
        have same : other.ticket = placed.ticket := by
          simpa using List.find?_some found
        have isOffer := List.mem_of_mem_take (List.mem_of_find?_eq_some found)
        rw [sound.eq_of_ticket isOffer (List.mem_of_mem_take first) same]
  unfold accept
  rw [found]
  rfl

theorem empty (capacity : Nat) : (Queue.empty capacity).Sound where
  bounded := Nat.zero_le _
  once := List.nodup_nil
  issued := by simp [Queue.empty]

theorem offer (sound : queue.Sound) (message : Message) :
    (queue.offer message).1.Sound where
  bounded := sound.bounded
  once := by
    have fresh : queue.nextTicket ∉ queue.offers.map Offer.ticket := by
      intro member
      obtain ⟨offer, isOffer, same⟩ := List.mem_map.mp member
      exact Nat.lt_irrefl _ (same ▸ sound.issued offer isOffer)
    simp only [Queue.offer, List.map_append, List.map_cons, List.map_nil]
    refine List.nodup_append.mpr ⟨sound.once, List.nodup_singleton _, ?_⟩
    rintro earlier isEarlier now isNow rfl
    exact fresh (List.mem_singleton.mp isNow ▸ isEarlier)
  issued := by
    intro offer member
    rcases List.mem_append.mp member with earlier | now
    · exact Nat.lt_succ_of_lt (sound.issued offer earlier)
    · rw [List.mem_singleton.mp now]
      exact Nat.lt_succ_self _

theorem withdraw (sound : queue.Sound) (ticket : Nat) :
    (queue.withdraw ticket).Sound where
  bounded := sound.bounded
  once := sound.once.sublist (List.filter_sublist.map _)
  issued offer member := sound.issued offer (List.mem_of_mem_filter member)

theorem accept (sound : queue.Sound)
    (first : placed ∈ queue.offers.take queue.room) :
    (queue.accept placed.ticket).Sound := by
  have withdrawn := sound.withdraw placed.ticket
  rw [sound.accept_eq first]
  refine ⟨?_, withdrawn.once, withdrawn.issued⟩
  have hasRoom : 0 < queue.room := by
    rw [Nat.pos_iff_ne_zero]
    rintro none
    simp [none] at first
  simp only [List.length_append, List.length_singleton]
  exact Nat.succ_le_of_lt (Nat.lt_of_sub_pos hasRoom)

theorem approach (sound : queue.Sound) : queue.approach.1.Sound where
  bounded := sound.bounded
  once := sound.once
  issued offer member := Nat.lt_succ_of_lt (sound.issued offer member)

theorem leave (sound : queue.Sound) (ticket : Nat) :
    (queue.leave ticket).Sound :=
  ⟨sound.bounded, sound.once, sound.issued⟩

theorem take (sound : queue.Sound) : queue.take.1.Sound := by
  unfold Queue.take
  cases messages : queue.messages with
  | nil => exact sound
  | cons message rest =>
      refine ⟨?_, sound.once, sound.issued⟩
      have bounded := sound.bounded
      rw [messages] at bounded
      exact Nat.le_of_succ_le bounded

theorem takeAll (sound : queue.Sound) : queue.takeAll.1.Sound :=
  ⟨Nat.zero_le _, sound.once, sound.issued⟩

end Sound

theorem Spares.refl (ticket : Nat) (queue : Queue) :
    Spares ticket queue queue where
  offers _ isOffer _ := isOffer
  admitted _ _ isAdmitted := isAdmitted
  turn _ _ isTurn := ⟨isTurn, id⟩
  issued := Nat.le_refl _

theorem spares_offer (queue : Queue) (message : Message) (ticket : Nat) :
    Spares ticket queue (queue.offer message).1 where
  offers _ isOffer _ := List.mem_append_left _ isOffer
  admitted other _ isAdmitted := by
    obtain ⟨offer, first, same⟩ := isAdmitted_iff.mp isAdmitted
    refine isAdmitted_iff.mpr ⟨offer, ?_, same⟩
    show offer ∈ (queue.offers ++ _).take queue.room
    rw [List.take_append]
    exact List.mem_append_left _ first
  turn _ _ isTurn := ⟨isTurn, id⟩
  issued := Nat.le_succ _

theorem spares_withdraw (queue : Queue) (ticket : Nat) :
    Spares ticket queue (queue.withdraw ticket) where
  offers _ isOffer differ :=
    List.mem_filter.mpr ⟨isOffer, decide_eq_true differ⟩
  admitted other differ isAdmitted := by
    obtain ⟨offer, first, rfl⟩ := isAdmitted_iff.mp isAdmitted
    refine isAdmitted_iff.mpr
      ⟨offer, mem_take_filter first (decide_eq_true differ) ?_, rfl⟩
    exact Nat.le_trans (List.length_filter_le _ _) (List.length_take_le _ _)
  turn _ _ isTurn := ⟨isTurn, id⟩
  issued := Nat.le_refl _

theorem Sound.spares_accept (sound : queue.Sound)
    (first : placed ∈ queue.offers.take queue.room) :
    Spares placed.ticket queue (queue.accept placed.ticket) := by
  have withdrawn := spares_withdraw queue placed.ticket
  rw [sound.accept_eq first]
  refine ⟨withdrawn.offers, fun other differ isAdmitted => ?_,
    fun _ _ isTurn => ⟨isTurn, ?_⟩, Nat.le_refl _⟩
  · obtain ⟨offer, among, rfl⟩ := isAdmitted_iff.mp isAdmitted
    refine isAdmitted_iff.mpr
      ⟨offer, mem_take_filter among (decide_eq_true differ) ?_, rfl⟩
    have fewer : ((queue.offers.take queue.room).filter fun offer =>
        decide (offer.ticket ≠ placed.ticket)).length <
          (queue.offers.take queue.room).length :=
      List.length_filter_lt_length_iff_exists.mpr ⟨placed, first, by simp⟩
    have few := List.length_take_le queue.room queue.offers
    have room : ({ queue.withdraw placed.ticket with
        messages := queue.messages ++ [placed.message] } : Queue).room =
          queue.room - 1 := by
      simp only [Queue.room, List.length_append, List.length_singleton]
      exact Nat.sub_add_eq _ _ _
    rw [room]
    omega
  · simp [hasMessage]

theorem spares_approach (queue : Queue) (ticket : Nat) :
    Spares ticket queue queue.approach.1 where
  offers _ isOffer _ := isOffer
  admitted _ _ isAdmitted := isAdmitted
  turn other _ isTurn := by
    refine ⟨?_, id⟩
    unfold Queue.isTurn at isTurn ⊢
    simp only [decide_eq_true_eq] at isTurn ⊢
    simp [approach, isTurn]
  issued := Nat.le_succ _

theorem spares_leave (queue : Queue) (ticket : Nat) :
    Spares ticket queue (queue.leave ticket) where
  offers _ isOffer _ := isOffer
  admitted _ _ isAdmitted := isAdmitted
  turn other differ isTurn := by
    refine ⟨?_, id⟩
    unfold Queue.isTurn at isTurn ⊢
    simp only [decide_eq_true_eq] at isTurn ⊢
    obtain ⟨rest, receivers⟩ := List.head?_eq_some_iff.mp isTurn
    simp [leave, receivers, differ]
  issued := Nat.le_refl _

theorem spares_taken {after : Queue} (isTurn : queue.isTurn ticket = true)
    (offers : after.offers = queue.offers) (room : queue.room ≤ after.room)
    (issued : after.nextTicket = queue.nextTicket) :
    Spares ticket queue after where
  offers offer isOffer _ := by
    rw [offers]
    exact isOffer
  admitted other _ isAdmitted := by
    obtain ⟨offer, first, same⟩ := isAdmitted_iff.mp isAdmitted
    refine isAdmitted_iff.mpr ⟨offer, ?_, same⟩
    rw [offers]
    exact List.take_subset_take_left _ room first
  turn other differ otherTurn := by
    unfold Queue.isTurn at isTurn otherTurn
    rw [of_decide_eq_true isTurn] at otherTurn
    exact absurd (Option.some.inj (of_decide_eq_true otherTurn)).symm differ
  issued := Nat.le_of_eq issued.symm

end Collate.Queue
