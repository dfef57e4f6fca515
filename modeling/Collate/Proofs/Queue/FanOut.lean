import Collate.Proofs.Queue.Passage
import Collate.Proofs.Queue.Solitude
import Collate.Proofs.Router.Dispatch

namespace Collate

namespace Queue

variable {queue : Queue} {message : Message}

theorem isAdmitted_offer (alone : queue.offers = []) (message : Message) :
    (queue.offer message).1.isAdmitted (queue.offer message).2 =
      decide (0 < queue.room) := by
  have room : (queue.offer message).1.room = queue.room := rfl
  rw [isAdmitted, room]
  cases hasRoom : queue.room <;> simp [offer, alone]

theorem withdraw_offer (alone : queue.offers = []) (message : Message) :
    (queue.offer message).1.withdraw (queue.offer message).2 =
      { queue with nextTicket := queue.nextTicket + 1 } := by
  rw [withdraw_eq]
  simp [offer, alone]

theorem accept_offer (alone : queue.offers = []) (hasRoom : 0 < queue.room)
    (message : Message) :
    (queue.offer message).1.accept (queue.offer message).2 = { queue with
      messages := queue.messages ++ [message], nextTicket :=
        queue.nextTicket + 1 } := by
  have room : (queue.offer message).1.room = queue.room := rfl
  have first : (queue.offer message).1.offers.take queue.room =
      [⟨queue.nextTicket, message⟩] := by
    simp only [offer, alone, List.nil_append]
    exact List.take_of_length_le hasRoom
  have withdrawn := withdraw_offer alone message
  unfold withdraw at withdrawn
  have found : [Offer.mk queue.nextTicket message].find?
        (fun offer => offer.ticket = (queue.offer message).2) =
        some ⟨queue.nextTicket, message⟩ :=
    List.find?_cons_of_pos (decide_eq_true rfl)
  rw [accept, room, first, found]
  dsimp only
  rw [withdrawn]
  rfl

end Queue

theorem Router.Yields.eq_of_ofMessages {messages sent : List Message}
    (some : messages ≠ [])
    (yields : Router.Yields (.ofMessages messages) sent) : sent = messages := by
  obtain ⟨first, rest, rfl⟩ := List.exists_cons_of_ne_nil some
  cases yields with
  | each present carried =>
      have same : List.Forall₂ Eq (first :: rest) sent :=
        (List.forall₂_map_left_iff.mp carried).imp
          fun _ _ isSame => Eq.symm isSame
      rw [List.forall₂_eq_eq_eq] at same
      exact same.symm
  | together absent => exact absurd List.mem_cons_self (absent first)

namespace Simulation

open Router (Carries Yields messagesOf)

variable {channel : Channel} {world : World} {queue : Queue} {number : Nat}

def Holds (channel : Channel) (queue : Queue) (added : List Message)
    (world : World) : Prop :=
  ∃ after, world.channelState channel = .queue after ∧
    after.messages = queue.messages ++ added ∧ after.capacity = queue.capacity ∧
    after.offers = []

namespace Surroundings

theorem reaches_deliverWithin (limit : Nat) (message : Message)
    (held : world.channelState channel = .queue queue)
    (alone : queue.offers = []) :
    Reaches (fun taken later =>
        if 0 < queue.room then
          taken = some (.ok ()) ∧ Holds channel queue [message] later
        else taken = none ∧ Holds channel queue [] later)
      (deliverWithin limit channel message) world := by
  refine Reaches.get fun passed => ?_
  have looked : (world.after passed).channelState channel = .queue queue := held
  simp only [looked]
  refine Reaches.inQueue held fun world offered => ?_
  have ready (passed : Nat) : isAdmitted channel (queue.offer message).2
        (world.after passed) = decide (0 < queue.room) := by
    have stillOffered : (world.after passed).channelState channel = _ := offered
    simp only [isAdmitted, World.queue?_eq stillOffered]
    exact queue.isAdmitted_offer alone message
  refine Reaches.awaitWithin (fun passed isNow => ?_) fun passed notNow => ?_
  · have hasRoom : 0 < queue.room :=
      of_decide_eq_true ((ready passed).symm.trans isNow)
    have stillOffered : (world.after passed).channelState channel = _ := offered
    refine Reaches.changeQueue stillOffered fun after accepted later => ?_
    rw [queue.accept_offer alone hasRoom] at accepted
    rw [if_pos hasRoom]
    exact ⟨rfl, _, accepted, rfl, rfl, alone⟩
  · have noRoom : ¬ 0 < queue.room :=
      of_decide_eq_false ((ready passed).symm.trans notNow)
    have withdrawn : (withdraw channel (queue.offer message).2
        (world.after passed)).channelState channel = _ :=
      changes_changeQueue _ (world.after passed) _ offered
    rw [queue.withdraw_offer alone] at withdrawn
    intro later
    rw [if_neg noRoom]
    exact ⟨rfl, _, withdrawn, (List.append_nil _).symm, rfl, alone⟩

theorem reaches_destination {router : Router} {address : Option HeaderValue}
    {key : Key}
    (settled : router.choice world.registry.resolve address key = .ok channel)
    (held : world.channelState channel = .queue queue) :
    Reaches (fun result later => result = .ok channel ∧
      later.channelState channel = .queue queue)
        ((router.destination address key).runIn (answer number)) world := by
  unfold Router.choice at settled
  unfold Router.destination
  cases output : router.output with
  | some chosen =>
      rw [output] at settled
      exact fun _ => ⟨settled, held⟩
  | none =>
      rw [output] at settled
      cases address with
      | none => cases settled
      | some value =>
          cases value with
          | text name =>
              cases resolves : router.hasResolver with
              | false => simp [resolves] at settled
              | true =>
                  simp only [resolves, if_true] at settled ⊢
                  exact fun _ _ => ⟨settled, held⟩
          | channel chosen => exact fun _ => ⟨settled, held⟩
          | _ => cases settled

theorem reaches_build (payload : Json)
    (held : world.channelState channel = .queue queue) :
    Reaches (fun message later => Carries (.payload payload) message ∧
      later.channelState channel = .queue queue)
        ((Call.ask (.build payload)).runIn (answer number)) world :=
  fun _ _ => ⟨⟨rfl, rfl⟩, held⟩

theorem reaches_messagesOf (replies : List Reply)
    (held : world.channelState channel = .queue queue) :
    Reaches (fun messages later => List.Forall₂ Carries replies messages ∧
        later.channelState channel = .queue queue)
      ((messagesOf replies).runIn (answer number)) world := by
  induction replies generalizing world with
  | nil => exact fun _ => ⟨.nil, held⟩
  | cons reply rest induction =>
      cases reply with
      | message message =>
          refine Reaches.runIn_bind (induction held) ?_
          exact fun messages later ⟨carried, heldLater⟩ _ =>
            ⟨.cons rfl carried, heldLater⟩
      | payload payload =>
          refine Reaches.runIn_bind (reaches_build payload held) ?_
          rintro message after ⟨built, heldStill⟩
          refine Reaches.runIn_bind (induction heldStill) ?_
          exact fun messages later ⟨carried, heldLater⟩ _ =>
            ⟨.cons built carried, heldLater⟩

theorem reaches_log (event : Log.Event)
    (held : world.channelState channel = .queue queue) :
    Reaches (fun _ later => later.channelState channel = .queue queue)
      ((Call.log event).runIn (answer number)) world :=
  fun _ _ => held

def IsSent (router : Router) (channel : Channel) (queue : Queue)
    (messages : List Message) (result : Except Error Unit)
    (world : World) : Prop :=
  (result = if messages.length ≤ queue.room then .ok ()
    else .error (.sendTimeout channel.name router.timeout)) ∧
  Holds channel queue (messages.take queue.room) world

theorem reaches_sendAll (router : Router) (messages : List Message)
    (held : world.channelState channel = .queue queue)
    (alone : queue.offers = []) :
    Reaches (IsSent router channel queue messages)
      ((router.sendAll channel messages).runIn (answer number)) world := by
  induction messages generalizing world queue with
  | nil =>
      refine fun _ => ⟨rfl, queue, held, ?_, rfl, alone⟩
      rw [List.take_nil, List.append_nil]
  | cons message rest induction =>
      refine Reaches.bind (reaches_deliverWithin router.timeout message held
        alone) fun taken later outcome => ?_
      by_cases hasRoom : 0 < queue.room
      · rw [if_pos hasRoom] at outcome
        obtain ⟨rfl, after, heldLater, messages, capacity, aloneLater⟩ :=
          outcome
        have room : queue.room = after.room + 1 := by
          have length := congrArg List.length messages
          simp only [List.length_append, List.length_singleton] at length
          unfold Queue.room at hasRoom ⊢
          rw [length, capacity]
          omega
        refine (induction heldLater aloneLater).mono ?_
        rintro result final ⟨result_eq, last, heldFinal, messagesFinal,
          capacityFinal, aloneFinal⟩
        refine ⟨?_, last, heldFinal, ?_,
          capacityFinal.trans capacity, aloneFinal⟩
        · simpa only [room, List.length_cons, Nat.add_le_add_iff_right]
            using result_eq
        · rw [messagesFinal, messages, room, List.take_succ_cons,
            List.append_assoc]
          rfl
      · rw [if_neg hasRoom] at outcome
        obtain ⟨rfl, unchanged⟩ := outcome
        have noRoom : queue.room = 0 := Nat.eq_zero_of_not_pos hasRoom
        refine fun _ _ => ⟨?_, ?_⟩
        · have tooMany : ¬ (message :: rest).length ≤ queue.room := by
            simp [noRoom]
          rw [if_neg tooMany]
        · rw [noRoom, List.take_zero]
          exact unchanged

def sendReplies (router : Router) (outcome : Outcome)
    (address : Option HeaderValue) (key : Key) (number : Nat) :
    Activity Answer := do
  let result ← (router.sendReplies outcome address key).runIn (answer number)
  return .ofResult Answer.count result

def AreAnswered (router : Router) (channel : Channel) (queue : Queue)
    (outcome : Outcome) (answer : Answer) (world : World) : Prop :=
  ∃ messages after, Yields outcome messages ∧
    world.channelState channel = .queue after ∧
    after.messages = queue.messages ++ messages.take queue.room ∧
    answer = if messages.length ≤ queue.room then .count messages.length
      else .failure (.sendTimeout channel.name router.timeout)

theorem reaches_sendReplies (router : Router) (outcome : Outcome)
    {address : Option HeaderValue} {key : Key}
    (settled : router.choice world.registry.resolve address key = .ok channel)
    (held : world.channelState channel = .queue queue)
    (alone : queue.offers = []) :
    Reaches (AreAnswered router channel queue outcome)
      (sendReplies router outcome address key number) world := by
  have sent : Reaches (fun result later => AreAnswered router channel queue
      outcome (.ofResult Answer.count result) later) ((router.sendReplies
        outcome address key).runIn (answer number)) world := by
    rw [Router.sendReplies_eq]
    refine Reaches.runIn_bind (reaches_destination settled held) ?_
    rintro _ world ⟨rfl, held⟩
    refine Reaches.runIn_bind (reaches_messagesOf outcome.parts held) ?_
    rintro messages world ⟨carried, held⟩
    refine Reaches.runIn_bind (reaches_log _ held) fun _ world held => ?_
    refine Reaches.runIn_bind (reaches_sendAll router messages held alone) ?_
    rintro result world ⟨rfl, after, heldLater, added, -⟩
    have yields := Router.yields_of_parts carried
    by_cases enough : messages.length ≤ queue.room
    · rw [if_pos enough]
      exact fun _ =>
        ⟨messages, after, yields, heldLater, added, (if_pos enough).symm⟩
    · rw [if_neg enough]
      exact fun _ =>
        ⟨messages, after, yields, heldLater, added, (if_neg enough).symm⟩
  exact sent.bind_of_stays fun result later stays => stays

end Surroundings

/-- For every capacity, whichever calls use a queue that is empty at first, in
whatever order they take their turns and are dropped: what has been handed out,
and then what is queued, are the messages of the sends that are done, in the
order in which they were; no more is queued than there are places; nobody is
finished twice, or dropped as well; and what only one has sent who was dropped,
or has given up, is not passed on. And replies that are sent to a queue that
nobody else uses, however much time passes between the steps, come to an end: as
many as there is room for are then in the queue, in their order, and if there
are more, the sending has run out of time. -/
theorem queue_passes_in_order (channel : Channel) :
    (∀ (capacity : Nat) (world : World) (uses : Nat → Use)
      (moves : List Crowd.Move),
      world.channelState channel = .queue (.empty capacity) →
      let crowd := (Crowd.ofUses world channel uses).play moves
      ∃ queue, crowd.world.channelState channel = .queue queue ∧
        crowd.handedOut ++ queue.messages = crowd.sent uses ∧
        queue.messages.length ≤ max capacity 1 ∧
        (crowd.finished.map Prod.fst ++ crowd.dropped).Nodup ∧
        ∀ call message, (uses call).message? = some message →
          call ∈ crowd.dropped ∨ (call, .timeout) ∈ crowd.finished →
          (∀ other, other ≠ call → (uses other).message? ≠ some message) →
            message ∉ crowd.handedOut ++ queue.messages) ∧
    ∀ (world : World) (queue : Queue) (router : Router) (outcome : Outcome)
      (address : Option HeaderValue) (key : Key) (number : Nat)
      (activity : Nat → Activity Answer) (call : Nat) (moves : List Crowd.Move),
      world.channelState channel = .queue queue → queue.offers = [] →
      router.choice world.registry.resolve address key = .ok channel →
      activity call =
        Surroundings.sendReplies router outcome address key number →
      (∀ move ∈ moves, move.IsOf call) →
      let crowd := (Crowd.start world activity).play moves
      (∃ more, (∀ move ∈ more, Crowd.Move.IsOf call move) ∧
        ∃ answer, (crowd.play more).finished = [(call, answer)]) ∧
      ∀ answer, (call, answer) ∈ crowd.finished →
        Surroundings.AreAnswered router channel queue outcome answer
          crowd.world := by
  constructor
  · intro capacity world uses moves isEmpty crowd
    obtain ⟨queue, place, ordered⟩ :=
      (Crowd.ordered_ofUses uses isEmpty).play moves
    refine ⟨queue, ordered.held, ordered.passed, ?_, ordered.once, ?_⟩
    · rw [← ordered.capacity]
      exact ordered.lined.sound.bounded
    · intro call message sends givesUp noOther
      exact ordered.not_passed sends givesUp noOther
  · intro world queue router outcome address key number activity call moves held
      alone settled sends undisturbed crowd
    have reaches : Reaches (Surroundings.AreAnswered router channel queue
        outcome) (activity call) world := by
      rw [sends]
      exact Surroundings.reaches_sendReplies router outcome settled held alone
    have begins :
        Crowd.Pursues (Surroundings.AreAnswered router channel queue outcome)
          call (Crowd.start world activity) := .inl ⟨_, rfl, rfl, reaches⟩
    have pursues := begins.play undisturbed
    exact ⟨pursues.ends, fun answer finished => pursues.reached finished⟩

/-! Two send to a queue with one place. The first is done; the second is given
the place that a receiver has made, and is dropped before it uses it. And a
router has three messages for two places. -/

def strait : Channel := ⟨0, "strait"⟩

def straitWorld (capacity : Nat) : World :=
  (World.empty 1 0).setChannelState strait (.queue (.empty capacity))

def numbered (number : Nat) : Message := .ofPayload .null ⟨⟨number⟩, 0⟩

def rivals : Nat → Use
  | 0 => .send none (numbered 1)
  | 1 => .send (some 5) (numbered 2)
  | _ => .receive none

def rivalMoves : List Crowd.Move :=
  [.turn 0, .turn 1, .turn 0, .turn 1, .turn 0, .turn 1, .turn 0, .turn 1,
    .turn 2, .turn 2, .turn 2, .drop 1]

def narrowRouter : Router :=
  { output := some strait, hasResolver := false, timeout := 20 }

def threeMessages : List Message := [numbered 1, numbered 2, numbered 3]

def threeForTwo : Activity Answer :=
  Surroundings.sendReplies narrowRouter
    (.ofMessages threeMessages) none ⟨"all"⟩ 0

theorem rivals_pass_one :
    (straitWorld 0).channelState strait = .queue (.empty 0) ∧
      (let crowd := (Crowd.ofUses (straitWorld 0) strait rivals).play rivalMoves
      1 ∈ crowd.dropped ∧ ∃ queue,
        crowd.world.channelState strait = .queue queue ∧
        crowd.handedOut ++ queue.messages = [numbered 1] ∧
        numbered 2 ∉ crowd.handedOut ++ queue.messages) ∧
      ∃ moves,
        let crowd :=
          (Crowd.start (straitWorld 2) fun _ => threeForTwo).play moves
        crowd.finished = [(0, .failure (.sendTimeout "strait" 20))] ∧
        ∃ queue, crowd.world.channelState strait = .queue queue ∧
          queue.messages = [numbered 1, numbered 2] := by
  obtain ⟨passes, answers⟩ := queue_passes_in_order strait
  refine ⟨rfl, ⟨by decide, ?_⟩, ?_⟩
  · obtain ⟨queue, held, passed, -, -, notPassed⟩ :=
      passes 0 (straitWorld 0) rivals rivalMoves rfl
    refine ⟨queue, held, passed,
      notPassed 1 (numbered 2) rfl (.inl (by decide)) ?_⟩
    rintro (_ | _ | other) differ same
    · cases same
    · exact differ rfl
    · cases same
  · have applied (moves : List Crowd.Move) :=
      answers (straitWorld 2) (.empty 2) narrowRouter
        (.ofMessages threeMessages) none ⟨"all"⟩ 0 (fun _ => threeForTwo) 0
        moves rfl rfl rfl rfl
    obtain ⟨⟨moves, undisturbed, answer, ended⟩, -⟩ := applied [] nofun
    have finished : ((Crowd.start (straitWorld 2) fun _ => threeForTwo).play
        moves).finished = [(0, answer)] := ended
    obtain ⟨-, answered⟩ := applied moves undisturbed
    obtain ⟨messages, after, yields, held, added, answer_eq⟩ :=
      answered answer (finished ▸ List.mem_cons_self)
    obtain rfl : messages = threeMessages := yields.eq_of_ofMessages nofun
    rw [answer_eq] at finished
    exact ⟨moves, finished, after, held, added⟩

end Simulation

end Collate
