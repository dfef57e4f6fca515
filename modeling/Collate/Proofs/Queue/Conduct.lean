import Collate.Proofs.Queue.Crowd
import Collate.Proofs.Queue.Line

namespace Collate.Simulation

namespace World

variable {world : World} {channel : Channel} {queue : Queue}

@[simp] theorem channelState_setChannelState (world : World) (channel : Channel)
    (state : ChannelState) :
    (world.setChannelState channel state).channelState channel = state := by
  simp [channelState, setChannelState]

theorem channelState_changeQueue
    (held : world.channelState channel = .queue queue)
    (change : Queue → Queue) :
    (changeQueue channel change world).channelState channel =
      .queue (change queue) := by
  simp [changeQueue, held]

theorem queue?_eq (held : world.channelState channel = .queue queue) :
    world.queue? channel = some queue := by
  simp [queue?, held]

end World

namespace Use

def message? : Use → Option Message
  | .send _ message => some message
  | _ => none

def isLimited : Use → Bool
  | .send limit _ => limit.isSome
  | .receive limit => limit.isSome
  | .tryReceive => false
  | .drain => false

def isServed (queue : Queue) : Use → Bool
  | .receive _ => queue.hasMessage
  | _ => true

def grab (queue : Queue) : Use → Queue × Answer
  | .drain => (queue.takeAll.1, .messages queue.takeAll.2)
  | _ => (queue.take.1, .received queue.take.2)

end Use

/-- Where a call is with regard to a queue. -/
inductive Place where
  | fresh
  | apart
  | offering (ticket : Nat)
  | admitted (ticket : Nat)
  | inLine (ticket : Nat)
  | atFront (ticket : Nat)

namespace Place

def ticket? : Place → Option Nat
  | .fresh => none
  | .apart => none
  | .offering ticket => some ticket
  | .admitted ticket => some ticket
  | .inLine ticket => some ticket
  | .atFront ticket => some ticket

def receiver? : Place → Option Nat
  | .inLine ticket => some ticket
  | .atFront ticket => some ticket
  | _ => none

end Place

def Changes (channel : Channel) (change : World → World)
    (act : Queue → Queue) : Prop :=
  ∀ world queue, world.channelState channel = .queue queue →
    (change world).channelState channel = .queue (act queue)

/-- A call that is at a place goes on as its use says. -/
inductive Conducts (channel : Channel) (use : Use) :
    Place → Activity Answer → Prop
  | look {message : Message} {change : World → World}
      {next : World → Activity Answer} (sends : use.message? = some message)
      (changes : Changes channel change id)
      (going : ∀ world queue, world.channelState channel = .queue queue →
        Conducts channel use .apart (next world)) :
      Conducts channel use .fresh (Program.ask (.act change) next)
  | clock {place : Place} {change : World → World}
      {next : World → Activity Answer} (limited : use.isLimited = true)
      (stands : place.ticket?.isSome) (changes : Changes channel change id)
      (going : ∀ world, Conducts channel use place (next world)) :
      Conducts channel use place (Program.ask (.act change) next)
  | offer {message : Message} {change : World → World}
      {next : World → Activity Answer} (sends : use.message? = some message)
      (changes : Changes channel change fun queue => (queue.offer message).1)
      (going : ∀ world queue, world.channelState channel = .queue queue →
        Conducts channel use (.offering queue.nextTicket) (next world)) :
      Conducts channel use .apart (Program.ask (.act change) next)
  | awaitPlace {message : Message} {ticket : Nat} {isReady : World → Bool}
      {deadline : Option Nat} {giveUp : World → World}
      {next : Bool → Activity Answer} (sends : use.message? = some message)
      (ready : ∀ world queue, world.channelState channel = .queue queue →
        isReady world = queue.isAdmitted ticket)
      (changes : Changes channel giveUp fun queue => queue.withdraw ticket)
      (going : Conducts channel use (.admitted ticket) (next true))
      (late : deadline.isSome → next false = Program.done .timeout) :
      Conducts channel use (.offering ticket)
        (Program.ask (.await isReady deadline giveUp) next)
  | accept {message : Message} {ticket : Nat} {change : World → World}
      {next : World → Activity Answer} (sends : use.message? = some message)
      (changes : Changes channel change fun queue => queue.accept ticket)
      (ended : ∀ world, next world = Program.done .done) :
      Conducts channel use (.admitted ticket) (Program.ask (.act change) next)
  | approach {change : World → World} {next : World → Activity Answer}
      (receives : use.message? = none)
      (changes : Changes channel change fun queue => queue.approach.1)
      (going : ∀ world queue, world.channelState channel = .queue queue →
        Conducts channel use (.inLine queue.nextTicket) (next world)) :
      Conducts channel use .fresh (Program.ask (.act change) next)
  | awaitTurn {ticket : Nat} {isReady : World → Bool} {deadline : Option Nat}
      {giveUp : World → World}
      {next : Bool → Activity Answer} (receives : use.message? = none)
      (ready : ∀ world queue, world.channelState channel = .queue queue →
        isReady world = (queue.isTurn ticket && use.isServed queue))
      (changes : Changes channel giveUp fun queue => queue.leave ticket)
      (going : Conducts channel use (.atFront ticket) (next true))
      (late : deadline.isSome → use.isLimited = true ∧
        next false = Program.done .timeout) : Conducts channel use
          (.inLine ticket) (Program.ask (.await isReady deadline giveUp) next)
  | grab {ticket : Nat} {change : World → World}
      {next : World → Activity Answer} (receives : use.message? = none)
      (changes :
        Changes channel change fun queue => (use.grab queue).1.leave ticket)
      (ended : ∀ world queue, world.channelState channel = .queue queue →
        use.isServed queue = true →
        next world = Program.done (use.grab queue).2) :
      Conducts channel use (.atFront ticket) (Program.ask (.act change) next)

variable {channel : Channel} {world : World} {queue : Queue}

theorem changes_get :
    Changes channel (fun world => ((get : Moment World) world).2) id :=
  fun _ _ held => held

theorem changes_inQueue {α : Type} (otherwise : α) (act : Queue → Queue × α) :
    Changes channel
      (fun world => (Moment.inQueue channel otherwise act world).2)
      fun queue => (act queue).1 := by
  intro world queue held
  simp [Moment.inQueue, held]

theorem inQueue_value {α : Type}
    (held : world.channelState channel = .queue queue)
    (otherwise : α) (act : Queue → Queue × α) :
    (Moment.inQueue channel otherwise act world).1 = (act queue).2 := by
  simp [Moment.inQueue, held]

theorem changes_changeQueue (act : Queue → Queue) :
    Changes channel (World.changeQueue channel act) act :=
  fun _ _ held => World.channelState_changeQueue held act

theorem get_value (world : World) :
    ((get : Moment World) world).1 = world := rfl

theorem conducts_send (message : Message) :
    Conducts channel (.send none message) .fresh
      ((Use.send none message).activity channel) := by
  have sends : (Use.send none message).message? = some message := rfl
  refine .look sends changes_get fun world queue held => ?_
  simp only [get_value, Program.bind_eq, Program.pure_eq,
    Program.bind_done, held]
  refine .offer sends (changes_inQueue 0 fun queue => queue.offer message)
    fun world queue held => ?_
  simp only [Program.pure_eq, Program.bind_done, inQueue_value held]
  refine .awaitPlace sends (fun world queue held => ?_)
    (changes_changeQueue _) ?_ nofun
  · simp only [Surroundings.isAdmitted, World.queue?_eq held]
    rfl
  · exact .accept sends (changes_changeQueue _) fun world => rfl

theorem conducts_sendWithin (limit : Nat) (message : Message) :
    Conducts channel (.send (some limit) message) .fresh
      ((Use.send (some limit) message).activity channel) := by
  have sends : (Use.send (some limit) message).message? = some message := rfl
  refine .look sends changes_get fun world queue held => ?_
  simp only [get_value, Program.bind_eq, Program.pure_eq,
    Program.bind_done, held]
  refine .offer sends (changes_inQueue 0 fun queue => queue.offer message)
    fun world queue held => ?_
  simp only [Program.pure_eq, Program.bind_done, inQueue_value held]
  refine .clock rfl rfl changes_get fun world => ?_
  refine .awaitPlace sends (fun world queue held => ?_)
    (changes_changeQueue _) ?_ fun _ => rfl
  · simp only [Surroundings.isAdmitted, World.queue?_eq held]
    rfl
  · exact .accept sends (changes_changeQueue _) fun world => rfl

def taking {α : Type} (channel : Channel) (otherwise : α)
    (act : Queue → Queue × α) (ticket : Nat) :
    Moment α := do
  let value ← Moment.inQueue channel otherwise act
  modify (World.changeQueue channel fun queue => queue.leave ticket)
  return value

theorem taking_apply {α : Type}
    (held : world.channelState channel = .queue queue)
    (otherwise : α) (act : Queue → Queue × α) (ticket : Nat) :
    (taking channel otherwise act ticket world).1 = (act queue).2 ∧
    (taking channel otherwise act ticket world).2.channelState channel =
      .queue ((act queue).1.leave ticket) := by
  have value := inQueue_value held otherwise act
  have state := changes_inQueue otherwise act world queue held
  exact ⟨value, World.channelState_changeQueue state _⟩

theorem conducts_taking {use : Use} {α : Type} (otherwise : α)
    (act : Queue → Queue × α) (ticket : Nat)
    (finish : α → Activity Answer) (receives : use.message? = none)
    (acts : ∀ queue, (use.grab queue).1 = (act queue).1)
    (answers : ∀ queue, use.isServed queue = true →
      finish (act queue).2 = Program.done (use.grab queue).2) :
    Conducts channel use (.atFront ticket)
      ((Activity.now (taking channel otherwise act ticket)).bind finish) := by
  refine .grab receives (fun world queue held => ?_)
    fun world queue held served => ?_
  · simp only [acts]
    exact (taking_apply held otherwise act ticket).2
  · rw [← answers queue served]
    exact congrArg finish (taking_apply held otherwise act ticket).1

theorem conducts_atFront {use : Use} {α : Type} (otherwise : α)
    (act : Queue → Queue × α)
    (answer : α → Answer) (receives : use.message? = none)
    (served : ∀ queue, use.isServed queue = true)
    (grabs : ∀ queue, use.grab queue = ((act queue).1, answer (act queue).2)) :
    Conducts channel use .fresh ((Surroundings.atFront channel otherwise
      act).bind fun value => .done (answer value)) := by
  refine .approach receives (changes_inQueue 0 Queue.approach)
    fun world queue held => ?_
  simp only [Program.pure_eq, Program.bind_done, inQueue_value held]
  refine .awaitTurn receives (fun world queue held => ?_)
    (changes_changeQueue _) ?_ nofun
  · simp only [World.queue?_eq held, served, Bool.and_true]
    rfl
  · exact conducts_taking otherwise act _ (fun value => .done (answer value))
      receives (fun queue => by rw [grabs]) fun queue _ => by rw [grabs]

theorem conducts_receive :
    Conducts channel (.receive none) .fresh
      ((Use.receive none).activity channel) := by
  refine .approach rfl (changes_inQueue 0 Queue.approach)
    fun world queue held => ?_
  simp only [Program.pure_eq, Program.bind_done, inQueue_value held]
  refine .awaitTurn rfl (fun world queue held => ?_)
    (changes_changeQueue _) ?_ nofun
  · simp only [World.queue?_eq held]
    rfl
  · exact conducts_taking none Queue.take _
      (fun value => .done (.received value)) rfl (fun _ => rfl) fun _ _ => rfl

theorem conducts_receiveWithin (limit : Nat) :
    Conducts channel (.receive (some limit)) .fresh
      ((Use.receive (some limit)).activity channel) := by
  refine .approach rfl (changes_inQueue 0 Queue.approach)
    fun world queue held => ?_
  simp only [Program.pure_eq, Program.bind_done, inQueue_value held]
  refine .clock rfl rfl changes_get fun world => ?_
  refine .awaitTurn rfl (fun world queue held => ?_) (changes_changeQueue _) ?_
    fun _ => ⟨rfl, rfl⟩
  · simp only [World.queue?_eq held]
    rfl
  · refine conducts_taking none Queue.take _ _ rfl (fun _ => rfl)
      fun queue served => ?_
    cases messages : queue.messages with
    | nil => simp [Use.isServed, Queue.hasMessage, messages] at served
    | cons message rest => simp [Use.grab, Queue.take, messages]

theorem conducts_activity (use : Use) :
    Conducts channel use .fresh (use.activity channel) := by
  cases use with
  | send limit message =>
      cases limit with
      | none => exact conducts_send message
      | some limit => exact conducts_sendWithin limit message
  | receive limit =>
      cases limit with
      | none => exact conducts_receive
      | some limit => exact conducts_receiveWithin limit
  | tryReceive =>
      exact conducts_atFront none Queue.take .received rfl (fun _ => rfl)
        fun _ => rfl
  | drain =>
      exact conducts_atFront [] Queue.takeAll .messages rfl (fun _ => rfl)
        fun _ => rfl

end Collate.Simulation
