import Collate.Simulation.Activity

namespace Collate.Simulation.Surroundings

open Activity (now)

/-- Waits for the lock of a key of a handler. Who is cut off gives the lock
back. -/
def lock (handler : Nat) (key : Key) : Activity Nat := do
  let ticket ← now (Moment.joinLock handler key)
  Activity.await (fun world =>
    (world.handlerState? handler).any fun state => state.locks.isOwner ticket)
      (World.changeLocks handler fun locks => locks.abandon ticket)
  now (modify (World.changeLocks handler fun locks => locks.enter ticket))
  Activity.take
    (.protect (World.changeLocks handler fun locks => locks.release ticket))
  return ticket

def unlock (handler : Nat) (ticket : Nat) : Activity Unit := do
  Activity.take .unprotect
  now (modify (World.changeLocks handler fun locks => locks.release ticket))

def occupy {α : Type} (handler : Nat) (activity : Activity α) : Activity α := do
  now (modify (World.enterHandler handler))
  Activity.take (.protect (World.leaveHandler handler))
  let value ← activity
  Activity.take .unprotect
  now (modify (World.leaveHandler handler))
  return value

def add (key : Key) (message : Message) : Activity (Except Error Group) := do
  let world ← now get
  Activity.pause world.addDelay
  now do
    match ← Moment.unlessFault .add (Moment.add key message) with
    | .ok result => return result
    | .error error => return .error error

def judge (handler : Nat) (group : Group) : Activity Bool := now do
  match (← get).handlerState? handler with
  | some state => return state.policy group
  | none => return false

def process (handler : Nat) (group : Group) :
    Activity (Except Error Outcome) := do
  now (Moment.noteCall handler group)
  match (← now get).handlerState? handler with
  | some state => do
      Activity.pause state.processor.delay
      now (Moment.processed state.processor group)
  | none => return .error (.internal "no handler")

private def record (channel : Channel) (message : Message) :
    Activity (Except Error Unit) := now do
  match (← get).channelState channel with
  | .recorder recorder => Moment.record channel recorder message
  | _ => return .ok ()

private def drop (channel : Channel) (message : Message) :
    Activity Unit := now do
  match (← get).channelState channel with
  | .null dropped => Moment.drop channel dropped message
  | _ => return ()

def offer (channel : Channel) (message : Message) : Activity Nat :=
  now (Moment.inQueue channel 0 fun queue => queue.offer message)

def isAdmitted (channel : Channel) (ticket : Nat) (world : World) : Bool :=
  match world.queue? channel with
  | some queue => queue.isAdmitted ticket
  | none => true

def withdraw (channel : Channel) (ticket : Nat) : World → World :=
  World.changeQueue channel fun queue => queue.withdraw ticket

def accept (channel : Channel) (ticket : Nat) : Activity Unit :=
  now (modify (World.changeQueue channel fun queue => queue.accept ticket))

def deliver (channel : Channel) (message : Message) :
    Activity (Except Error Unit) := do
  match (← now get).channelState channel with
  | .queue _ => do
      let ticket ← offer channel message
      Activity.await (isAdmitted channel ticket) (withdraw channel ticket)
      accept channel ticket
      return .ok ()
  | .null _ => do
      drop channel message
      return .ok ()
  | .recorder recorder => do
      Activity.pause recorder.delay
      record channel message

/-- Waits for a channel to take a message, but no longer than some milliseconds.
A channel that takes the message just as the time runs out has taken it. -/
def deliverWithin (limit : Nat) (channel : Channel) (message : Message) :
    Activity (Option (Except Error Unit)) := do
  match (← now get).channelState channel with
  | .queue _ => do
      let ticket ← offer channel message
      let isTaken ←
        Activity.awaitWithin limit (isAdmitted channel ticket)
          (withdraw channel ticket)
      if isTaken then do
        accept channel ticket
        return some (.ok ())
      else return none
  | .null _ => do
      drop channel message
      return some (.ok ())
  | .recorder recorder =>
      if recorder.delay ≤ limit then do
        Activity.pause recorder.delay
        some <$> record channel message
      else do
        Activity.pause limit
        return none

/-- Joins the line of a queue, and takes the first message once it is the
caller's turn and there is one; unless the wait for that ends without it. -/
def receiveAfter (channel : Channel)
    (wait : (isReady : World → Bool) → (giveUp : World → World) →
      Activity Bool) : Activity (Option Message) := do
  let ticket ← now (Moment.inQueue channel 0 Queue.approach)
  let leave : World → World :=
    World.changeQueue channel fun queue => queue.leave ticket
  let isReady : World → Bool := fun world =>
    (world.queue? channel).any
      fun queue => queue.isTurn ticket && queue.hasMessage
  if ← wait isReady leave then
    now do
      let message ← Moment.inQueue channel none Queue.take
      modify leave
      return message
  else return none

def receive (channel : Channel) : Activity (Option Message) :=
  receiveAfter channel fun isReady giveUp => do
    Activity.await isReady giveUp
    return true

def receiveWithin (limit : Nat) (channel : Channel) :
    Activity (Option Message) :=
  receiveAfter channel (Activity.awaitWithin limit)

def atFront {α : Type} (channel : Channel) (otherwise : α)
    (act : Queue → Queue × α) :
    Activity α := do
  let ticket ← now (Moment.inQueue channel 0 Queue.approach)
  let leave : World → World :=
    World.changeQueue channel fun queue => queue.leave ticket
  Activity.await (fun world => (world.queue? channel).any
    fun queue => queue.isTurn ticket) leave
  now do
    let value ← Moment.inQueue channel otherwise act
    modify leave
    return value

def answer (handler : Nat) :
    (request : Engine.Request) → Activity request.Answer
  | .lock key => lock handler key
  | .retain ticket =>
      now (modify (World.changeLocks handler fun locks => locks.retain ticket))
  | .retire ticket =>
      now (modify (World.changeLocks handler fun locks => locks.retire ticket))
  | .unlock ticket => unlock handler ticket
  | .load key => now (Moment.unlessFault .get (Moment.load key))
  | .add key message => add key message
  | .mark group => now (Moment.unlessFault .mark (Moment.mark group))
  | .remove key => now (Moment.unlessFault .remove (Moment.remove key))
  | .judge group => judge handler group
  | .process group => process handler group
  | .build payload => now (Moment.build payload)
  | .resolve name => now do return (← get).registry.resolve name
  | .deliver channel message => deliver channel message
  | .deliverWithin limit channel message => deliverWithin limit channel message
  | .survey timeout => now (Moment.survey timeout)
  | .notify _ _ => return .ok .unsubscribed
  | .removeUnchanged group =>
      now (modify
        fun world => { world with store := world.store.removeUnchanged group })
  | .unsubscribe gone =>
      now (modify
        fun world => { world with store := world.store.unsubscribe gone })
  | .log event => now (Moment.log event)

def slowness : Nat := 25

private def note (listener : Listener) (group : Group) : String :=
  (if listener.isBlind then "*" else group.key.text) ++ ":" ++
    toString group.size

private def nextAct (listener : Listener) : ListenerAct × List ListenerAct :=
  match listener.acts with
  | [] => (.handled, [])
  | [act] => (act, [act])
  | act :: rest => (act, rest)

private def setListener (subscriber : Subscriber)
    (listener : Listener) : Moment Unit :=
  modify fun world =>
    { world with
      audience := Assoc.put subscriber (.listener listener) world.audience }

private def perform (act : ListenerAct) (group : Group) :
    Activity (Except Error Engine.Reaction) :=
  match act with
  | .handled => return .ok .handled
  | .unsubscribed => return .ok .unsubscribed
  | .slow => do
      Activity.pause slowness
      return .ok .handled
  | .remove => do
      now (Moment.remove group.key)
      return .ok .handled
  | .replace => now do
      Moment.remove group.key
      let message ← Moment.build (.text "replacement")
      match ← Moment.add group.key message with
      | .ok _ => return .ok .unsubscribed
      | .error error => return .error error
  | .failing word => return .error (.internal ("callback " ++ word))

def notify (subscriber : Subscriber) (group : Group) :
    Activity (Except Error Engine.Reaction) := do
  let world ← now get
  match Assoc.get? subscriber world.audience with
  | none => return .ok .unsubscribed
  | some (.listener listener) => do
      let (act, rest) := nextAct listener
      now (setListener subscriber { listener with
        acts := rest, notes := listener.notes ++ [note listener group] })
      perform act group
  | some (.handler number) =>
      match (world.handlerState? number).filter HandlerState.isAlive with
      | some state =>
          occupy number ((state.handler.onExpiry group).runIn (answer number))
      | none => do
          now (Moment.log (.handlerGone group.key))
          return .ok .unsubscribed

def answerSweep : (request : Engine.Request) → Activity request.Answer
  | .notify subscriber group => notify subscriber group
  | request => answer 0 request

def sweep (timeout : Nat) : Activity (Except Error Nat) := do
  match ← now (Moment.fault? .expire) with
  | some error => return .error error
  | none => (Sweep.run timeout).runIn answerSweep

end Collate.Simulation.Surroundings
