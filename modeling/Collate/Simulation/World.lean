import Collate.Channel.Queue
import Collate.Channel.Registry
import Collate.Handler
import Collate.LockTable
import Collate.Processing
import Collate.Reaper
import Collate.Release
import Collate.Simulation.Roster
import Collate.Sweep

namespace Collate.Simulation

/-- A handler and what belongs to it. Who uses a handler keeps it alive, also
when its name has been dropped or given to another one. -/
structure HandlerState where
  handler : Handler
  policy : ReleasePolicy
  processor : Processor Outcome
  locks : LockTable
  calls : List Nat
  isNamed : Bool
  users : Nat

def HandlerState.isAlive (state : HandlerState) : Bool :=
  state.isNamed || 0 < state.users

structure Recorder where
  delay : Nat
  limit : Option Nat
  sent : Nat
  kept : Nat
  news : List Message
deriving Inhabited

inductive ChannelState where
  | queue (queue : Queue)
  | null (dropped : Nat)
  | recorder (recorder : Recorder)
deriving Inhabited

namespace ChannelState

def plain : ChannelState :=
  .recorder { delay := 0, limit := none, sent := 0, kept := 0, news := [] }

def ofKind : ChannelKind → ChannelState
  | .queue capacity => .queue (.empty capacity)
  | .null => .null 0
  | .recorder delay limit =>
      .recorder { delay, limit, sent := 0, kept := 0, news := [] }

end ChannelState

structure Listener where
  name : String
  acts : List ListenerAct
  isBlind : Bool
  notes : List String
deriving Inhabited

inductive Audience where
  | handler (number : Nat)
  | listener (listener : Listener)

structure World where
  now : Nat
  skew : Int
  roster : Roster
  nextGeneration : Nat
  store : Store
  faults : List StoreMethod
  addDelay : Nat
  channels : List (Nat × ChannelState)
  registry : Registry
  hasRegistry : Bool
  router : Router
  handlers : List (Nat × HandlerState)
  handlerNames : List (String × Nat)
  audience : List (Subscriber × Audience)
  reaping : Reaping
  remembered : List (String × Group)
  journal : List Log.Event

abbrev Moment := StateM World

namespace World

def empty (capacity addDelay : Nat) : World where
  now := 0
  skew := 0
  roster := .empty
  nextGeneration := 0
  store := .empty capacity
  faults := []
  addDelay := addDelay
  channels := []
  registry := .empty
  hasRegistry := false
  router := .standard
  handlers := []
  handlerNames := []
  audience := []
  reaping := .empty
  remembered := []
  journal := []

def wallTime (world : World) : Int := world.now + world.skew

def channelState (world : World) (channel : Channel) : ChannelState :=
  (Assoc.get? channel.id world.channels).getD .plain

def setChannelState (world : World) (channel : Channel)
    (state : ChannelState) : World :=
  { world with channels := Assoc.put channel.id state world.channels }

def queue? (world : World) (channel : Channel) : Option Queue :=
  match world.channelState channel with
  | .queue queue => some queue
  | _ => none

def changeQueue (channel : Channel) (change : Queue → Queue)
    (world : World) : World :=
  match world.channelState channel with
  | .queue queue => world.setChannelState channel (.queue (change queue))
  | _ => world

def handlerState? (world : World) (number : Nat) : Option HandlerState :=
  Assoc.get? number world.handlers

def changeHandler (number : Nat) (change : HandlerState → HandlerState)
    (world : World) : World :=
  { world with handlers := Assoc.adjust number change world.handlers }

def enterHandler (number : Nat) : World → World :=
  changeHandler number fun state => { state with users := state.users + 1 }

def leaveHandler (number : Nat) : World → World :=
  changeHandler number fun state => { state with users := state.users - 1 }

def changeLocks (number : Nat) (change : LockTable → LockTable) :
    World → World :=
  changeHandler number fun state => { state with locks := change state.locks }

def handlerNumber? (world : World) (name : String) : Option Nat :=
  Assoc.get? name world.handlerNames

end World

namespace Moment

def log (event : Log.Event) : Moment Unit :=
  modify fun world => { world with journal := event :: world.journal }

def newGeneration : Moment Nat := fun world =>
  (world.nextGeneration,
    { world with nextGeneration := world.nextGeneration + 1 })

def inRoster {α : Type} (act : Roster → Roster × α) : Moment α := fun world =>
  let (roster, value) := act world.roster
  (value, { world with roster })

def channel (name : String) : Moment Channel :=
  inRoster fun roster => roster.channel name none

def message (script : MessageScript) : Moment Message := do
  let time := (← get).wallTime
  inRoster fun roster => roster.message time script

def build (payload : Json) : Moment Message := do
  let time := (← get).wallTime
  inRoster fun roster =>
    let (roster, stamp) := roster.stamp time
    (roster, .ofPayload payload stamp)

def fault? (method : StoreMethod) : Moment (Option Error) := do
  if (← get).faults.contains method then
    return some (.internal ("store " ++ method.name ++ " failed"))
  else return none

def unlessFault {α : Type} (method : StoreMethod) (act : Moment α) :
    Moment (Except Error α) := do
  match ← fault? method with
  | some error => return .error error
  | none => return .ok (← act)

def load (key : Key) : Moment Group := do
  let generation ← newGeneration
  let world ← get
  return world.store.load key generation world.wallTime

def add (key : Key) (message : Message) : Moment (Except Error Group) := do
  let generation ← newGeneration
  let world ← get
  match world.store.add key message generation world.wallTime with
  | .error error => return .error error
  | .ok (store, group) => do
      set { world with store }
      log (.memberAdded key group)
      return .ok group

def mark (group : Group) : Moment Group := do
  let world ← get
  let (store, marked) := world.store.mark group world.wallTime
  set { world with store }
  return marked

def remove (key : Key) : Moment Unit := do
  let world ← get
  if (world.store.get? key).isSome then
    set { world with store := world.store.remove key }
    log (.groupRemoved key)

def survey (timeout : Nat) : Moment Engine.Survey := do
  let world ← get
  return ⟨world.store.overdue world.wallTime timeout, world.store.subscribers⟩

def subscribe (audience : Audience) : Moment Unit :=
  modify fun world =>
    let subscriber : Subscriber := ⟨world.audience.length⟩
    { world with
      store := world.store.subscribe subscriber
      audience := world.audience ++ [(subscriber, audience)] }

def processed (processor : Processor Outcome) (group : Group) :
    Moment (Except Error Outcome) := do
  match processor.kind with
  | .aggregating => do
      let time := (← get).wallTime
      let stamp ← inRoster fun roster => roster.stamp time
      return .ok (Processing.aggregate group stamp)
  | .resequencing => return .ok (Processing.resequence group)
  | .failing reason => return .error (.processing group.key.text reason)
  | .payloads =>
      return .ok
        (.many (group.unmarked.map fun member => .payload member.payload))
  | .counting =>
      return .ok (.ofPayload (.ofFields
        [("key", .text group.key.text), ("n", .ofNat group.unmarked.length)]))
  | .fixed outcome => return .ok outcome

def noteCall (number : Nat) (group : Group) : Moment Unit :=
  modify (World.changeHandler number fun state =>
    { state with calls := state.calls ++ [group.unmarked.length] })

def record (channel : Channel) (recorder : Recorder) (message : Message) :
    Moment (Except Error Unit) := do
  let sent := recorder.sent + 1
  let isRefused : Bool := match recorder.limit with
    | some limit => limit < sent
    | none => false
  let recorder :=
    if isRefused then { recorder with sent }
    else { recorder with
      sent, kept := recorder.kept + 1, news := recorder.news ++ [message] }
  modify fun world => world.setChannelState channel (.recorder recorder)
  return if isRefused then .error (.channelClosed channel.name) else .ok ()

def drop (channel : Channel) (dropped : Nat) (message : Message) :
    Moment Unit := do
  modify fun world => world.setChannelState channel (.null (dropped + 1))
  log (.dropped message)

def inQueue {α : Type} (channel : Channel) (otherwise : α)
    (act : Queue → Queue × α) :
    Moment α := fun world =>
  match world.channelState channel with
  | .queue queue =>
      let (queue, value) := act queue
      (value, world.setChannelState channel (.queue queue))
  | _ => (otherwise, world)

def joinLock (number : Nat) (key : Key) : Moment Nat := fun world =>
  match world.handlerState? number with
  | some state =>
      let (locks, ticket) := state.locks.join key
      (ticket, world.changeLocks number fun _ => locks)
  | none => (0, world)

def policyOf : PolicyScript → ReleasePolicy
  | .sequence partialRuns => Release.sequence partialRuns
  | .count threshold => Release.count threshold
  | .never => fun _ => false
  | .always => fun _ => true
  | .size threshold => fun group => threshold ≤ group.size

private def keyOfField (field : String) (message : Message) : Option Key :=
  match message.payload.field? field with
  | some (.text value) => some ⟨value⟩
  | some (.number (.integer value)) =>
      if value < Number.signedLimit then some (.ofInt value) else none
  | _ => none

private def correlationOf : CorrelationScript → Correlation
  | .header name => Correlation.byHeader name
  | .payloadField name => keyOfField name

def processorOf (script : Processor OutcomeScript) :
    Moment (Processor Outcome) := do
  let time := (← get).wallTime
  let kind : ProcessorKind Outcome ← match script.kind with
    | .aggregating => pure .aggregating
    | .resequencing => pure .resequencing
    | .failing reason => pure (.failing reason)
    | .payloads => pure .payloads
    | .counting => pure .counting
    | .fixed outcome => do
        let outcome ← inRoster fun roster => roster.outcome time outcome
        pure (.fixed outcome)
  return { kind, delay := script.delay }

private def nullChannel : Moment Channel := do
  let world ← get
  let id :=
    world.channels.foldl (fun next entry => max next (entry.1 + 1)) 1000000
  let channel : Channel := { id, name := "null_channel" }
  set (world.setChannelState channel (.null 0))
  return channel

def buildHandler (name : String) (script : HandlerScript) : Moment Unit := do
  let processor ← processorOf script.processor
  let output ← match script.output with
    | some name => do pure (some (← channel name))
    | none => pure none
  let discardChannel ← match script.discard with
    | some name => channel name
    | none => nullChannel
  let world ← get
  let configured := script.settings.getD .standard
  let router : Router :=
    { output
      hasResolver := world.hasRegistry
      timeout := script.sendTimeout.getD configured.sendTimeout }
  let correlation := match script.correlation with
    | some correlation => correlationOf correlation
    | none => Correlation.byHeader configured.correlationHeader
  let handler : Handler :=
    { correlation
      router
      discardChannel
      partialOnExpiry :=
        script.partialOnExpiry.getD configured.partialOnExpiry }
  let number := world.handlers.length
  modify fun world =>
    { world with
      handlers :=
        -- a handler that stood under the name before has it no longer
        (match world.handlerNumber? name with
          | some previous =>
              Assoc.adjust previous
                (fun state => { state with isNamed := false }) world.handlers
          | none => world.handlers) ++
        [(number,
          { handler, policy := policyOf script.policy, processor
            locks := .empty, calls := [], isNamed := true, users := 0 })]
      handlerNames := Assoc.put name number world.handlerNames }
  subscribe (.handler number)
  log (.handlerCreated handler.router.timeout handler.partialOnExpiry)

def declareChannel (name : String) (script : ChannelScript) :
    Moment Channel := do
  let ownName := match script.kind with
    | .null => some "null_channel"
    | _ => script.name
  let channel ← inRoster fun roster => roster.declare name ownName
  modify fun world => world.setChannelState channel (.ofKind script.kind)
  return channel

def register (name : String) (channel : Channel) : Moment Unit := do
  modify
    fun world => { world with registry := world.registry.register name channel }
  log (.channelRegistered name)

end Moment

end Collate.Simulation
