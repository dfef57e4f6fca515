import Collate.Simulation.Surroundings

namespace Collate.Simulation

open Activity (now)

namespace Answer

def ofResult {α : Type} (answer : α → Answer) : Except Error α → Answer
  | .ok value => answer value
  | .error error => .failure error

def ofUnit : Except Error Unit → Answer := ofResult fun _ => .done

def ofGroup (group : Group) : Answer := .group group 0

end Answer

namespace Execution

private def groupOf : GroupScript → Moment (Option Group)
  | .remembered none => return none
  | .remembered (some name) => return Assoc.get? name (← get).remembered
  | .empty key => do
      let generation ← Moment.newGeneration
      return some (Group.empty key generation (← get).wallTime)

private def remember (name : Option String) (group : Group) : Moment Unit :=
  match name with
  | some name =>
      modify fun world =>
        { world with remembered := Assoc.put name group world.remembered }
  | none => return ()

private def handlerState? (name : String) :
    Moment (Option (Nat × HandlerState)) := do
  let world ← get
  return (world.handlerNumber? name).bind fun number =>
    (world.handlerState? number).map fun state => (number, state)

private def withHandler (name : String)
    (act : Nat → HandlerState → Activity Answer) :
    Activity Answer := do
  match ← now (handlerState? name) with
  | some (number, state) => act number state
  | none => return .failure (.internal ("no handler " ++ name))

private def handle (handler : String) (script : MessageScript) :
    Activity Answer := do
  let message ← now (Moment.message script)
  withHandler handler fun number state => do
    let result ← Surroundings.occupy number
      ((state.handler.handle message).runIn (Surroundings.answer number))
    return .ofUnit result

private def force (handler : String) (script : GroupScript) :
    Activity Answer := do
  match ← now (groupOf script) with
  | none => return .noGroup
  | some group =>
      withHandler handler fun number state => do
        let result ← Surroundings.occupy number ((state.handler.forceComplete
          group).runIn (Surroundings.answer number))
        return .ofResult Answer.truth result

private def look (key : Key) (name : Option String) : Moment Answer := do
  match ← Moment.unlessFault .get (Moment.load key) with
  | .ok group => do
      remember name group
      return .ofGroup group
  | .error error => return .failure error

private def canAdd (key : Key) (script : MessageScript) : Moment Answer := do
  let message ← Moment.message script
  match ← Moment.unlessFault .get (Moment.load key) with
  | .ok group => return .truth (group.canAdd message)
  | .error error => return .failure error

private def add (key : Key) (script : MessageScript) : Activity Answer := do
  let message ← now (Moment.message script)
  let result ← Surroundings.add key message
  return .ofResult Answer.ofGroup result

private def mark (script : GroupScript) : Moment Answer := do
  match ← groupOf script with
  | none => return .noGroup
  | some group =>
      return .ofResult Answer.ofGroup
        (← Moment.unlessFault .mark (Moment.mark group))

private def countOf : ChannelState → Nat
  | .queue queue => queue.size
  | .null dropped => dropped
  | .recorder recorder => recorder.kept

private def withQueue (name : String) (act : Channel → Activity Answer) :
    Activity Answer := do
  let channel ← now (Moment.channel name)
  match (← now get).channelState channel with
  | .queue _ => act channel
  | other => return .count (countOf other)

private def send (name : String) (script : MessageScript) (limit : Nat) :
    Activity Answer := do
  let channel ← now (Moment.channel name)
  let message ← now (Moment.message script)
  match ← Surroundings.deliverWithin limit channel message with
  | some result => return .ofUnit result
  | none => return .timeout

private def receive (name : String) (limit : Nat) : Activity Answer :=
  withQueue name fun channel => do
    match ← Surroundings.receiveWithin limit channel with
    | some message => return .received (some message)
    | none => return .timeout

private def tryReceive (name : String) : Activity Answer :=
  withQueue name fun channel => do
    return .received (← Surroundings.atFront channel none Queue.take)

private def drain (name : String) : Activity Answer :=
  withQueue name fun channel => do
    return .messages (← Surroundings.atFront channel [] Queue.takeAll)

private def measure (name : String) : Activity Answer :=
  withQueue name fun channel => do
    match (← now get).queue? channel with
    | some queue => return .size queue.size
    | none => return .size 0

private def rendezvous (name : String) (script : MessageScript) :
    Activity Answer :=
  withQueue name fun channel => do
    let message ← now (Moment.message script)
    let earlier ← now (Moment.inQueue channel none Queue.take)
    let _ ← Surroundings.deliverWithin 0 channel message
    let received ← match earlier with
      | some message => pure (some message)
      | none => now (Moment.inQueue channel none Queue.take)
    return .all [.received received, .truth true]

private def limitChannel (name : String) (limit : Option Nat) :
    Moment Answer := do
  let channel ← Moment.channel name
  match (← get).channelState channel with
  | .recorder recorder => do
      modify fun world =>
        world.setChannelState channel (.recorder { recorder with limit })
      return .done
  | _ => return .notARecorder

private def unregister (name : String) : Moment Answer := do
  let world ← get
  let found := world.registry.get? name
  set { world with registry := world.registry.unregister name }
  return .channel found

private def addressOf : Option HeaderScript → Moment (Option HeaderValue)
  | none => return none
  | some script =>
      some <$> Moment.inRoster fun roster => roster.headerValue script

private def route (script : OutcomeScript)
    (address : Option HeaderScript) (key : Key) :
    Activity Answer := do
  let world ← now get
  let outcome ←
    now (Moment.inRoster fun roster => roster.outcome world.wallTime script)
  let address ← now (addressOf address)
  let result ←
    (world.router.sendReplies outcome address key).runIn (Surroundings.answer 0)
  return .ofResult Answer.count result

private def resolve (address : Option HeaderScript) (key : Key) :
    Activity Answer := do
  let world ← now get
  let address ← now (addressOf address)
  let result ←
    (world.router.destination address key).runIn (Surroundings.answer 0)
  return .ofResult Answer.destination result

private def reaperAnswer : Moment Answer := do
  return .reaper none (← get).reaping.isRunning

private def stopReaper : Moment Unit := do
  if (← get).reaping.isRunning then do
    Moment.log .reaperStopping
    modify fun world => { world with reaping := world.reaping.stop }

private def newReaper (script : ReaperScript) : Moment Answer := do
  stopReaper
  let base := match script.settings with
    | some settings => settings.reaper
    | none => .standard
  let reaper : Reaper :=
    { enabled := script.enabled.getD base.enabled
      interval := script.interval.getD base.interval
      timeout := script.timeout.getD base.timeout }
  modify fun world => { world with reaping := world.reaping.make reaper }
  return .reaper (some reaper.enabled) false

private def startReaper : Moment Answer := do
  let reaping := (← get).reaping
  match reaping.reaper with
  | none => return .reaper none false
  | some reaper => do
      if !reaper.enabled then Moment.log .reaperDisabled
      else if reaping.isRunning then Moment.log .reaperAlreadyRunning
      else Moment.log (.reaperStarting reaper.interval reaper.timeout)
      modify
        fun world => { world with reaping := world.reaping.start world.now }
      reaperAnswer

private def dropReaper : Moment Answer := do
  stopReaper
  modify fun world => { world with reaping := world.reaping.drop }
  return .done

private def sweep (timeout : Nat) : Activity Answer := do
  return .ofResult Answer.count (← Surroundings.sweep timeout)

private def runReaper : Activity Answer := do
  match (← now get).reaping.reaper with
  | some reaper => sweep reaper.timeout
  | none => return .failure (.internal "no reaper")

private def inspect (handler : String) : Activity Answer :=
  withHandler handler fun _ state => do
    let world ← now get
    return .handler state.handler.router.timeout state.handler.partialOnExpiry
      world.store.capacity

private def describe : Subject → Moment String
  | .store => return (← get).store.description
  | .handler name => do
      match ← handlerState? name with
      | some (_, state) => return state.handler.description state.locks.size
      | none => return ""
  | .router => return (← get).router.description
  | .registry => return (← get).registry.description
  | .reaper => do
      let reaping := (← get).reaping
      match reaping.reaper with
      | some reaper => return reaper.description "<id>" reaping.isRunning
      | none => return ""
  | .channel name => do
      let channel ← Moment.channel name
      let world ← get
      match world.channelState channel with
      | .queue queue => return queue.description channel.name
      | .null dropped =>
          return Text.described "NullChannel" [("dropped", toString dropped)]
      | .recorder _ => return world.registry.description

/-- The activity that a command is. Commands that go on at the same time are
activities of their own. -/
def ofCommand : Command → Activity Answer
  | .handle handler message _ => handle handler message
  | .force handler group => force handler group
  | .expire timeout => sweep timeout
  | .get key name => now (look key name)
  | .declare channel script => now do
      return .text (← Moment.declareChannel channel script).name
  | .send channel message limit => send channel message limit
  | .measure channel => measure channel
  | .rendezvous channel message => rendezvous channel message
  | .register channel name => now do
      let channel ← Moment.channel channel
      Moment.register (name.getD channel.name) channel
      return .done
  | .lookUp name => now do
      return .ofResult Answer.found ((← get).registry.resolve name)
  | .canAdd key message => now (canAdd key message)
  | .add key message => add key message
  | .mark group => now (mark group)
  | .remove key => now do
      return .ofUnit (← Moment.unlessFault .remove (Moment.remove key))
  | .storeFail methods => now do
      modify fun world => { world with faults := methods }
      return .done
  | .limitChannel channel limit => now (limitChannel channel limit)
  | .listen name acts isBlind => now do
      Moment.subscribe (.listener { name, acts, isBlind, notes := [] })
      return .done
  | .dropHandler handler => now do
      match ← handlerState? handler with
      | some (number, _) =>
          modify (World.changeHandler number
            fun state => { state with isNamed := false })
      | none => pure ()
      return .done
  | .buildHandler name handler => now do
      Moment.buildHandler name handler
      return .done
  | .inspect handler => inspect handler
  | .drain channel => drain channel
  | .tryReceive channel => tryReceive channel
  | .receive channel limit => receive channel limit
  | .route outcome address key => route outcome address key
  | .resolve address key => resolve address key
  | .unregister name => now (unregister name)
  | .reaperNew reaper => now (newReaper reaper)
  | .reaperStart => now startReaper
  | .reaperStop => now do
      stopReaper
      reaperAnswer
  | .reaperRunOnce => runReaper
  | .reaperDrop => now dropReaper
  | .advance milliseconds => do
      Activity.pause milliseconds
      return .done
  | .skew milliseconds => now do
      modify fun world => { world with skew := world.skew + milliseconds }
      return .done
  | .concurrent _ => return .done
  | .describe subject => now do return .text (← describe subject)

end Execution

end Collate.Simulation
