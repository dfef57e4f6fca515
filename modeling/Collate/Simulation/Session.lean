import Collate.Simulation.Execution
import Collate.Simulation.Schedule

namespace Collate.Simulation

structure HandlerView where
  locks : Option Nat
  calls : List Nat

inductive ChannelView where
  | queue (size : Nat)
  | null (dropped : Nat)
  | recorder (news : List Message)

structure View where
  time : Nat
  groups : Nat
  messages : Nat
  subscribers : Nat
  handlers : List (String × HandlerView)
  channels : List (String × ChannelView)
  notes : List (String × List String)
  events : List Log.Event

/-- The generations that have been shown, in the order of their first
appearance, and the sizes that channels had at the last look. -/
structure Session where
  schedule : Schedule
  generations : List Nat
  sizes : List (Nat × Nat)

/-- The tasks of a command: one, or those of the commands that go on at the same
time. -/
inductive Started where
  | one (task : Nat)
  | all (parts : List Started)

namespace Started

mutual
def numbers : Started → List Nat
  | .one task => [task]
  | .all parts => numbersOfAll parts

def numbersOfAll : List Started → List Nat
  | [] => []
  | first :: rest => first.numbers ++ numbersOfAll rest
end

mutual
def answer (answers : List (Nat × Answer)) : Started → Answer
  | .one task => (Assoc.get? task answers).getD .cutOff
  | .all parts => .all (answersOfAll answers parts)

def answersOfAll (answers : List (Nat × Answer)) : List Started → List Answer
  | [] => []
  | first :: rest => first.answer answers :: answersOfAll answers rest
end

end Started

namespace Session

def world (session : Session) : World := session.schedule.world

private def place (generations : List Nat) (generation : Nat) :
    List Nat × Nat :=
  match generations.idxOf? generation with
  | some place => (generations, place)
  | none => (generations ++ [generation], generations.length)

private def placed (generations : List Nat) : Answer → List Nat × Answer
  | .group group _ =>
      let (generations, place) := place generations group.generation
      (generations, .group group place)
  | answer => (generations, answer)

private def placedAll (generations : List Nat) :
    List (Nat × Answer) → List Nat × List (Nat × Answer)
  | [] => (generations, [])
  | (number, answer) :: rest =>
      let (generations, answer) := placed generations answer
      let (generations, answers) := placedAll generations rest
      (generations, (number, answer) :: answers)

mutual
private def start (schedule : Schedule) : Command → Schedule × Started
  | .concurrent commands =>
      let (schedule, parts) := startAll schedule commands
      (schedule, .all parts)
  | command =>
      let (schedule, number) := schedule.start (Execution.ofCommand command)
        (command.cutOff?.map fun cutOff => schedule.world.now + cutOff)
      (schedule, .one number)

private def startAll (schedule : Schedule) :
    List Command → Schedule × List Started
  | [] => (schedule, [])
  | command :: rest =>
      let (schedule, first) := start schedule command
      let (schedule, others) := startAll schedule rest
      (schedule, first :: others)
end

/-- Carries out a command, and all that happens until it is finished. The
generations get their places in the order in which the tasks come to their
answers. -/
def carryOut (session : Session) (command : Command) : Session × Answer :=
  let (schedule, started) :=
    start { session.schedule with answers := [] } command
  let schedule := schedule.runUntil started.numbers
  let (generations, answers) := placedAll session.generations schedule.answers
  ({ session with schedule, generations }, started.answer answers)

private def handlerView (world : World) (number : Nat) : HandlerView :=
  match world.handlerState? number with
  | some state =>
      { locks := if state.isAlive then some state.locks.size else none,
        calls := state.calls }
  | none => { locks := none, calls := [] }

private def channelView (size : Nat) : ChannelState → Option ChannelView
  | .queue queue => if queue.size = size then none else some (.queue queue.size)
  | .null dropped => if dropped = size then none else some (.null dropped)
  | .recorder recorder =>
      if recorder.news.isEmpty then none else some (.recorder recorder.news)

private def sizeOf : ChannelState → Nat
  | .queue queue => queue.size
  | .null dropped => dropped
  | .recorder _ => 0

private def listenerNotes (audience : List (Subscriber × Audience)) :
    List (String × List String) :=
  audience.filterMap fun (_, audience) =>
    match audience with
    | .listener listener =>
        if listener.notes.isEmpty then none
        else some (listener.name, listener.notes)
    | .handler _ => none

private def view (session : Session) : View :=
  let world := session.world
  { time := world.now
    groups := world.store.groupCount
    messages := world.store.messageCount
    subscribers := world.store.subscribers.length
    handlers := world.handlerNames.map
      fun (name, number) => (name, handlerView world number)
    channels := world.roster.channels.filterMap fun (name, channel) =>
      (channelView ((Assoc.get? channel.id session.sizes).getD 0)
        (world.channelState channel)).map fun view => (name, view)
    notes := listenerNotes world.audience
    events := world.journal.reverse }

private def seen (world : World) : World :=
  { world with
    handlers := world.handlers.map
      fun (number, state) => (number, { state with calls := [] })
    channels := world.channels.map fun (id, state) =>
      (id, match state with
        | .recorder recorder => .recorder { recorder with news := [] }
        | other => other)
    audience := world.audience.map fun (subscriber, audience) =>
      (subscriber, match audience with
        | .listener listener => .listener { listener with notes := [] }
        | other => other)
    journal := [] }

def look (session : Session) : Session × View :=
  let world := session.world
  ({ session with
      schedule := { session.schedule with world := seen world }
      sizes := world.roster.channels.map fun (_, channel) =>
        (channel.id, sizeOf (world.channelState channel)) },
    session.view)

private def setUp (setup : Setup) : Moment Unit := do
  for (name, script) in setup.channels do
    let _ ← Moment.declareChannel name script
  match setup.registry with
  | some entries => do
      modify fun world => { world with hasRegistry := true }
      for (name, channelName) in entries do
        let channel ← Moment.channel channelName
        Moment.register name channel
  | none => pure ()
  let output ← match setup.output with
    | some name => do pure (some (← Moment.channel name))
    | none => pure none
  modify fun world =>
    { world with
      router :=
        { output
          hasResolver := world.hasRegistry
          timeout := setup.sendTimeout.getD Router.standardTimeout } }
  for (name, script) in setup.handlers do
    Moment.buildHandler name script

def ofSetup (setup : Setup) : Session :=
  let (_, world) := setUp setup (World.empty setup.capacity setup.addDelay)
  { schedule := .ofWorld world, generations := [], sizes := [] }

def step (session : Session) (command : Command) : Session × Answer × View :=
  let (session, answer) := session.carryOut command
  let (session, view) := session.look
  (session, answer, view)

end Session

end Collate.Simulation
