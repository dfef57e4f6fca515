import Collate.Simulation.Execution
import Collate.Simulation.Schedule

namespace Collate.Simulation

/-- A call of a queue. Whoever sends or receives may wait no longer than some
milliseconds. -/
inductive Use where
  | send (limit : Option Nat) (message : Message)
  | receive (limit : Option Nat)
  | tryReceive
  | drain

namespace Use

open Surroundings in
def activity (channel : Channel) : Use → Activity Answer
  | .send none message => do return .ofUnit (← deliver channel message)
  | .send (some limit) message => do
      match ← deliverWithin limit channel message with
      | some result => return .ofUnit result
      | none => return .timeout
  | .receive none => do return .received (← Surroundings.receive channel)
  | .receive (some limit) => do
      match ← receiveWithin limit channel with
      | some message => return .received (some message)
      | none => return .timeout
  | .tryReceive => do return .received (← atFront channel none Queue.take)
  | .drain => do return .messages (← atFront channel [] Queue.takeAll)

def sent : Use → Answer → List Message
  | .send _ message, .done => [message]
  | _, _ => []

end Use

def Answer.handedOut : Answer → List Message
  | .received taken => taken.toList
  | .messages taken => taken
  | _ => []

namespace Task

def step (world : World) (task : Task) : World × Task :=
  match task.rest with
  | .done _ => (world, task)
  | .ask (.act change) next => (change world, { task with rest := next world })
  | .ask (.sleep wake) next =>
      if wake ≤ world.now then (world, { task with rest := next () })
        else (world, task)
  | .ask (.await isReady deadline giveUp) next =>
      if isReady world then (world, { task with rest := next true })
      else if deadline.any fun time => time ≤ world.now then
        (giveUp world, { task with rest := next false })
      else (world, task)
  | .ask (.protect cleanUp) next =>
      (world,
        { task with rest := next (), cleanUps := cleanUp :: task.cleanUps })
  | .ask .unprotect next =>
      (world, { task with rest := next (), cleanUps := task.cleanUps.tail })

def isPausing (task : Task) : Bool :=
  match task.rest with
  | .ask (.sleep _) _ => true
  | .ask (.await _ _ _) _ => true
  | _ => false

end Task

/-- A world, the calls that go on, those that have begun in the order in which
they did, those that are finished and what they have come to, and those that
have been dropped. -/
structure Crowd where
  world : World
  task : Nat → Option Task
  begun : List Nat
  finished : List (Nat × Answer)
  dropped : List Nat

namespace Crowd

inductive Move where
  | turn (call : Nat)
  | drop (call : Nat)
  | pass (milliseconds : Nat)

def start (world : World) (activity : Nat → Activity Answer) : Crowd where
  world := world
  task call := some
    { number := call, rest := activity call, cutOff := none, cleanUps := [] }
  begun := []
  finished := []
  dropped := []

def put (crowd : Crowd) (call : Nat) (task : Option Task) : Crowd :=
  { crowd with
    task := fun other => if other = call then task else crowd.task other }

def begunWith (crowd : Crowd) (call : Nat) : List Nat :=
  if call ∈ crowd.begun then crowd.begun else crowd.begun ++ [call]

def settle (crowd : Crowd) (call : Nat) (task : Task) : Crowd :=
  match task.rest with
  | .done answer =>
      { crowd.put call none with
        finished := crowd.finished ++ [(call, answer)] }
  | .ask _ _ => crowd.put call (some task)

theorem settle_of_done {crowd : Crowd} {call : Nat} {task : Task}
    {answer : Answer} (ended : task.rest = Program.done answer) :
    crowd.settle call task = { crowd.put call none with
      finished := crowd.finished ++ [(call, answer)] } := by
  unfold settle
  rw [ended]

theorem settle_of_ask {crowd : Crowd} {call : Nat} {task : Task} {step : Step}
    {next : step.Answer → Activity Answer}
    (goesOn : task.rest = Program.ask step next) :
    crowd.settle call task = crowd.put call (some task) := by
  unfold settle
  rw [goesOn]

def turn (crowd : Crowd) (call : Nat) : Crowd :=
  match crowd.task call with
  | none => crowd
  | some task =>
      let stepped := task.step crowd.world
      { crowd with world := stepped.1, begun := crowd.begunWith call }.settle
        call stepped.2

def drop (crowd : Crowd) (call : Nat) : Crowd :=
  match crowd.task call with
  | none => crowd
  | some task =>
      if call ∉ crowd.begun then
        { crowd.put call none with dropped := crowd.dropped ++ [call] }
      else if task.isPausing then
        { crowd.put call none with
          world := task.leave crowd.world, dropped := crowd.dropped ++ [call] }
      else crowd

def pass (crowd : Crowd) (milliseconds : Nat) : Crowd :=
  { crowd with
    world := { crowd.world with now := crowd.world.now + milliseconds } }

def move (crowd : Crowd) : Move → Crowd
  | .turn call => crowd.turn call
  | .drop call => crowd.drop call
  | .pass milliseconds => crowd.pass milliseconds

def play (crowd : Crowd) (moves : List Move) : Crowd := moves.foldl move crowd

def handedOut (crowd : Crowd) : List Message :=
  crowd.finished.flatMap fun (_, answer) => answer.handedOut

def sent (crowd : Crowd) (uses : Nat → Use) : List Message :=
  crowd.finished.flatMap fun (call, answer) => (uses call).sent answer

def before (crowd : Crowd) (call : Nat) : List Nat :=
  crowd.begun.takeWhile fun other => other ≠ call

end Crowd

end Collate.Simulation
