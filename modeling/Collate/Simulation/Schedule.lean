import Collate.Simulation.Surroundings

namespace Collate.Simulation

/-! Computation takes no time. The tasks take turns in a fixed order, and only
when all of them wait does the time jump, to the next moment that one of them
waits for. A wait that is over at the moment of its deadline counts as over. -/

structure Task where
  number : Nat
  rest : Activity Answer
  cutOff : Option Nat
  cleanUps : List (World → World)

inductive Progress where
  | finished (answer : Answer)
  | waiting (rest : Activity Answer) (cleanUps : List (World → World))

namespace Task

def proceed (world : World) (cleanUps : List (World → World)) :
    Activity Answer → World × Progress
  | .done answer => (world, .finished answer)
  | .ask (.act change) next => proceed (change world) cleanUps (next world)
  | .ask (.sleep wake) next =>
      if wake ≤ world.now then proceed world cleanUps (next ())
      else (world, .waiting (.ask (.sleep wake) next) cleanUps)
  | .ask (.await isReady deadline giveUp) next =>
      if isReady world then proceed world cleanUps (next true)
      else if deadline.any fun time => time ≤ world.now then
        proceed (giveUp world) cleanUps (next false)
      else
        (world, .waiting (.ask (.await isReady deadline giveUp) next) cleanUps)
  | .ask (.protect cleanUp) next =>
      proceed world (cleanUp :: cleanUps) (next ())
  | .ask .unprotect next => proceed world cleanUps.tail (next ())

def isReady (task : Task) (world : World) : Bool :=
  match task.rest with
  | .ask (.sleep wake) _ => wake ≤ world.now
  | .ask (.await isReady _ _) _ => isReady world
  | _ => true

def times (task : Task) : List Nat :=
  task.cutOff.toList ++
    match task.rest with
    | .ask (.sleep wake) _ => [wake]
    | .ask (.await _ deadline _) _ => deadline.toList
    | _ => []

def isLate (task : Task) (world : World) : Bool :=
  match task.rest with
  | .ask (.await _ (some deadline) _) _ => deadline ≤ world.now
  | _ => false

def isCutOff (task : Task) (world : World) : Bool :=
  task.cutOff.any fun time => time ≤ world.now

/-- Cuts a task off: what it waits for is given up, and its protections are
carried out. -/
def leave (task : Task) (world : World) : World :=
  let world := match task.rest with
    | .ask (.await _ _ giveUp) _ => giveUp world
    | _ => world
  task.cleanUps.foldl (fun world cleanUp => cleanUp world) world

end Task

structure Sweeping where
  sweepLoop : Nat
  task : Task

structure Schedule where
  world : World
  tasks : List Task
  sweepings : List Sweeping
  answers : List (Nat × Answer)
  nextTask : Nat

namespace Schedule

def ofWorld (world : World) : Schedule :=
  { world, tasks := [], sweepings := [], answers := [], nextTask := 0 }

/-- Adds a task, whose turn comes after those of all others. -/
def start (schedule : Schedule) (activity : Activity Answer)
    (cutOff : Option Nat) : Schedule × Nat :=
  let number := schedule.nextTask
  ({ schedule with
      tasks :=
        schedule.tasks ++ [{ number, rest := activity, cutOff, cleanUps := [] }]
      nextTask := number + 1 },
    number)

def cycle (number : Nat) : Activity Answer := do
  match (← Activity.now get).reaping.loop? number with
  | some { reaper, due, .. } => do
      Activity.take (.sleep due)
      Activity.now (modify fun world =>
        { world with reaping := world.reaping.proceed number world.now })
      let result ← Surroundings.sweep reaper.timeout
      Activity.now (Moment.log (.reaperSwept result))
      return .done
  | none => return .done

private def newCycle (sweepLoop number : Nat) : Task :=
  { number, rest := cycle sweepLoop, cutOff := none, cleanUps := [] }

private def follow (schedule : Schedule) (sweepLoop : Nat) : Schedule :=
  { schedule with
    sweepings := schedule.sweepings ++
      [{ sweepLoop, task := newCycle sweepLoop schedule.nextTask }]
    nextTask := schedule.nextTask + 1 }

def followReaper (schedule : Schedule) : Schedule :=
  let loops := schedule.world.reaping.loops.map SweepLoop.number
  let (going, stopped) := schedule.sweepings.partition fun sweeping =>
    loops.contains sweeping.sweepLoop
  let begun := loops.filter
      fun number => going.all fun sweeping => sweeping.sweepLoop ≠ number
  begun.foldl follow
    { schedule with
      world := stopped.foldl (fun world sweeping => sweeping.task.leave world)
        schedule.world
      sweepings := going }

def everyTask (schedule : Schedule) : List Task :=
  schedule.tasks ++ schedule.sweepings.map Sweeping.task

private def sweeping? (schedule : Schedule) (task : Task) : Option Sweeping :=
  schedule.sweepings.find? fun sweeping => sweeping.task.number = task.number

private def put (schedule : Schedule) (task : Task) : Schedule :=
  let change : Task → Task :=
    fun other => if other.number = task.number then task else other
  { schedule with
    tasks := schedule.tasks.map change
    sweepings := schedule.sweepings.map fun sweeping =>
      { sweeping with task := change sweeping.task } }

private def finish (schedule : Schedule) (task : Task)
    (answer : Answer) : Schedule :=
  { schedule with
    tasks := schedule.tasks.filter fun other => other.number ≠ task.number
    answers := schedule.answers ++ [(task.number, answer)] }

private def cutOff (schedule : Schedule) (task : Task) : Schedule :=
  { schedule with world := task.leave schedule.world }.finish task .cutOff

/-- Lets a task go on. One that has to wait though its time has run out is cut
off. A sweep that is finished is followed by another cycle. -/
private def resume (schedule : Schedule) (task : Task) : Schedule :=
  let (world, progress) := Task.proceed schedule.world task.cleanUps task.rest
  let schedule := { schedule with world }
  match progress with
  | .finished answer =>
      match schedule.sweeping? task with
      | some { sweepLoop, .. } => schedule.put (newCycle sweepLoop task.number)
      | none => schedule.finish task answer
  | .waiting rest cleanUps =>
      let waiting := { task with rest, cleanUps }
      if waiting.isCutOff world then schedule.cutOff waiting
      else schedule.put waiting

private def turn (schedule : Schedule) (task : Task) : Schedule × Bool :=
  if task.isReady schedule.world || task.isLate schedule.world then
    (schedule.resume task, true)
  else if task.isCutOff schedule.world then (schedule.cutOff task, true)
  else (schedule, false)

private def turns (schedule : Schedule) : List Task → Schedule × Bool
  | [] => (schedule, false)
  | task :: rest =>
      let (schedule, hasGoneOn) := schedule.turn task
      let (schedule, haveGoneOn) := turns schedule rest
      (schedule, hasGoneOn || haveGoneOn)

def round (schedule : Schedule) : Schedule × Bool :=
  let (schedule, haveGoneOn) := schedule.turns schedule.tasks
  let schedule := schedule.followReaper
  let (schedule, haveSwept) :=
    schedule.turns (schedule.sweepings.map Sweeping.task)
  (schedule, haveGoneOn || haveSwept)

def nextTime? (schedule : Schedule) : Option Nat :=
  ((schedule.everyTask.flatMap Task.times).filter
    fun time => schedule.world.now < time).min?

def isAnswered (schedule : Schedule) (number : Nat) : Bool :=
  (Assoc.get? number schedule.answers).isSome

/-- Lets tasks go on and time pass until some tasks are finished, and until
nothing else can happen at that time; the number of rounds is bounded. -/
def run (goals : List Nat) : (bound : Nat) → Schedule → Schedule
  | 0, schedule => schedule
  | bound + 1, schedule =>
      match schedule.round with
      | (schedule, true) => run goals bound schedule
      | (schedule, false) =>
          if goals.all schedule.isAnswered then schedule
          else
            match schedule.nextTime? with
            | some time =>
                run goals bound
                  { schedule with world := { schedule.world with now := time } }
            | none => schedule

def roundBound : Nat := 100000000

def runUntil (schedule : Schedule) (goals : List Nat) : Schedule :=
  run goals roundBound schedule

end Schedule

end Collate.Simulation
