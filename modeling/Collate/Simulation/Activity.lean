import Collate.Simulation.World

namespace Collate.Simulation

inductive Step where
  | act (change : World → World)
  | sleep (wake : Nat)
  /-- Waits until the world is ready. It gives up at a deadline, and then
  changes the world. -/
  | await (isReady : World → Bool) (deadline : Option Nat)
      (giveUp : World → World)
  /-- From now on, the world is to be changed if the activity is cut off. -/
  | protect (cleanUp : World → World)
  | unprotect

@[reducible] def Step.Answer : Step → Type
  | .act _ => World
  | .await _ _ _ => Bool
  | _ => Unit

@[reducible] def steps : Interface := ⟨Step, Step.Answer⟩

abbrev Activity := Program steps

namespace Activity

def take (step : Step) : Activity step.Answer := Program.ask step .done

def now {α : Type} (moment : Moment α) : Activity α := do
  let before ← take (.act fun world => (moment world).2)
  return (moment before).1

def pause (milliseconds : Nat) : Activity Unit := do
  if 0 < milliseconds then
    let world ← now get
    take (.sleep (world.now + milliseconds))

def await (isReady : World → Bool) (giveUp : World → World) :
    Activity Unit := do
  let _ ← take (.await isReady none giveUp)
  return ()

def awaitWithin (milliseconds : Nat) (isReady : World → Bool)
    (giveUp : World → World) :
    Activity Bool := do
  let world ← now get
  take (.await isReady (some (world.now + milliseconds)) giveUp)

end Activity

end Collate.Simulation
