import Collate.Simulation.World

namespace Collate.Simulation

inductive GrowthStep where
  | add (message : MessageScript)
  | mark
deriving Inhabited

namespace Moment

private def grow (group : Group) : GrowthStep → Moment Group
  | .add script => do
      let message ← message script
      match ← add group.key message with
      | .ok group => return group
      | .error _ => return group
  | .mark => mark group

private def growFrom (group : Group) : List GrowthStep → Moment (List Group)
  | [] => return [group]
  | step :: rest => do
      let next ← grow group step
      return group :: (← growFrom next rest)

def growth (key : Key) (steps : List GrowthStep) : Moment (List Group) := do
  growFrom (← load key) steps

end Moment

end Collate.Simulation
