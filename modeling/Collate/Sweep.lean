import Collate.Engine.Request

namespace Collate

/-- How far a sweep has come: who still listens, who is gone, and the first
failure. -/
structure Sweep where
  listening : List Subscriber
  gone : List Subscriber
  failure : Option Error
deriving Inhabited

namespace Sweep

/-- One group's way through the subscribers: those who listen on, those who are
gone, the first failure, and whether somebody has taken care of the group. -/
structure Round where
  listening : List Subscriber
  gone : List Subscriber
  failure : Option Error
  isHandled : Bool
deriving Inhabited

namespace Round

def start (sweep : Sweep) : Round :=
  { listening := [], gone := sweep.gone, failure := sweep.failure,
    isHandled := false }

def handled (round : Round) (subscriber : Subscriber) : Round :=
  { round with listening := round.listening ++ [subscriber], isHandled := true }

def unsubscribed (round : Round) (subscriber : Subscriber) : Round :=
  { round with gone := round.gone ++ [subscriber] }

def failed (round : Round) (subscriber : Subscriber) (error : Error) : Round :=
  { round with
    listening := round.listening ++ [subscriber]
    failure := some (round.failure.getD error)
    isHandled := true }

end Round

def offer (group : Group) (round : Round) : List Subscriber → Call Round
  | [] => return round
  | subscriber :: rest => do
      match ← Call.ask (.notify subscriber group) with
      | .ok .handled => offer group (round.handled subscriber) rest
      | .ok .unsubscribed => do
          Call.log (.subscriberGone group.key)
          offer group (round.unsubscribed subscriber) rest
      | .error error => do
          Call.log (.subscriberFailed group.key error)
          offer group (round.failed subscriber error) rest

def offerAll (sweep : Sweep) : List Group → Call Sweep
  | [] => return sweep
  | group :: rest => do
      Call.log (.expiring group)
      let round ← offer group (.start sweep) sweep.listening
      if !round.isHandled then Call.ask (.removeUnchanged group)
      offerAll
        { listening := round.listening, gone := round.gone, failure :=
            round.failure } rest

/-- Sweeps the store for groups that have lived for a number of milliseconds.
Gives their number, or the first failure. -/
def run (timeout : Nat) : Call (Except Error Nat) := do
  let survey ← Call.ask (.survey timeout)
  if survey.groups.isEmpty then return .ok 0
  else do
    let sweep ←
      offerAll { listening := survey.subscribers, gone := [], failure := none }
        survey.groups
    if !sweep.gone.isEmpty then Call.ask (.unsubscribe sweep.gone)
    match sweep.failure with
    | some error => return .error error
    | none => return .ok survey.groups.length

end Sweep

end Collate
