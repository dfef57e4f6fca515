import Collate.Text.Duration
import Collate.Text.Quoted

namespace Collate

/-- Whether and how often to sweep, and for groups of which age, in
milliseconds. -/
structure Reaper where
  enabled : Bool
  interval : Nat
  timeout : Nat
deriving DecidableEq, Inhabited

namespace Reaper

def standard : Reaper := { enabled := true, interval := 1000, timeout := 60000 }

/-- A sweep that starts no later than this after it was due is on time. -/
def tolerance : Nat := 5

/-- When the next sweep is due after one that was due at one time and starts at
another. After one that is late, it is the next of the regular times. -/
def nextDue (reaper : Reaper) (due now : Nat) : Nat :=
  if due + tolerance < now then
    now + reaper.interval - (now - due) % reaper.interval
  else due + reaper.interval

def description (reaper : Reaper) (id : String) (isRunning : Bool) : String :=
  Text.described "MessageGroupStoreReaper"
    [("reaper_id", id), ("timeout", Text.duration reaper.timeout), ("interval",
      Text.duration reaper.interval), ("enabled", toString reaper.enabled),
      ("has_shutdown_handle", toString isRunning)]

end Reaper

/-- A loop of sweeps, with its reaper as it was when the loop was started, and
when the next sweep is due. -/
structure SweepLoop where
  number : Nat
  reaper : Reaper
  due : Nat
deriving DecidableEq, Inhabited

def SweepLoop.next (sweepLoop : SweepLoop) (now : Nat) : SweepLoop :=
  { sweepLoop with due := sweepLoop.reaper.nextDue sweepLoop.due now }

/-- The reaper of a store, and the loops of sweeps that go on. -/
structure Reaping where
  reaper : Option Reaper
  handle : Option Nat
  loops : List SweepLoop
  started : Nat
deriving DecidableEq, Inhabited

namespace Reaping

def empty : Reaping :=
  { reaper := none, handle := none, loops := [], started := 0 }

def isRunning (reaping : Reaping) : Bool := reaping.handle.isSome

def loop? (reaping : Reaping) (number : Nat) : Option SweepLoop :=
  reaping.loops.find? fun sweepLoop => sweepLoop.number = number

def stop (reaping : Reaping) : Reaping :=
  match reaping.handle with
  | some number =>
      { reaping with
        handle := none
        loops :=
          reaping.loops.filter fun sweepLoop => sweepLoop.number ≠ number }
  | none => reaping

def make (reaper : Reaper) (reaping : Reaping) : Reaping :=
  { reaping.stop with reaper := some reaper }

def drop (reaping : Reaping) : Reaping := { reaping.stop with reaper := none }

/-- Starts a loop, unless the reaper is disabled or has started one already. A
loop without an interval never gets to its first sweep. -/
def start (now : Nat) (reaping : Reaping) : Reaping :=
  match reaping.reaper with
  | some reaper =>
      if !reaper.enabled || reaping.isRunning then reaping
      else
        { reaping with
          handle := some reaping.started
          loops := reaping.loops ++
            if reaper.interval = 0 then []
              else [{ number := reaping.started, reaper, due := now }]
          started := reaping.started + 1 }
  | none => reaping

def proceed (number now : Nat) (reaping : Reaping) : Reaping :=
  { reaping with
    loops := reaping.loops.map fun sweepLoop =>
      if sweepLoop.number = number then sweepLoop.next now else sweepLoop }

end Reaping

end Collate
