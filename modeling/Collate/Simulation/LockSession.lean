import Collate.LockTable

namespace Collate.Simulation

inductive LockCommand where
  | acquire (key : Key) (name : String)
  | wait (key : Key) (name : String)
  | cancel (name : String)
  | retain (name : String)
  | retire (name : String)
  | drop (name : String)
  | reclaim (key : Key)
  | contains (key : Key)
deriving Inhabited

inductive LockAnswer where
  | done
  | timeout
  | truth (value : Bool)
deriving DecidableEq, Inhabited

/-- A lock table, the tickets of the guards that are held, and those of the
waits. A name can be given to many waits, and `latest` has the ticket of the
last one. -/
structure LockSession where
  table : LockTable
  held : List (String × Nat)
  waits : List (Nat × String)
  latest : List (String × Nat)
  keys : List Key
deriving Inhabited

namespace LockSession

def empty : LockSession :=
  { table := .empty, held := [], waits := [], latest := [], keys := [] }

private def hold (session : LockSession) (ticket : Nat)
    (name : String) : LockSession :=
  let entered := session.table.enter ticket
  { session with
    table := match Assoc.get? name session.held with
      | some previous => entered.release previous
      | none => entered
    held := Assoc.put name ticket session.held
    waits := session.waits.filter fun wait => wait.1 ≠ ticket }

/-- Lets everyone go on who has got a lock; each round lets one go on. -/
private def settle : (rounds : Nat) → LockSession → LockSession
  | 0, session => session
  | rounds + 1, session =>
      match session.waits.find? fun wait => session.table.isOwner wait.1 with
      | some (ticket, name) => settle rounds (session.hold ticket name)
      | none => session

private def join (session : LockSession) (key : Key) : LockSession × Nat :=
  let (table, ticket) := session.table.join key
  ({ session with table }, ticket)

private def change (session : LockSession) (name : String)
    (act : LockTable → Nat → LockTable) : LockSession :=
  match Assoc.get? name session.held with
  | some ticket => { session with table := act session.table ticket }
  | none => session

private def mention (session : LockSession) (key : Key) : LockSession :=
  if session.keys.contains key then session
  else { session with keys := session.keys ++ [key] }

private def carryOut (session : LockSession) :
    LockCommand → LockSession × LockAnswer
  | .acquire key name =>
      let (joined, ticket) := (session.mention key).join key
      if joined.table.isOwner ticket then (joined.hold ticket name, .done)
      else ({ joined with table := joined.table.abandon ticket }, .timeout)
  | .wait key name =>
      let (joined, ticket) := (session.mention key).join key
      ({ joined with
          waits := joined.waits ++ [(ticket, name)]
          latest := Assoc.put name ticket joined.latest }, .done)
  | .cancel name =>
      match Assoc.get? name session.latest with
      | some ticket =>
          if session.waits.any fun wait => wait.1 = ticket then
            ({ session with
                table := session.table.abandon ticket
                waits :=
                  session.waits.filter fun wait => wait.1 ≠ ticket }, .done)
          else (session, .done)
      | none => (session, .done)
  | .retain name => (session.change name LockTable.retain, .done)
  | .retire name => (session.change name LockTable.retire, .done)
  | .drop name =>
      let dropped := session.change name LockTable.release
      ({ dropped with held := Assoc.erase name session.held },
        .truth (Assoc.get? name session.held).isSome)
  | .reclaim key =>
      let mentioned := session.mention key
      ({ mentioned with table := session.table.reclaim key },
        .truth (session.table.isReclaimable key))
  | .contains key => (session.mention key, .truth (session.table.contains key))

def step (session : LockSession) (command : LockCommand) :
    LockSession × LockAnswer :=
  let (session, answer) := session.carryOut command
  (settle session.waits.length session, answer)

def keysInTable (session : LockSession) : List Key :=
  (session.keys.filter fun key => session.table.contains key).mergeSort
    Key.precedes

def heldNames (session : LockSession) : List String :=
  (session.held.map Prod.fst).mergeSort
    fun left right => left < right || left = right

end LockSession

end Collate.Simulation
