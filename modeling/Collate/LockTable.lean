import Collate.Assoc
import Collate.Key

namespace Collate

/-- How far a claim has come: its caller still has to go on, or holds a guard,
which may keep the entry of its key when it is released. -/
inductive Claim.Stage where
  | pending
  | guard (keepsEntry : Bool)
deriving DecidableEq, Inhabited

/-- A caller's claim on the mutex that it found under a key. -/
structure Claim where
  ticket : Nat
  key : Key
  mutex : Nat
  stage : Claim.Stage
deriving DecidableEq, Inhabited

/-- The mutexes under their keys, and all claims in the order of asking. -/
structure LockTable where
  entries : List (Key × Nat)
  claims : List Claim
  nextMutex : Nat
  nextTicket : Nat
deriving DecidableEq, Inhabited

namespace LockTable

def empty : LockTable :=
  { entries := [], claims := [], nextMutex := 0, nextTicket := 0 }

def size (table : LockTable) : Nat := table.entries.length

def contains (table : LockTable) (key : Key) : Bool :=
  (Assoc.get? key table.entries).isSome

def claim? (table : LockTable) (ticket : Nat) : Option Claim :=
  table.claims.find? fun claim => claim.ticket = ticket

def owner? (table : LockTable) (mutex : Nat) : Option Claim :=
  table.claims.find? fun claim => claim.mutex = mutex

def isOwner (table : LockTable) (ticket : Nat) : Bool :=
  match table.claim? ticket with
  | some claim =>
      (table.owner? claim.mutex).any fun owner => owner.ticket = ticket
  | none => false

def isGuard (table : LockTable) (ticket : Nat) : Bool :=
  match table.claim? ticket with
  | some claim => claim.stage ≠ .pending
  | none => false

def mutexFor (table : LockTable) (key : Key) : LockTable × Nat :=
  match Assoc.get? key table.entries with
  | some mutex => (table, mutex)
  | none =>
      ({ table with
          entries := table.entries ++ [(key, table.nextMutex)]
          nextMutex := table.nextMutex + 1 },
        table.nextMutex)

def join (table : LockTable) (key : Key) : LockTable × Nat :=
  let (table, mutex) := table.mutexFor key
  let ticket := table.nextTicket
  ({ table with
      claims := table.claims ++ [{ ticket, key, mutex, stage := .pending }]
      nextTicket := ticket + 1 },
    ticket)

def setStage (table : LockTable) (ticket : Nat)
    (stage : Claim.Stage) : LockTable :=
  { table with
    claims := table.claims.map fun claim =>
      if claim.ticket = ticket then { claim with stage } else claim }

def enter (table : LockTable) (ticket : Nat) : LockTable :=
  if table.isOwner ticket && !table.isGuard ticket then
    table.setStage ticket (.guard false)
  else table

def retain (table : LockTable) (ticket : Nat) : LockTable :=
  if table.isGuard ticket then table.setStage ticket (.guard true) else table

def retire (table : LockTable) (ticket : Nat) : LockTable :=
  if table.isGuard ticket then table.setStage ticket (.guard false) else table

def isClaimed (table : LockTable) (mutex : Nat) : Bool :=
  table.claims.any fun claim => claim.mutex = mutex

def isReclaimable (table : LockTable) (key : Key) : Bool :=
  match Assoc.get? key table.entries with
  | some mutex => !table.isClaimed mutex
  | none => false

/-- Drops the entry of a key if nobody has a claim on its mutex. -/
def reclaim (table : LockTable) (key : Key) : LockTable :=
  if table.isReclaimable key then
    { table with entries := Assoc.erase key table.entries } else table

def withdraw (table : LockTable) (ticket : Nat) : LockTable :=
  { table with
    claims := table.claims.filter fun claim => claim.ticket ≠ ticket }

/-- Gives a guard back. The next claim in line owns the mutex from now on; the
entry of the key goes unless the guard keeps it. -/
def release (table : LockTable) (ticket : Nat) : LockTable :=
  match table.claim? ticket with
  | some { key, stage := .guard keepsEntry, .. } =>
      let released := table.withdraw ticket
      if keepsEntry then released else released.reclaim key
  | _ => table

/-- Gives up a claim that has not become a guard; the entry of the key stays as
it is. -/
def abandon (table : LockTable) (ticket : Nat) : LockTable :=
  match table.claim? ticket with
  | some { stage := .pending, .. } => table.withdraw ticket
  | _ => table

end LockTable

end Collate
