import Collate.Handler
import Collate.Proofs.Locks.Standing
import Collate.Sweep

namespace Collate.Interleaving

/-! In each turn one call asks one question of the engine, joins the line for a
lock, or gets the lock when the line has come to it. -/

/-- What the surroundings contribute to the answer to one question. -/
structure Circumstances where
  generation : Nat
  stamp : Stamp
  time : Int
  /-- The failure of an operation of the store, which then leaves the store as
  it is. -/
  fault : Option Error
  judge : Group → Bool
  process : Group → Except Error Outcome
  resolve : String → Except Error Channel
  deliver : Channel → Message → Except Error Unit
  deliverWithin : Nat → Channel → Message → Option (Except Error Unit)
  /-- The order in which the store gives its groups. -/
  rank : Key → Nat

/-- The circumstances of a call's turn, by the number of the call and of its
turns before. -/
abbrev Environment := Nat → Nat → Circumstances

namespace Circumstances

def unlessFault {α : Type} (circumstances : Circumstances) (store : Store)
    (act : Store × Except Error α) : Store × Except Error α :=
  match circumstances.fault with
  | some error => (store, .error error)
  | none => act

/-- The store after a question, and the answer. Questions about locks are
answered by the lock table, and those to a subscriber by its handler. -/
def answer (circumstances : Circumstances) (store : Store) :
    (request : Engine.Request) → Store × request.Answer
  | .load key =>
      circumstances.unlessFault store
        (store,
          .ok (store.load key circumstances.generation circumstances.time))
  | .add key message =>
      circumstances.unlessFault store
        (match store.add key message circumstances.generation
            circumstances.time with
          | .ok (added, group) => (added, .ok group)
          | .error error => (store, .error error))
  | .mark group =>
      circumstances.unlessFault store
        ((store.mark group circumstances.time).1,
          .ok (store.mark group circumstances.time).2)
  | .remove key => circumstances.unlessFault store (store.remove key, .ok ())
  | .judge group => (store, circumstances.judge group)
  | .process group => (store, circumstances.process group)
  | .build payload => (store, .ofPayload payload circumstances.stamp)
  | .resolve name => (store, circumstances.resolve name)
  | .deliver channel message => (store, circumstances.deliver channel message)
  | .deliverWithin limit channel message =>
      (store, circumstances.deliverWithin limit channel message)
  | .survey timeout =>
      (store,
        { groups :=
            (store.overdue circumstances.time timeout).mergeSort
              fun left right =>
                circumstances.rank left.key ≤ circumstances.rank right.key
          subscribers := store.subscribers })
  | .removeUnchanged group => (store.removeUnchanged group, ())
  | .unsubscribe gone => (store.unsubscribe gone, ())
  | .notify _ _ => (store, .ok .unsubscribed)
  | .lock _ => (store, 0)
  | .retain _ => (store, ())
  | .retire _ => (store, ())
  | .unlock _ => (store, ())
  | .log _ => (store, ())

end Circumstances

inductive Result where
  | handled (result : Except Error Unit)
  | finished (result : Except Error Bool)
  | swept (result : Except Error Nat)

/-- A call of the handler, or of its store to sweep. -/
inductive Invocation where
  | handle (message : Message)
  | forceComplete (seen : Group)
  | expire (timeout : Nat)

/-- A program whose questions to subscribers go to a handler that lives. -/
def attend {α : Type} (handler : Handler) : Call α → Call α
  | Program.done value => .done value
  | Program.ask (.notify _ group) next =>
      (handler.onExpiry group).bind
        fun reaction => attend handler (next reaction)
  | Program.ask request next =>
      Program.ask request fun answer => attend handler (next answer)

def Invocation.program (handler : Handler) : Invocation → Call Result
  | .handle message =>
      (handler.handle message).bind fun result => .done (.handled result)
  | .forceComplete seen =>
      (handler.forceComplete seen).bind fun result => .done (.finished result)
  | .expire timeout =>
      (attend handler (Sweep.run timeout)).bind
        fun result => .done (.swept result)

def result? : Call Result → Option Result
  | Program.done result => some result
  | Program.ask _ _ => none

/-- How far a call has come: it has no lock, waits for one, or has one. -/
inductive Phase where
  | outside (rest : Call Result)
  | waiting (key : Key) (ticket : Nat) (next : Nat → Call Result)
  | inside (key : Key) (ticket : Nat) (rest : Call Result)

def Phase.ticket? : Phase → Option Nat
  | .outside _ => none
  | .waiting _ ticket _ => some ticket
  | .inside _ ticket _ => some ticket

/-- What a call does in one turn. -/
inductive Act where
  | asked (key : Key)
  | entered
  | answered (request : Engine.Request) (answer : request.Answer)
  | left (keepsEntry : Bool) (result : Option Result)

/-- A turn of a call, and the key whose lock the call had. -/
structure Event where
  call : Nat
  key : Option Key
  act : Act

/-- A store and the locks of the handler that uses it, the calls, and all that
has happened. -/
structure System where
  store : Store
  locks : LockTable
  phase : Nat → Phase
  trace : List Event

namespace System

def subscriber : Subscriber := ⟨0⟩

def start (capacity : Nat) (program : Nat → Call Result) : System :=
  { store := (Store.empty capacity).subscribe subscriber
    locks := .empty
    phase := fun call => .outside (program call)
    trace := [] }

def own (system : System) (call : Nat) : List Event :=
  system.trace.filter fun event => event.call = call

def result? (system : System) (call : Nat) : Option Result :=
  match system.phase call with
  | .outside rest => Interleaving.result? rest
  | _ => none

def go (system : System) (event : Event) (phase : Phase) : System :=
  { system with
    phase := fun call => if call = event.call then phase else system.phase call
    trace := system.trace ++ [event] }

def settle (locks : LockTable) : Engine.Request → LockTable
  | .retain ticket => locks.retain ticket
  | .retire ticket => locks.retire ticket
  | _ => locks

def respond (system : System) (circumstances : Circumstances) (call : Nat)
    (key : Option Key) (request : Engine.Request)
    (phase : request.Answer → Phase) : System :=
  let (store, answer) := circumstances.answer system.store request
  { system with store, locks := settle system.locks request }.go
    ⟨call, key, .answered request answer⟩ (phase answer)

/-- One turn of a call. A call that waits for a lock which has not come to it
stays as it is, and so does one that is at its end. -/
def advance (environment : Environment) (system : System)
    (call : Nat) : System :=
  let circumstances := environment call (system.own call).length
  match system.phase call with
  | .outside (Program.done _) => system
  | .outside (Program.ask (.lock key) next) =>
      let (locks, ticket) := system.locks.join key
      { system with locks }.go ⟨call, none, .asked key⟩
        (.waiting key ticket next)
  | .outside (Program.ask request next) =>
      system.respond circumstances call none request
        fun answer => .outside (next answer)
  | .waiting key ticket next =>
      if system.locks.isOwner ticket then
        { system with locks := system.locks.enter ticket }.go
          ⟨call, some key, .entered⟩ (.inside key ticket (next ticket))
      else system
  | .inside _ _ (Program.done _) => system
  | .inside key _ (Program.ask (.unlock given) next) =>
      { system with locks := system.locks.release given }.go ⟨call, some key,
        .left (system.locks.keepsEntry key) (Interleaving.result? (next ()))⟩
          (.outside (next ()))
  | .inside key ticket (Program.ask request next) =>
      system.respond circumstances call (some key) request fun answer =>
        .inside key ticket (next answer)

def run (environment : Environment) (system : System)
    (schedule : List Nat) : System :=
  schedule.foldl (advance environment) system

end System

end Collate.Interleaving
