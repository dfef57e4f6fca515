import Collate.Log.Event
import Collate.Outcome
import Collate.Program
import Collate.Store

namespace Collate.Engine

inductive Reaction where
  | handled
  | unsubscribed
deriving DecidableEq, Inhabited

/-- A look at the store at the beginning of a sweep. -/
structure Survey where
  groups : List Group
  subscribers : List Subscriber
deriving Inhabited

inductive Request where
  | lock (key : Key)
  | retain (ticket : Nat)
  | retire (ticket : Nat)
  | unlock (ticket : Nat)
  /-- The stored group of a key, or an empty one. -/
  | load (key : Key)
  | add (key : Key) (message : Message)
  | mark (group : Group)
  | remove (key : Key)
  /-- Whether a group is to be released. -/
  | judge (group : Group)
  /-- What becomes of a released group. -/
  | process (group : Group)
  | build (payload : Json)
  | resolve (name : String)
  | deliver (channel : Channel) (message : Message)
  | deliverWithin (limit : Nat) (channel : Channel) (message : Message)
  /-- The groups that have lived for a number of milliseconds, and the
  subscribers there are. -/
  | survey (timeout : Nat)
  | notify (subscriber : Subscriber) (group : Group)
  | removeUnchanged (group : Group)
  | unsubscribe (gone : List Subscriber)
  | log (event : Log.Event)

/-- What each question is answered with; none is for a time that has run out. -/
@[reducible] def Request.Answer : Request → Type
  | .lock _ => Nat
  | .load _ => Except Error Group
  | .add _ _ => Except Error Group
  | .mark _ => Except Error Group
  | .remove _ => Except Error Unit
  | .judge _ => Bool
  | .process _ => Except Error Outcome
  | .build _ => Message
  | .resolve _ => Except Error Channel
  | .deliver _ _ => Except Error Unit
  | .deliverWithin _ _ _ => Option (Except Error Unit)
  | .survey _ => Survey
  | .notify _ _ => Except Error Reaction
  | _ => Unit

@[reducible] def interface : Interface := ⟨Request, Request.Answer⟩

/-- Whether a caller may be kept waiting at a question, and may be cut off
there. -/
def Request.mayWait : Request → Bool
  | .lock _ => true
  | .add _ _ => true
  | .process _ => true
  | .deliver _ _ => true
  | .deliverWithin _ _ _ => true
  | .notify _ _ => true
  | _ => false

end Collate.Engine

namespace Collate

abbrev Call := Program Engine.interface

namespace Call

def ask (request : Engine.Request) : Call request.Answer :=
  Program.ask request .done

def log (event : Log.Event) : Call Unit := ask (.log event)

def firstFailure {α β : Type} : Except Error α → Except Error β → Except Error β
  | .error error, _ => .error error
  | .ok _, second => second

end Call

end Collate
