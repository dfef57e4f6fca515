import Collate.Assoc
import Collate.Error
import Collate.Group

namespace Collate

structure Subscriber where
  index : Nat
deriving DecidableEq, Inhabited

/-- The stored groups. A capacity of zero is no bound. -/
structure Store where
  groups : List (Key × Group)
  messageCount : Nat
  capacity : Nat
  subscribers : List Subscriber
deriving Inhabited

namespace Store

def empty (capacity : Nat) : Store :=
  { groups := [], messageCount := 0, capacity, subscribers := [] }

def get? (store : Store) (key : Key) : Option Group :=
  Assoc.get? key store.groups

def groupCount (store : Store) : Nat := store.groups.length

def load (store : Store) (key : Key) (generation : Nat) (time : Int) : Group :=
  (store.get? key).getD (Group.empty key generation time)

def hasRoom (store : Store) : Bool :=
  store.capacity = 0 || store.messageCount < store.capacity

def add (store : Store) (key : Key) (message : Message) (generation : Nat)
    (time : Int) : Except Error (Store × Group) :=
  if store.hasRoom then
    let group := (store.load key generation time).add message time
    .ok ({ store with
            groups := Assoc.put key group store.groups
            messageCount := store.messageCount + 1 }, group)
  else .error (.storeFull store.capacity)

/-- Marks all members of the stored group of a group's key. Where there is none,
the group itself is given back with all its members marked. -/
def mark (store : Store) (group : Group) (time : Int) : Store × Group :=
  match store.get? group.key with
  | some stored =>
      let marked := stored.markAll time
      ({ store with groups := Assoc.put group.key marked store.groups }, marked)
  | none => (store, group.markAll time)

def remove (store : Store) (key : Key) : Store :=
  match store.get? key with
  | some group =>
      { store with
        groups := Assoc.erase key store.groups
        messageCount := store.messageCount - group.size }
  | none => store

/-- Removes the group of a group's key unless another generation has taken its
place. -/
def removeUnchanged (store : Store) (group : Group) : Store :=
  match store.get? group.key with
  | some stored =>
      if stored.generation = group.generation then store.remove group.key
      else store
  | none => store

/-- Whether a group has lived for a time. A group from the future has not. -/
def isOverdue (now : Int) (timeout : Nat) (group : Group) : Bool :=
  0 ≤ group.age now && timeout ≤ group.age now

def overdue (store : Store) (now : Int) (timeout : Nat) : List Group :=
  (store.groups.map Prod.snd).filter (isOverdue now timeout)

def subscribe (store : Store) (subscriber : Subscriber) : Store :=
  { store with subscribers := store.subscribers ++ [subscriber] }

def unsubscribe (store : Store) (gone : List Subscriber) : Store :=
  { store with
    subscribers :=
      store.subscribers.filter fun subscriber => !gone.contains subscriber }

def description (store : Store) : String :=
  Text.described "SimpleMessageStore" [("groups", toString store.groupCount),
    ("messages", toString store.messageCount), ("capacity", toString
      store.capacity), ("expiry_callbacks", toString store.subscribers.length)]

end Store

end Collate
