import Collate.Key
import Collate.Message

namespace Collate

/-- The messages that were collected under a key. The generation tells a group
from other groups that have lived under its key. -/
structure Group where
  key : Key
  members : List Message
  markedCount : Nat
  generation : Nat
  createdAt : Int
  modifiedAt : Int
deriving Inhabited

namespace Group

def empty (key : Key) (generation : Nat) (time : Int) : Group :=
  { key, members := [], markedCount := 0, generation, createdAt := time,
    modifiedAt := time }

def marked (group : Group) : List Message :=
  group.members.take group.markedCount

def unmarked (group : Group) : List Message :=
  group.members.drop group.markedCount

def size (group : Group) : Nat := group.members.length

def isEmpty (group : Group) : Bool := group.members.isEmpty

def first? (group : Group) : Option Message := group.members.head?

/-- The length of the sequence, as the first member declares it; zero where it
is not known. -/
def sequenceSize (group : Group) : Nat :=
  match group.first? with
  | some message => message.sequenceSize
  | none => 0

/-- The greatest number among the marked members; zero if there is none. -/
def lastReleased (group : Group) : Nat :=
  group.marked.foldl
    (fun greatest message => max greatest message.sequenceNumber) 0

/-- Whether as many members are here as the first one declares. -/
def isComplete (group : Group) : Bool :=
  0 < group.sequenceSize && group.sequenceSize ≤ group.size

/-- Whether a message may join. One that is here already may not; one with a
place in a sequence may not if it declares another length than the group, or if
its place is taken. -/
def canAdd (group : Group) (message : Message) : Bool :=
  if group.members.any fun member => member.id = message.id then false
  else if message.sequenceNumber = 0 || group.isEmpty then true
  else if message.sequenceSize ≠ group.sequenceSize then false
  else !group.members.any
    fun member => member.sequenceNumber = message.sequenceNumber

def add (group : Group) (message : Message) (time : Int) : Group :=
  { group with members := group.members ++ [message], modifiedAt := time }

def markAll (group : Group) (time : Int) : Group :=
  { group with markedCount := group.members.length, modifiedAt := time }

def age (group : Group) (now : Int) : Int := now - group.createdAt

end Group

end Collate
