import Collate.Group
import Collate.Outcome

namespace Collate.Processing

/-- The unmarked members by sequence number; members of equal numbers keep the
order of arrival. -/
def inSequence (group : Group) : List Message :=
  group.unmarked.mergeSort
    fun left right => left.sequenceNumber ≤ right.sequenceNumber

def isSequenceHeader (name : String) : Bool :=
  name = Header.sequenceNumber || name = Header.sequenceSize

def agrees (name : String) (value : HeaderValue) (message : Message) : Bool :=
  match message.headers.get? name with
  | some other => other.same value
  | none => false

/-- The headers of the first message that all others have with equal values,
without the headers on the sequence. -/
def commonHeaders : List Message → Headers
  | [] => Headers.empty
  | first :: rest =>
      first.headers.filter fun entry =>
        !isSequenceHeader entry.1 && rest.all (agrees entry.1 entry.2)

/-- Collects the payloads into one array, under the headers that the members
have in common. -/
def aggregate (group : Group) (stamp : Stamp) : Outcome :=
  let messages := inSequence group
  .ofMessage
    { stamp
      headers := commonHeaders messages
      payload := .array (messages.map Message.payload) }

def resequence (group : Group) : Outcome :=
  .ofMessages (inSequence group)

end Collate.Processing
