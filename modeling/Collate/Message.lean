import Collate.Header

namespace Collate

structure MessageId where
  index : Nat
deriving DecidableEq, Inhabited

def MessageId.text (id : MessageId) : String := "message-" ++ toString id.index

/-- What a message gets when it is built: an identity and the time, in
milliseconds. -/
structure Stamp where
  id : MessageId
  time : Int
deriving DecidableEq, Inhabited

structure Message where
  stamp : Stamp
  headers : Headers
  payload : Json
deriving Inhabited

namespace Message

def id (message : Message) : MessageId := message.stamp.id

def time (message : Message) : Int := message.stamp.time

def sequenceNumber (message : Message) : Nat := message.headers.sequenceNumber

def sequenceSize (message : Message) : Nat := message.headers.sequenceSize

def ofPayload (payload : Json) (stamp : Stamp) : Message :=
  { stamp, headers := Headers.empty, payload }

/-- Equal messages: of one identity and time, with equal headers and
payloads. -/
def same (left right : Message) : Bool :=
  left.stamp = right.stamp && left.headers.same right.headers &&
    left.payload.same right.payload

end Message

structure Draft where
  payload : Json
  headers : Headers
deriving Inhabited

namespace Draft

def ofPayload (payload : Json) : Draft := { payload, headers := Headers.empty }

def ofMessage (message : Message) : Draft :=
  { payload := message.payload, headers := message.headers }

def header (draft : Draft) (name : String) (value : HeaderValue) : Draft :=
  { draft with headers := draft.headers.set name value }

def correlationId (draft : Draft) (value : HeaderValue) : Draft :=
  draft.header Header.correlationId value

def sequence (draft : Draft) (number size : Nat) : Draft :=
  (draft.header Header.sequenceNumber (.integer number)).header
    Header.sequenceSize (.integer size)

def replyChannel (draft : Draft) (channel : Channel) : Draft :=
  draft.header Header.replyChannel (.channel channel)

def replyChannelName (draft : Draft) (name : String) : Draft :=
  draft.header Header.replyChannel (.text name)

def build (draft : Draft) (stamp : Stamp) : Message :=
  { stamp, headers := draft.headers, payload := draft.payload }

end Draft

end Collate
