import Collate.Message

namespace Collate

/-- One reply: a message as it is, or a payload that a new message is to
carry. -/
inductive Reply where
  | message (message : Message)
  | payload (payload : Json)
deriving Inhabited

namespace Reply

def isMessage : Reply → Bool
  | .message _ => true
  | .payload _ => false

def payloadOf : Reply → Json
  | .message sent => sent.payload
  | .payload value => value

end Reply

inductive Outcome where
  | single (reply : Reply)
  | many (replies : List Reply)
deriving Inhabited

namespace Outcome

def ofMessage (message : Message) : Outcome := .single (.message message)

def ofPayload (payload : Json) : Outcome := .single (.payload payload)

def ofMessages (messages : List Message) : Outcome :=
  .many (messages.map Reply.message)

def isFanOut : Outcome → Bool
  | .single _ => false
  | .many replies => replies.any Reply.isMessage

def parts : Outcome → List Reply
  | .single reply => [reply]
  | .many replies =>
      if replies.any Reply.isMessage then replies
      else [.payload (.array (replies.map Reply.payloadOf))]

end Outcome

end Collate
