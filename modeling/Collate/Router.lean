import Collate.Engine.Request
import Collate.Text.Duration

namespace Collate

/-- Where a handler's replies go, and how long a channel may take for each of
them. -/
structure Router where
  output : Option Channel
  hasResolver : Bool
  timeout : Nat
deriving Inhabited

namespace Router

def standardTimeout : Nat := 1000

def standard : Router :=
  { output := none, hasResolver := false, timeout := standardTimeout }

def unresolvable (name : String) : Error :=
  .configuration "reply_router" ("reply channel '" ++ name ++
    "' given by name but no channel resolver is configured")

def destination (router : Router) (address : Option HeaderValue) (key : Key) :
    Call (Except Error Channel) :=
  match router.output, address with
  | some channel, _ => return .ok channel
  | none, none => return .error (.noDestination key.text)
  | none, some (.channel channel) => return .ok channel
  | none, some (.text name) =>
      if router.hasResolver then Call.ask (.resolve name)
      else return .error (unresolvable name)
  | none, some value => return .error (.invalidDestination value.kind)

def messagesOf : List Reply → Call (List Message)
  | [] => return []
  | .message message :: rest => do
      let messages ← messagesOf rest
      return message :: messages
  | .payload payload :: rest => do
      let message ← Call.ask (.build payload)
      let messages ← messagesOf rest
      return message :: messages

def sendAll (router : Router) (channel : Channel) :
    List Message → Call (Except Error Unit)
  | [] => return .ok ()
  | message :: rest => do
      match ← Call.ask (.deliverWithin router.timeout channel message) with
      | some (.ok ()) => sendAll router channel rest
      | some (.error error) => return .error error
      | none => do
          Call.log (.dispatchTimedOut channel.name router.timeout)
          return .error (.sendTimeout channel.name router.timeout)

def sendReplies (router : Router) (outcome : Outcome)
    (address : Option HeaderValue) (key : Key) : Call (Except Error Nat) := do
  match ← router.destination address key with
  | .error error => return .error error
  | .ok channel => do
      let messages ← messagesOf outcome.parts
      Call.log
        (.sendingReplies key channel.name messages.length outcome.isFanOut)
      match ← router.sendAll channel messages with
      | .error error => return .error error
      | .ok () => return .ok messages.length

def description (router : Router) : String :=
  let output := match router.output with
    | some channel => "Some(" ++ Text.quoted channel.name ++ ")"
    | none => "None"
  Text.described "ReplyRouter"
    [("output_channel", output), ("has_resolver", toString router.hasResolver),
      ("send_timeout", Text.duration router.timeout)]

end Router

end Collate
