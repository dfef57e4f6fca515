import Collate.Correlation
import Collate.Router

namespace Collate

structure Handler where
  correlation : Correlation
  router : Router
  discardChannel : Channel
  partialOnExpiry : Bool

namespace Handler

def locked {α : Type} (key : Key) (body : (ticket : Nat) → Call α) :
    Call α := do
  let ticket ← Call.ask (.lock key)
  let result ← body ticket
  Call.ask (.unlock ticket)
  return result

def discard (handler : Handler) (key : Key) (message : Message) :
    Call (Except Error Unit) := do
  match ← Call.ask (.deliver handler.discardChannel message) with
  | .ok () => return .ok ()
  | .error error => do
      Call.log (.dispatchFailed handler.discardChannel.name key error.message)
      return .error error

def discardAll (handler : Handler) (key : Key) :
    List Message → Call (Except Error Unit)
  | [] => return .ok ()
  | message :: rest => do
      match ← handler.discard key message with
      | .ok () => handler.discardAll key rest
      | .error error => return .error error

def removeGroup (ticket : Nat) (key : Key) : Call (Except Error Unit) := do
  match ← Call.ask (.remove key) with
  | .ok () => do
      Call.ask (.retire ticket)
      return .ok ()
  | .error error => return .error error

/-- After a release: removes a group to which nothing more belongs, and marks
any other. -/
def cleanUp (ticket : Nat) (group : Group) : Call (Except Error Unit) := do
  if group.isComplete || group.sequenceSize = 0 then
    removeGroup ticket group.key
  else
    match ← Call.ask (.mark group) with
    | .ok _ => return .ok ()
    | .error error => return .error error

def dispatch (handler : Handler) (key : Key) (outcome : Outcome)
    (address : Option HeaderValue) : Call (Except Error Unit) := do
  match ← handler.router.sendReplies outcome address key with
  | .ok sent => do
      Call.log (.repliesDispatched key sent)
      return .ok ()
  | .error error => do
      Call.log (.dispatchFailed "reply" key error.message)
      return .error error

/-- Processes a group that is ready, cleans up whatever has come of it, and then
sends the replies. A failure of the processor counts before a failure of the
cleaning up. -/
def release (handler : Handler) (ticket : Nat) (key : Key) (group : Group)
    (address : Option HeaderValue) : Call (Except Error Unit) := do
  let outcome ← Call.ask (.process group)
  let cleaned ← cleanUp ticket group
  match outcome, cleaned with
  | .error error, _ => do
      Call.log (.processingFailed key error)
      return .error error
  | .ok _, .error error => return .error error
  | .ok outcome, .ok () => do
      Call.log (.groupOperation "release" key group.size "processed" none)
      handler.dispatch key outcome address

/-- Discards what a complete group still holds if it must not be released, and
removes it. -/
def refuse (handler : Handler) (ticket : Nat) (key : Key) (group : Group) :
    Call (Except Error Unit) := do
  Call.log (.completeRefused key group)
  let discarded ← handler.discardAll group.key group.unmarked
  let removed ← removeGroup ticket key
  match Call.firstFailure discarded removed with
  | .error error => return .error error
  | .ok () => do
      Call.log (.groupOperation "discard" key group.size "removed" none)
      return .ok ()

def enroll (handler : Handler) (ticket : Nat) (key : Key) (message : Message) :
    Call (Except Error Unit) := do
  match ← Call.ask (.add key message) with
  | .error error => return .error error
  | .ok group => do
      Call.ask (.retain ticket)
      Call.log (.admitted key group)
      let isReady ← Call.ask (.judge group)
      if isReady then
        handler.release ticket key group message.headers.replyChannel
      else if group.isComplete then handler.refuse ticket key group
      else return .ok ()

def receive (handler : Handler) (ticket : Nat) (key : Key) (message : Message) :
    Call (Except Error Unit) := do
  match ← Call.ask (.load key) with
  | .error error => return .error error
  | .ok group => do
      if !group.isEmpty then Call.ask (.retain ticket)
      if group.canAdd message then handler.enroll ticket key message
      else do
        Call.log (.rejected key message)
        handler.discard key message

def handle (handler : Handler) (message : Message) :
    Call (Except Error Unit) := do
  match handler.correlation message with
  | none => do
      Call.log (.withoutKey message)
      return .error (.missingKey message.id.text)
  | some key => locked key fun ticket => handler.receive ticket key message

def releaseExpired (handler : Handler) (group : Group) :
    Call (Except Error Unit) := do
  match ← Call.ask (.process group) with
  | .error error => return .error error
  | .ok outcome =>
      handler.dispatch group.key outcome
        (group.first?.bind fun message => message.headers.replyChannel)

def isDue (handler : Handler) (group : Group) : Call Bool :=
  if handler.partialOnExpiry then return true else Call.ask (.judge group)

def conclude (handler : Handler) (group : Group) (isReady : Bool) :
    Call (Except Error Unit) :=
  if isReady then handler.releaseExpired group
  else handler.discardAll group.key group.unmarked

/-- Finishes the stored group of a key whose lock is held, and removes it in any
case. -/
def finish (handler : Handler) (ticket : Nat) (key : Key) (group : Group) :
    Call (Except Error Bool) := do
  let isReady ← handler.isDue group
  Call.log (.finishing key group isReady)
  let finished ← handler.conclude group isReady
  let removed ← removeGroup ticket key
  match Call.firstFailure finished removed with
  | .error error => return .error error
  | .ok () => do
      let status := if isReady then "processed" else "discarded"
      Call.log (.groupOperation "force_complete" key group.size status none)
      return .ok true

def finishSeen (handler : Handler) (ticket : Nat) (seen : Group) :
    Call (Except Error Bool) := do
  match ← Call.ask (.load seen.key) with
  | .error error => return .error error
  | .ok group =>
      if group.isEmpty then do
        Call.log (.nothingToFinish seen.key)
        return .ok false
      else do
        Call.ask (.retain ticket)
        if group.generation ≠ seen.generation then do
          Call.log (.replaced seen.key)
          return .ok false
        else handler.finish ticket seen.key group

/-- Finishes a group that was seen to expire; false if it is gone or another has
come. -/
def forceComplete (handler : Handler) (seen : Group) :
    Call (Except Error Bool) :=
  locked seen.key fun ticket => handler.finishSeen ticket seen

/-- What a handler answers when it is told about an expired group. -/
def onExpiry (handler : Handler) (seen : Group) :
    Call (Except Error Engine.Reaction) := do
  match ← handler.forceComplete seen with
  | .ok _ => return .ok .handled
  | .error error => return .error error

def componentType : String := "aggregator"

def description (handler : Handler) (activeLocks : Nat) : String :=
  Text.described "CorrelatingMessageHandler"
    [("router", handler.router.description),
      ("discard_channel", Text.quoted handler.discardChannel.name),
      ("send_partial_result_on_expiry", toString handler.partialOnExpiry),
      ("active_locks", toString activeLocks)]

end Handler

end Collate
