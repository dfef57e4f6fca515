import Collate.Error
import Collate.Group

namespace Collate.Log

inductive Level where
  | error
  | warn
  | info
  | debug
  | trace
deriving DecidableEq, Inhabited

namespace Level

def rank : Level → Nat
  | .error => 1
  | .warn => 2
  | .info => 3
  | .debug => 4
  | .trace => 5

def name : Level → String
  | .error => "ERROR"
  | .warn => "WARN"
  | .info => "INFO"
  | .debug => "DEBUG"
  | .trace => "TRACE"

end Level

/-- The value of a field. A quoted text stands between quotes in lines for
people. -/
inductive FieldValue where
  | shown (text : String)
  | quoted (text : String)
  | number (value : Nat)
  | flag (value : Bool)
deriving DecidableEq, Inhabited

def FieldValue.text : FieldValue → String
  | .shown text => text
  | .quoted text => text
  | .number value => toString value
  | .flag value => toString value

structure Event where
  level : Level
  target : String
  message : String
  fields : List (String × FieldValue)
deriving Inhabited

namespace Event

private def handlerTarget : String := "correlator::aggregator::handler"

private def replyTarget : String := "correlator::aggregator::reply"

private def channelTarget : String := "correlator::messaging::channel"

private def storeTarget : String := "correlator::store::simple"

private def reaperTarget : String := "correlator::store::reaper"

private def loggingTarget : String := "correlator::logging"

private def keyField (key : Key) : String × FieldValue :=
  ("correlation_key", .shown key.text)

private def sizeField (group : Group) : String × FieldValue :=
  ("group_size", .number group.size)

private def errorField (error : Error) : String × FieldValue :=
  ("error", .shown error.message)

private def messageField (message : Message) : String × FieldValue :=
  ("message_id", .shown message.id.text)

def withoutKey (message : Message) : Event where
  level := .warn
  target := handlerTarget
  message := "Message carries no correlation key"
  fields := [messageField message]

def rejected (key : Key) (message : Message) : Event where
  level := .warn
  target := handlerTarget
  message := "Message rejected by group, discarding"
  fields := [keyField key, messageField message]

def admitted (key : Key) (group : Group) : Event where
  level := .debug
  target := handlerTarget
  message := "Message admitted"
  fields := [keyField key, sizeField group,
    ("sequence_size", .number group.sequenceSize)]

def processingFailed (key : Key) (error : Error) : Event where
  level := .error
  target := handlerTarget
  message := "Group processor failed"
  fields := [keyField key, errorField error]

def completeRefused (key : Key) (group : Group) : Event where
  level := .warn
  target := handlerTarget
  message := "Complete group refused by release decider, discarding"
  fields := [keyField key, sizeField group]

def nothingToFinish (key : Key) : Event where
  level := .debug
  target := handlerTarget
  message := "No buffered group to complete"
  fields := [keyField key]

def replaced (key : Key) : Event where
  level := .debug
  target := handlerTarget
  message := "Group was replaced since it expired, skipping"
  fields := [keyField key]

def finishing (key : Key) (group : Group) (release : Bool) : Event where
  level := .info
  target := handlerTarget
  message := "Forcing completion of expired group"
  fields := [keyField key, sizeField group, ("release", .flag release)]

def repliesDispatched (key : Key) (sent : Nat) : Event where
  level := .debug
  target := handlerTarget
  message := "Replies dispatched"
  fields := [keyField key, ("sent", .number sent)]

def handlerGone (key : Key) : Event where
  level := .debug
  target := handlerTarget
  message := "Handler dropped, unsubscribing from expiry"
  fields := [keyField key]

def handlerCreated (timeout : Nat) (partialOnExpiry : Bool) : Event where
  level := .debug
  target := handlerTarget
  message := "Correlating message handler created"
  fields :=
    [("send_timeout_ms", .number timeout),
      ("send_partial_result_on_expiry", .flag partialOnExpiry)]

def groupOperation (operation : String) (key : Key) (size : Nat)
    (status : String) (details : Option String) : Event where
  level := .info
  target := loggingTarget
  message := "GROUP_OPERATION"
  fields :=
    [("operation", .shown operation), keyField key,
      ("group_size", .number size), ("status", .shown status)] ++
    (details.map fun text => ("details", FieldValue.quoted text)).toList

def dispatchFailed (channel : String) (key : Key)
    (reason : String) : Event where
  level := .error
  target := loggingTarget
  message := "DISPATCH_FAILURE"
  fields :=
    [("channel", .shown channel), keyField key, ("error", .shown reason)]

def sendingReplies (key : Key) (channel : String) (count : Nat)
    (isFanOut : Bool) : Event where
  level := .debug
  target := replyTarget
  message := "Sending replies"
  fields :=
    [keyField key, ("channel", .shown channel), ("messages", .number count),
      ("fan_out", .flag isFanOut)]

def dispatchTimedOut (channel : String) (timeout : Nat) : Event where
  level := .error
  target := replyTarget
  message := "Reply dispatch timed out"
  fields := [("channel", .shown channel), ("timeout_ms", .number timeout)]

def dropped (message : Message) : Event where
  level := .debug
  target := channelTarget
  message := "Message dropped by null channel"
  fields := [messageField message]

def channelRegistered (name : String) : Event where
  level := .info
  target := channelTarget
  message := "Registered channel"
  fields := [("channel", .shown name)]

def memberAdded (key : Key) (group : Group) : Event where
  level := .debug
  target := storeTarget
  message := "Message added to group"
  fields := [keyField key, sizeField group]

def groupRemoved (key : Key) : Event where
  level := .debug
  target := storeTarget
  message := "Message group removed"
  fields := [keyField key]

def expiring (group : Group) : Event where
  level := .info
  target := storeTarget
  message := "Expiring message group"
  fields := [keyField group.key, sizeField group]

def subscriberGone (key : Key) : Event where
  level := .debug
  target := storeTarget
  message := "Expiry subscriber gone, dropping callback"
  fields := [keyField key]

def subscriberFailed (key : Key) (error : Error) : Event where
  level := .warn
  target := storeTarget
  message := "Expiry callback failed"
  fields := [keyField key, errorField error]

def reaperDisabled : Event where
  level := .info
  target := reaperTarget
  message := "Reaper disabled, not starting"
  fields := []

def reaperAlreadyRunning : Event where
  level := .warn
  target := reaperTarget
  message := "Reaper already running"
  fields := []

def reaperStarting (interval timeout : Nat) : Event where
  level := .info
  target := reaperTarget
  message := "Starting message group reaper"
  fields := [("interval_ms", .number interval), ("timeout_ms", .number timeout)]

def reaperStopping : Event where
  level := .info
  target := reaperTarget
  message := "Stopping message group reaper"
  fields := []

def reaperSwept : Except Error Nat → Event
  | .ok 0 =>
      { level := .debug
        target := reaperTarget
        message := "No stale groups this cycle"
        fields := [] }
  | .ok expired =>
      { level := .info
        target := reaperTarget
        message := "Reaper expired message groups"
        fields := [("expired", .number expired)] }
  | .error error =>
      { level := .error
        target := reaperTarget
        message := "Reaper cycle failed"
        fields := [errorField error] }

def loggingStarted (environment level : String) (json : Bool) : Event where
  level := .info
  target := loggingTarget
  message := "Structured logging initialized"
  fields :=
    [("environment", .shown environment), ("log_level", .shown level),
      ("json", .flag json)]

end Event

end Collate.Log
