import Collate.Text.Quoted

namespace Collate

inductive Error where
  | missingKey (message : String)
  | noDestination (key : String)
  | invalidDestination (found : String)
  | sendTimeout (channel : String) (milliseconds : Nat)
  | unknownChannel (name : String)
  | channelClosed (channel : String)
  | storeFull (capacity : Nat)
  | processing (key : String) (reason : String)
  | configuration (component : String) (reason : String)
  | internal (reason : String)
deriving DecidableEq, Inhabited

namespace Error

def message : Error → String
  | .missingKey message =>
      "Null correlation not allowed for message " ++ message ++
        "; is the correlation extractor failing?"
  | .noDestination key =>
      "No output channel or reply channel header available for group " ++ key
  | .invalidDestination found =>
      "Reply channel must be a channel handle or a channel name, got " ++ found
  | .sendTimeout channel milliseconds =>
      "Send to channel '" ++ channel ++ "' timed out after " ++
        toString milliseconds ++ "ms"
  | .unknownChannel name => "Channel not found: " ++ name
  | .channelClosed channel => "Channel '" ++ channel ++ "' is closed"
  | .storeFull capacity =>
      "Message store is out of capacity (" ++ toString capacity ++ " messages)"
  | .processing key reason =>
      "Processing group " ++ key ++ " failed: " ++ reason
  | .configuration component reason =>
      "Configuration error: " ++ component ++ ": " ++ reason
  | .internal reason => "Internal aggregator error: " ++ reason

def kind : Error → String
  | .missingKey _ => "InvalidCorrelation"
  | .noDestination _ => "NoReplyDestination"
  | .invalidDestination _ => "InvalidDestinationType"
  | .sendTimeout _ _ => "SendTimeout"
  | .unknownChannel _ => "ChannelNotFound"
  | .channelClosed _ => "ChannelClosed"
  | .storeFull _ => "StoreCapacityExceeded"
  | .processing _ _ => "Processor"
  | .configuration _ _ => "Configuration"
  | .internal _ => "Internal"

private def fields : Error → List (String × String)
  | .missingKey message => [("message_id", Text.quoted message)]
  | .noDestination key => [("correlation_key", Text.quoted key)]
  | .invalidDestination found => [("found", Text.quoted found)]
  | .sendTimeout channel milliseconds =>
      [("channel", Text.quoted channel), ("timeout_ms", toString milliseconds)]
  | .unknownChannel name => [("name", Text.quoted name)]
  | .channelClosed channel => [("channel", Text.quoted channel)]
  | .storeFull capacity => [("capacity", toString capacity)]
  | .processing key reason =>
      [("correlation_key", Text.quoted key), ("message", Text.quoted reason)]
  | .configuration component reason =>
      [("component", Text.quoted component), ("message", Text.quoted reason)]
  | .internal reason => [("message", Text.quoted reason)]

def description (error : Error) : String :=
  Text.described error.kind error.fields

end Error

end Collate
