import Collate.Config.Settings
import Collate.Group
import Collate.Outcome

namespace Collate.Simulation

inductive HeaderScript where
  | text (value : String)
  | integer (value : Int)
  | bool (value : Bool)
  | json (value : Json)
  | channel (name : String)
deriving Inhabited

inductive MessageSource where
  | payload (payload : Json)
  | copyOf (label : String)
deriving Inhabited

/-- A message to be built. The headers are set in the order of these fields, so
that later ones replace earlier ones. -/
structure MessageDraft where
  source : MessageSource
  key : Option String
  place : Option (Nat × Nat)
  replyChannel : Option String
  replyName : Option String
  headers : List (String × HeaderScript)
  label : Option String
deriving Inhabited

inductive MessageScript where
  | build (draft : MessageDraft)
  | sameAs (label : String)
deriving Inhabited

inductive ReplyScript where
  | message (message : MessageScript)
  | payload (payload : Json)
deriving Inhabited

inductive OutcomeScript where
  | single (reply : ReplyScript)
  | many (replies : List ReplyScript)
deriving Inhabited

inductive ChannelKind where
  | queue (capacity : Nat)
  | null
  /-- Takes a while for each message, and keeps it; from a given number of
  messages on, it takes no more. -/
  | recorder (delay : Nat) (limit : Option Nat)
deriving Inhabited

structure ChannelScript where
  kind : ChannelKind
  name : Option String
deriving Inhabited

inductive ProcessorKind (Fixed : Type) where
  | aggregating
  | resequencing
  | failing (reason : String)
  | payloads
  | counting
  | fixed (outcome : Fixed)
deriving Inhabited

structure Processor (Fixed : Type) where
  kind : ProcessorKind Fixed
  delay : Nat
deriving Inhabited

inductive PolicyScript where
  | sequence (partialRuns : Bool)
  | count (threshold : Nat)
  | never
  | always
  | size (threshold : Nat)
deriving Inhabited

inductive CorrelationScript where
  | header (name : String)
  | payloadField (name : String)
deriving Inhabited

structure HandlerScript where
  processor : Processor OutcomeScript
  settings : Option Config.Settings
  correlation : Option CorrelationScript
  policy : PolicyScript
  output : Option String
  discard : Option String
  sendTimeout : Option Nat
  partialOnExpiry : Option Bool
deriving Inhabited

inductive ListenerAct where
  | handled
  | unsubscribed
  | slow
  | remove
  | replace
  | failing (word : String)
deriving Inhabited

inductive StoreMethod where
  | get
  | add
  | mark
  | remove
  | expire
deriving DecidableEq, Inhabited

def StoreMethod.name : StoreMethod → String
  | .get => "get"
  | .add => "add"
  | .mark => "mark"
  | .remove => "remove"
  | .expire => "expire"

structure Setup where
  capacity : Nat
  addDelay : Nat
  channels : List (String × ChannelScript)
  registry : Option (List (String × String))
  output : Option String
  sendTimeout : Option Nat
  handlers : List (String × HandlerScript)
deriving Inhabited

inductive Subject where
  | store
  | handler (name : String)
  | router
  | registry
  | reaper
  | channel (name : String)
deriving Inhabited

inductive GroupScript where
  | remembered (name : Option String)
  | empty (key : Key)
deriving Inhabited

structure ReaperScript where
  settings : Option Config.ReaperSettings
  timeout : Option Nat
  interval : Option Nat
  enabled : Option Bool
deriving Inhabited

inductive Command where
  | handle (handler : String) (message : MessageScript) (cutOff : Option Nat)
  | force (handler : String) (group : GroupScript)
  | expire (timeout : Nat)
  | get (key : Key) (name : Option String)
  | declare (channel : String) (script : ChannelScript)
  | send (channel : String) (message : MessageScript) (limit : Nat)
  | measure (channel : String)
  | rendezvous (channel : String) (message : MessageScript)
  | register (channel : String) (name : Option String)
  | lookUp (name : String)
  | canAdd (key : Key) (message : MessageScript)
  | add (key : Key) (message : MessageScript)
  | mark (group : GroupScript)
  | remove (key : Key)
  | storeFail (methods : List StoreMethod)
  | limitChannel (channel : String) (limit : Option Nat)
  | listen (name : String) (acts : List ListenerAct) (isBlind : Bool)
  | dropHandler (handler : String)
  | buildHandler (name : String) (handler : HandlerScript)
  | inspect (handler : String)
  | drain (channel : String)
  | tryReceive (channel : String)
  | receive (channel : String) (limit : Nat)
  | route (outcome : OutcomeScript) (address : Option HeaderScript) (key : Key)
  | resolve (address : Option HeaderScript) (key : Key)
  | unregister (name : String)
  | reaperNew (reaper : ReaperScript)
  | reaperStart
  | reaperStop
  | reaperRunOnce
  | reaperDrop
  | advance (milliseconds : Nat)
  | skew (milliseconds : Int)
  | concurrent (commands : List Command)
  | describe (subject : Subject)
deriving Inhabited

def Command.cutOff? : Command → Option Nat
  | .handle _ _ cutOff => cutOff
  | _ => none

inductive Answer where
  | done
  | failure (error : Error)
  | cutOff
  | timeout
  | noGroup
  | notARecorder
  | truth (value : Bool)
  | count (value : Nat)
  | group (group : Group) (generation : Nat)
  | size (value : Nat)
  | messages (messages : List Message)
  | received (message : Option Message)
  | channel (channel : Option Channel)
  | destination (channel : Channel)
  | found (channel : Channel)
  | handler (timeout : Nat) (partialOnExpiry : Bool) (capacity : Nat)
  | reaper (enabled : Option Bool) (isRunning : Bool)
  | text (text : String)
  | all (answers : List Answer)
deriving Inhabited

end Collate.Simulation
