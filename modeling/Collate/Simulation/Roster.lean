import Collate.Simulation.Script

namespace Collate.Simulation

structure Roster where
  channels : List (String × Channel)
  labelled : List (String × Message)
  labels : List (MessageId × String)
  nextMessage : Nat
deriving Inhabited

namespace Roster

def empty : Roster :=
  { channels := [], labelled := [], labels := [], nextMessage := 0 }

def channel (roster : Roster) (name : String) (ownName : Option String) :
    Roster × Channel :=
  match Assoc.get? name roster.channels with
  | some channel => (roster, channel)
  | none =>
      let channel := { id := roster.channels.length, name := ownName.getD name }
      ({ roster with channels := roster.channels ++ [(name, channel)] },
        channel)

def declare (roster : Roster) (name : String) (ownName : Option String) :
    Roster × Channel :=
  let id :=
    roster.channels.foldl (fun next entry => max next (entry.2.id + 1)) 0
  let channel := { id, name := ownName.getD name }
  ({ roster with channels := Assoc.put name channel roster.channels }, channel)

def nameOf? (roster : Roster) (channel : Channel) : Option String :=
  (roster.channels.find? fun entry => entry.2 = channel).map Prod.fst

def labelOf? (roster : Roster) (id : MessageId) : Option String :=
  Assoc.get? id roster.labels

def labelOfText? (roster : Roster) (text : String) : Option String :=
  (roster.labels.find? fun entry => entry.1.text = text).map Prod.snd

def stamp (roster : Roster) (time : Int) : Roster × Stamp :=
  ({ roster with nextMessage := roster.nextMessage + 1 },
    { id := ⟨roster.nextMessage⟩, time })

def headerValue (roster : Roster) : HeaderScript → Roster × HeaderValue
  | .text value => (roster, .text value)
  | .integer value => (roster, .integer value)
  | .bool value => (roster, .bool value)
  | .json value => (roster, .json value)
  | .channel name =>
      let (roster, channel) := roster.channel name none
      (roster, .channel channel)

private def addHeaders (roster : Roster) (draft : Draft) :
    List (String × HeaderScript) → Roster × Draft
  | [] => (roster, draft)
  | (name, script) :: rest =>
      let (roster, value) := roster.headerValue script
      addHeaders roster (draft.header name value) rest

private def start (roster : Roster) : MessageSource → Draft
  | .payload payload => .ofPayload payload
  | .copyOf label =>
      match Assoc.get? label roster.labelled with
      | some message => .ofMessage message
      | none => .ofPayload .null

private def draft (roster : Roster) (script : MessageDraft) : Roster × Draft :=
  let draft := roster.start script.source
  let draft := match script.key with
    | some key => draft.correlationId (.text key)
    | none => draft
  let draft := match script.place with
    | some (number, size) => draft.sequence number size
    | none => draft
  let (roster, draft) := match script.replyChannel with
    | some name =>
        let (roster, channel) := roster.channel name none
        (roster, draft.replyChannel channel)
    | none => (roster, draft)
  let draft := match script.replyName with
    | some name => draft.replyChannelName name
    | none => draft
  addHeaders roster draft script.headers

private def give (roster : Roster) (message : Message) : Option String → Roster
  | none => roster
  | some label =>
      { roster with
        labelled := Assoc.put label message roster.labelled
        labels := Assoc.put message.id label roster.labels }

def message (roster : Roster) (time : Int) : MessageScript → Roster × Message
  | .build script =>
      let (roster, draft) := roster.draft script
      let (roster, stamp) := roster.stamp time
      let message := draft.build stamp
      (roster.give message script.label, message)
  | .sameAs label =>
      match Assoc.get? label roster.labelled with
      | some message => (roster, message)
      | none =>
          let (roster, stamp) := roster.stamp time
          (roster, .ofPayload .null stamp)

def messages (roster : Roster) (time : Int) :
    List MessageScript → Roster × List Message
  | [] => (roster, [])
  | script :: rest =>
      let (roster, message) := roster.message time script
      let (roster, others) := roster.messages time rest
      (roster, message :: others)

private def reply (roster : Roster) (time : Int) : ReplyScript → Roster × Reply
  | .message script =>
      let (roster, message) := roster.message time script
      (roster, .message message)
  | .payload payload => (roster, .payload payload)

private def replies (roster : Roster) (time : Int) :
    List ReplyScript → Roster × List Reply
  | [] => (roster, [])
  | script :: rest =>
      let (roster, reply) := roster.reply time script
      let (roster, others) := roster.replies time rest
      (roster, reply :: others)

def outcome (roster : Roster) (time : Int) : OutcomeScript → Roster × Outcome
  | .single script =>
      let (roster, reply) := roster.reply time script
      (roster, .single reply)
  | .many scripts =>
      let (roster, replies) := roster.replies time scripts
      (roster, .many replies)

def sent (roster : Roster) (time : Int) : List Reply → Roster × List Message
  | [] => (roster, [])
  | .message message :: rest =>
      let (roster, others) := roster.sent time rest
      (roster, message :: others)
  | .payload payload :: rest =>
      let (roster, stamp) := roster.stamp time
      let (roster, others) := roster.sent time rest
      (roster, .ofPayload payload stamp :: others)

end Roster

end Collate.Simulation
