import Collate.Proofs.Handler.Deeds
import Collate.Proofs.Interleaving.Coherence

namespace Collate.Interleaving

/-- The reply that a channel has taken in time. -/
def Event.replied? (event : Event) : Option (Channel × Message) :=
  match event.act with
  | .answered (.deliverWithin _ channel message) (some (.ok ())) =>
      some (channel, message)
  | _ => none

namespace System

def processings (system : System) : List Group :=
  system.trace.filterMap Event.processed?

def discards (system : System) (channel : Channel) : List Message :=
  system.trace.filterMap (Event.discarded? channel)

def replies (system : System) (key : Key) : List (Channel × Message) :=
  (system.under key).filterMap Event.replied?

end System

def Discipline.Confines (discipline : Discipline) (handler : Handler) : Prop :=
  ∀ key events request, discipline.allows key events request →
    Concerns handler key request

namespace Coherent

variable {discipline : Discipline} {handler : Handler} {system : System}
  (coherent : Coherent discipline system)
  (confines : discipline.Confines handler)

include coherent confines

theorem belongs_of_processed {event : Event} (member : event ∈ system.trace)
    {group : Group} (found : event.processed? = some group) :
    event.key = some group.key ∧ Belongs handler group.key group := by
  obtain ⟨answer, act⟩ := Event.act_of_processed? found
  obtain ⟨key, earlier, sameKey, -, allowed⟩ :=
    coherent.allowed_of_answered member act id
  have belongs : Belongs handler key group := confines _ _ _ allowed
  obtain rfl : group.key = key := belongs.sameKey
  exact ⟨sameKey, belongs⟩

theorem correlation_of_discarded {event : Event} (member : event ∈ system.trace)
    {message : Message}
    (found : event.discarded? handler.discardChannel = some message) :
    ∃ key, event.key = some key ∧ handler.correlation message = some key := by
  obtain ⟨key, earlier, sameKey, -, allowed⟩ :=
    coherent.allowed_of_answered member (Event.act_of_discarded? found) id
  obtain ⟨-, correlated⟩ := confines _ _ _ allowed
  exact ⟨key, sameKey, correlated⟩

theorem processings_of_key (key : Key) :
    (system.processings.filter fun group => group.key = key) =
      (system.under key).filterMap Event.processed? := by
  apply filterMap_filter_eq
  intro event member group found
  rw [(coherent.belongs_of_processed confines member found).1]
  simp

theorem discards_of_key (key : Key) :
    ((system.discards handler.discardChannel).filter fun message =>
        handler.correlation message = some key) =
      (system.under key).filterMap
        (Event.discarded? handler.discardChannel) := by
  apply filterMap_filter_eq
  intro event member message found
  obtain ⟨name, sameKey, correlated⟩ :=
    coherent.correlation_of_discarded confines member found
  rw [sameKey, correlated]

end Coherent

end Collate.Interleaving
