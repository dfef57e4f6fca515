import Collate.Message

namespace Collate

/-- A sender that has not put its message into the queue yet. -/
structure Offer where
  ticket : Nat
  message : Message
deriving Inhabited

/-- Queued messages, and those who wait to send and to receive. -/
structure Queue where
  capacity : Nat
  messages : List Message
  offers : List Offer
  receivers : List Nat
  nextTicket : Nat
deriving Inhabited

namespace Queue

def empty (capacity : Nat) : Queue :=
  { capacity := max capacity 1, messages := [], offers := [], receivers := [],
    nextTicket := 0 }

def room (queue : Queue) : Nat := queue.capacity - queue.messages.length

/-- Places that are taken: by a message, or by a sender that has been given
one. -/
def size (queue : Queue) : Nat :=
  min queue.capacity (queue.messages.length + queue.offers.length)

def offer (queue : Queue) (message : Message) : Queue × Nat :=
  let ticket := queue.nextTicket
  ({ queue with
    offers := queue.offers ++ [{ ticket, message }], nextTicket := ticket + 1 },
    ticket)

def isAdmitted (queue : Queue) (ticket : Nat) : Bool :=
  (queue.offers.take queue.room).any fun offer => offer.ticket = ticket

private def dropOffer (queue : Queue) (ticket : Nat) : Queue :=
  { queue with
    offers := queue.offers.filter fun offer => offer.ticket ≠ ticket }

def accept (queue : Queue) (ticket : Nat) : Queue :=
  match (queue.offers.take queue.room).find?
    fun offer => offer.ticket = ticket with
  | some offer =>
      { queue.dropOffer ticket with
        messages := queue.messages ++ [offer.message] }
  | none => queue

def withdraw (queue : Queue) (ticket : Nat) : Queue := queue.dropOffer ticket

def approach (queue : Queue) : Queue × Nat :=
  let ticket := queue.nextTicket
  ({ queue with
    receivers := queue.receivers ++ [ticket], nextTicket := ticket + 1 },
    ticket)

def isTurn (queue : Queue) (ticket : Nat) : Bool :=
  queue.receivers.head? = some ticket

def leave (queue : Queue) (ticket : Nat) : Queue :=
  { queue with
    receivers := queue.receivers.filter fun receiver => receiver ≠ ticket }

def hasMessage (queue : Queue) : Bool := !queue.messages.isEmpty

def take (queue : Queue) : Queue × Option Message :=
  match queue.messages with
  | [] => (queue, none)
  | message :: rest => ({ queue with messages := rest }, some message)

def takeAll (queue : Queue) : Queue × List Message :=
  ({ queue with messages := [] }, queue.messages)

def description (queue : Queue) (name : String) : String :=
  Text.described "QueueChannel"
    [("name", Text.quoted name), ("len", toString queue.size),
      ("capacity", toString queue.capacity)]

end Queue

end Collate
