import Collate.Proofs.Interleaving.System

namespace Collate

namespace Store

def refusal? (store : Store) : Option Error :=
  if store.hasRoom then none else some (.storeFull store.capacity)

theorem refusal?_of_unbounded {store : Store} (unbounded : store.capacity = 0) :
    store.refusal? = none := by
  simp [refusal?, hasRoom, unbounded]

end Store

namespace Interleaving

/-- What there is of one key. -/
structure View where
  stored : Option Group
  keepsEntry : Bool
  events : List Event

def View.start : View := { stored := none, keepsEntry := false, events := [] }

/-- What has happened under the lock of a key. -/
def System.under (system : System) (key : Key) : List Event :=
  system.trace.filter fun event => event.key = some key

def System.view (system : System) (key : Key) : View :=
  { stored := system.store.get? key
    keepsEntry := system.locks.keepsEntry key
    events := system.under key }

/-- Whether a question may be asked by a call that has the lock of a key by a
ticket, and has to do with no other key. -/
def IsAbout (key : Key) (ticket : Nat) : Engine.Request → Prop
  | .load name => name = key
  | .add name _ => name = key
  | .mark group => group.key = key
  | .remove name => name = key
  | .retain given => given = ticket
  | .retire given => given = ticket
  | .judge _ => True
  | .process _ => True
  | .build _ => True
  | .resolve _ => True
  | .deliver _ _ => True
  | .deliverWithin _ _ _ => True
  | .log _ => True
  | _ => False

namespace Circumstances

/-- The stored group of a key after a question about the key, and the answer. A
message that is to be added may be refused. -/
def shelve (circumstances : Circumstances) (refusal : Option Error)
    (stored : Option Group) :
    (request : Engine.Request) → Option Group × request.Answer
  | .load key =>
      match circumstances.fault with
      | some error => (stored, .error error)
      | none =>
          (stored, .ok (stored.getD
            (.empty key circumstances.generation circumstances.time)))
  | .add key message =>
      match circumstances.fault.or refusal with
      | some error => (stored, .error error)
      | none =>
          let group := (stored.getD (.empty key circumstances.generation
              circumstances.time)).add message circumstances.time
          (some group, .ok group)
  | .mark group =>
      match circumstances.fault with
      | some error => (stored, .error error)
      | none =>
          (stored.map fun held => held.markAll circumstances.time,
            .ok ((stored.getD group).markAll circumstances.time))
  | .remove _ =>
      match circumstances.fault with
      | some error => (stored, .error error)
      | none => (none, .ok ())
  | request => (stored, (circumstances.answer (.empty 0) request).2)

end Circumstances

def keepsAfter (keepsEntry : Bool) : Engine.Request → Bool
  | .retain _ => true
  | .retire _ => false
  | _ => keepsEntry

namespace View

def respond (view : View) (circumstances : Circumstances)
    (refusal : Option Error) (call : Nat) (key : Key)
    (request : Engine.Request) : View × request.Answer :=
  let (stored, answer) := circumstances.shelve refusal view.stored request
  ({ stored
     keepsEntry := keepsAfter view.keepsEntry request
     events := view.events ++ [⟨call, some key, .answered request answer⟩] },
       answer)

def enter (view : View) (call : Nat) (key : Key) : View :=
  { view with events := view.events ++ [⟨call, some key, .entered⟩] }

def leave (view : View) (call : Nat) (key : Key)
    (result : Option Result) : View :=
  { view with
    keepsEntry := false
    events := view.events ++ [⟨call, some key, .left view.keepsEntry result⟩] }

end View

variable {circumstances : Circumstances} {store : Store} {key name : Key}
  {ticket : Nat} {request : Engine.Request}

theorem answer_of_isAbout (circumstances : Circumstances) (store : Store)
    (about : IsAbout key ticket request) :
    (circumstances.answer store request).2 =
        (circumstances.shelve store.refusal? (store.get? key) request).2 ∧
      (circumstances.answer store request).1.get? key =
        (circumstances.shelve store.refusal? (store.get? key) request).1 := by
  cases request with
  | load name =>
      obtain rfl : name = key := about
      simp only [Circumstances.answer, Circumstances.unlessFault,
        Circumstances.shelve, Store.load]
      cases circumstances.fault <;> exact ⟨rfl, rfl⟩
  | add name message =>
      obtain rfl : name = key := about
      simp only [Circumstances.answer, Circumstances.unlessFault,
        Circumstances.shelve]
      cases circumstances.fault with
      | some error => exact ⟨rfl, rfl⟩
      | none =>
          cases room : store.hasRoom with
          | true =>
              simp [Store.add, Store.refusal?, Store.get?, Store.load, room]
          | false => simp [Store.add, Store.refusal?, room]
  | mark group =>
      obtain rfl : group.key = key := about
      simp only [Circumstances.answer, Circumstances.unlessFault,
        Circumstances.shelve, Store.mark]
      cases circumstances.fault with
      | some error => exact ⟨rfl, rfl⟩
      | none =>
          cases held : store.get? group.key with
          | none => simp [held]
          | some stored => simp [Store.get?]
  | remove name =>
      obtain rfl : name = key := about
      simp only [Circumstances.answer, Circumstances.unlessFault,
        Circumstances.shelve, Store.remove]
      cases circumstances.fault with
      | some error => exact ⟨rfl, rfl⟩
      | none =>
          cases held : store.get? name with
          | none => simp [held]
          | some stored => simp [Store.get?]
  | lock => exact about.elim
  | unlock => exact about.elim
  | survey => exact about.elim
  | notify => exact about.elim
  | removeUnchanged => exact about.elim
  | unsubscribe => exact about.elim
  | _ => exact ⟨rfl, rfl⟩

theorem get?_answer_of_ne (about : IsAbout key ticket request)
    (different : name ≠ key) :
    (circumstances.answer store request).1.get? name = store.get? name := by
  cases request with
  | add other message =>
      obtain rfl : other = key := about
      simp only [Circumstances.answer, Circumstances.unlessFault]
      cases circumstances.fault with
      | some error => rfl
      | none =>
          cases room : store.hasRoom with
          | true =>
              simp [Store.add, Store.get?, room, Assoc.get?_put_of_ne different]
          | false => simp [Store.add, room]
  | mark group =>
      obtain rfl : group.key = key := about
      simp only [Circumstances.answer, Circumstances.unlessFault, Store.mark]
      cases circumstances.fault with
      | some error => rfl
      | none =>
          cases held : store.get? group.key with
          | none => rfl
          | some stored => simp [Store.get?, Assoc.get?_put_of_ne different]
  | remove other =>
      obtain rfl : other = key := about
      simp only [Circumstances.answer, Circumstances.unlessFault, Store.remove]
      cases circumstances.fault with
      | some error => rfl
      | none =>
          cases held : store.get? other with
          | none => rfl
          | some stored => simp [Store.get?, Assoc.get?_erase_of_ne different]
  | load other =>
      simp only [Circumstances.answer, Circumstances.unlessFault]
      cases circumstances.fault <;> rfl
  | lock => exact about.elim
  | unlock => exact about.elim
  | survey => exact about.elim
  | notify => exact about.elim
  | removeUnchanged => exact about.elim
  | unsubscribe => exact about.elim
  | _ => rfl

theorem answer_frame (about : IsAbout key ticket request) :
    (circumstances.answer store request).1.capacity = store.capacity ∧
    (circumstances.answer store request).1.subscribers = store.subscribers := by
  cases request with
  | add other message =>
      simp only [Circumstances.answer, Circumstances.unlessFault]
      cases circumstances.fault with
      | some error => exact ⟨rfl, rfl⟩
      | none =>
          cases room : store.hasRoom with
          | true => simp [Store.add, room]
          | false => simp [Store.add, room]
  | mark group =>
      simp only [Circumstances.answer, Circumstances.unlessFault, Store.mark]
      cases circumstances.fault with
      | some error => exact ⟨rfl, rfl⟩
      | none => cases store.get? group.key <;> exact ⟨rfl, rfl⟩
  | remove other =>
      simp only [Circumstances.answer, Circumstances.unlessFault, Store.remove]
      cases circumstances.fault with
      | some error => exact ⟨rfl, rfl⟩
      | none => cases store.get? other <;> exact ⟨rfl, rfl⟩
  | load other =>
      simp only [Circumstances.answer, Circumstances.unlessFault]
      cases circumstances.fault <;> exact ⟨rfl, rfl⟩
  | lock => exact about.elim
  | unlock => exact about.elim
  | survey => exact about.elim
  | notify => exact about.elim
  | removeUnchanged => exact about.elim
  | unsubscribe => exact about.elim
  | _ => exact ⟨rfl, rfl⟩

end Interleaving

end Collate
