import Collate.Proofs.Handler.Record
import Mathlib.Data.List.Induction
import Mathlib.Data.List.Perm.Subperm

namespace Collate.Interleaving

def Invocation.message? : Invocation → Option Message
  | .handle message => some message
  | _ => none

def Event.failsRemoval (event : Event) : Bool :=
  match event.act with
  | .answered (.remove _) (.error _) => true
  | _ => false

/-- What has become of the messages of a key. -/
structure Ledger where
  brought : List Nat
  waiting : List Nat
  /-- Whether the last call that got the lock has brought a message, which is
  not stored yet. -/
  isNew : Bool
  /-- Those in the group that the last call has had processed, until a reply
  about it is sent. -/
  given : List Nat
  offered : Nat
  handed : List Nat
  hasFailed : Bool
  /-- Those that the calls before have delivered, but for calls that failed to
  remove the group. -/
  delivered : List Nat

namespace Ledger

def start : Ledger where
  brought := []
  waiting := []
  isNew := false
  given := []
  offered := 0
  handed := []
  hasFailed := false
  delivered := []

/-- The messages that were delivered, each as often as it was: a message is
delivered when it is discarded, and when the first reply is sent about a
processed group in which it was unmarked. -/
def deliveries (ledger : Ledger) : List Nat :=
  ledger.delivered ++ ledger.handed

def counted (ledger : Ledger) : List Nat :=
  ledger.delivered ++ if ledger.hasFailed then [] else ledger.handed

/-- The message that is the next to be discarded: the one that has just been
brought, or the next of those that wait. -/
def offering? (ledger : Ledger) : Option Nat :=
  if ledger.isNew then ledger.brought.getLast?
  else ledger.waiting[ledger.offered]?

def enter (ledger : Ledger) (call : Nat) (brings : Bool) : Ledger :=
  { ledger with
    brought := ledger.brought ++ if brings then [call] else []
    isNew := brings
    given := []
    offered := 0
    handed := []
    hasFailed := false
    delivered := ledger.counted }

def enlist (ledger : Ledger) (call : Nat) : Ledger :=
  { ledger with
    waiting := ledger.waiting ++ [call]
    isNew := false }

def reply (ledger : Ledger) : Ledger :=
  { ledger with
    given := []
    handed := ledger.handed ++ ledger.given }

def discard (ledger : Ledger) : Ledger :=
  { ledger with
    offered := ledger.offered + 1
    handed := ledger.handed ++ ledger.offering?.toList }

def answer (ledger : Ledger) (call : Nat) :
    (request : Engine.Request) → request.Answer → Ledger
  | .add _ _, .ok _ => ledger.enlist call
  | .mark _, .ok _ => { ledger with waiting := [] }
  | .remove _, .ok _ => { ledger with waiting := [] }
  | .remove _, .error _ => { ledger with hasFailed := true }
  | .process _, _ => { ledger with given := ledger.waiting }
  | .deliverWithin _ _ _, some (.ok ()) => ledger.reply
  | .deliver _ _, .ok () => ledger.discard
  | _, _ => ledger

def follow (calls : Nat → Invocation) (ledger : Ledger)
    (event : Event) : Ledger :=
  match event.act with
  | .asked _ => ledger
  | .entered => ledger.enter event.call (calls event.call).message?.isSome
  | .answered request answer => ledger.answer event.call request answer
  | .left _ _ => ledger

def ofEvents (calls : Nat → Invocation) (events : List Event) : Ledger :=
  events.foldl (follow calls) start

def deliveredBy (ledger : Ledger) (event : Event) : List Nat :=
  match event.act with
  | .answered (.deliverWithin _ _ _) (some (.ok ())) => ledger.given
  | .answered (.deliver _ _) (.ok ()) => ledger.offering?.toList
  | _ => []

def tallyFrom (calls : Nat → Invocation) (ledger : Ledger) :
    List Event → List Nat
  | [] => []
  | event :: rest =>
      ledger.deliveredBy event ++
        tallyFrom calls (ledger.follow calls event) rest

def tally (calls : Nat → Invocation) (events : List Event) : List Nat :=
  tallyFrom calls start events

variable {calls : Nat → Invocation} {ledger : Ledger}

theorem ofEvents_append (calls : Nat → Invocation) (events : List Event)
    (event : Event) :
    ofEvents calls (events ++ [event]) =
      (ofEvents calls events).follow calls event := by
  simp [ofEvents]

@[simp] theorem reply_reply (ledger : Ledger) :
    ledger.reply.reply = ledger.reply := by
  simp [reply]

@[simp] theorem brought_answer (ledger : Ledger) (call : Nat)
    (request : Engine.Request) (answer : request.Answer) :
    (ledger.answer call request answer).brought = ledger.brought := by
  unfold Ledger.answer
  split <;> rfl

theorem entered_of_brought {events : List Event} {call : Nat}
    (brought : call ∈ (ofEvents calls events).brought) :
    ∃ event ∈ events, event.call = call ∧ event.act = .entered ∧
      (calls call).message?.isSome = true := by
  induction events using List.reverseRecOn with
  | nil => simp [ofEvents, start] at brought
  | append_singleton events event induction =>
      have earlier : call ∈ (ofEvents calls events).brought →
          ∃ past ∈ events ++ [event], past.call = call ∧ past.act = .entered ∧
            (calls call).message?.isSome = true := by
        intro member
        obtain ⟨past, isPast, found⟩ := induction member
        exact ⟨past, List.mem_append_left _ isPast, found⟩
      rw [ofEvents_append] at brought
      unfold follow at brought
      split at brought
      · exact earlier brought
      · rename_i entered
        rcases List.mem_append.mp brought with old | new
        · exact earlier old
        · split at new
          · rename_i brings
            obtain rfl := List.mem_singleton.mp new
            exact ⟨event, by simp, rfl, entered, brings⟩
          · simp at new
      · rw [brought_answer] at brought
        exact earlier brought
      · exact earlier brought

theorem deliveries_follow (trying : ledger.hasFailed = false) {event : Event}
    (removes : event.failsRemoval = false) :
    (ledger.follow calls event).hasFailed = false ∧
    (ledger.follow calls event).deliveries =
      ledger.deliveries ++ ledger.deliveredBy event := by
  obtain ⟨call, key, act⟩ := event
  cases act with
  | asked key => simp [follow, deliveredBy, trying]
  | entered => simp [follow, enter, deliveries, counted, deliveredBy, trying]
  | left keepsEntry result => simp [follow, deliveredBy, trying]
  | answered request answer =>
      cases request with
      | add key message =>
          cases answer <;> simp [follow, Ledger.answer, enlist, deliveries,
            deliveredBy, trying]
      | mark group =>
          cases answer <;>
            simp [follow, Ledger.answer, deliveries, deliveredBy, trying]
      | remove key =>
          cases answer with
          | error error => simp [Event.failsRemoval] at removes
          | ok value =>
              simp [follow, Ledger.answer, deliveries, deliveredBy, trying]
      | deliver channel message =>
          cases answer with
          | error error => simp [follow, Ledger.answer, deliveredBy, trying]
          | ok value =>
              simp [follow, Ledger.answer, discard, deliveries,
                deliveredBy, trying]
      | deliverWithin limit channel message =>
          match answer with
          | none => simp [follow, Ledger.answer, deliveredBy, trying]
          | some (.error error) =>
              simp [follow, Ledger.answer, deliveredBy, trying]
          | some (.ok ()) =>
              simp [follow, Ledger.answer, reply, deliveries,
                deliveredBy, trying]
      | _ => simp [follow, Ledger.answer, deliveries, deliveredBy, trying]

theorem deliveries_foldl (trying : ledger.hasFailed = false)
    {events : List Event}
    (removes : ∀ event ∈ events, event.failsRemoval = false) :
    (events.foldl (follow calls) ledger).deliveries =
      ledger.deliveries ++ tallyFrom calls ledger events := by
  induction events generalizing ledger with
  | nil => simp [tallyFrom]
  | cons event rest induction =>
      obtain ⟨removesNow, removesLater⟩ := List.forall_mem_cons.mp removes
      obtain ⟨trying, grown⟩ := deliveries_follow trying removesNow
      rw [List.foldl_cons, induction trying removesLater, grown, tallyFrom,
        List.append_assoc]

theorem deliveries_ofEvents {events : List Event}
    (removes : ∀ event ∈ events, event.failsRemoval = false) :
    (ofEvents calls events).deliveries = tally calls events :=
  deliveries_foldl rfl removes

end Ledger

structure IsOnceOf (others calls : List Nat) : Prop where
  nodup : calls.Nodup
  subset : calls ⊆ others

namespace IsOnceOf

variable {others whole part : List Nat} {call : Nat}

theorem of_subperm (isOnce : IsOnceOf others whole)
    (subperm : part.Subperm whole) : IsOnceOf others part where
  nodup := by
    obtain ⟨same, perm, sublist⟩ := subperm
    exact perm.nodup_iff.mp (isOnce.nodup.sublist sublist)
  subset := List.Subset.trans subperm.subset isOnce.subset

theorem concat (isOnce : IsOnceOf others part) (fresh : call ∉ others) :
    IsOnceOf (others ++ [call]) (part ++ [call]) where
  nodup := by
    rw [← List.concat_eq_append]
    exact isOnce.nodup.concat fun member => fresh (isOnce.subset member)
  subset :=
    List.append_subset.mpr ⟨List.subset_append_of_subset_left _ isOnce.subset,
      List.subset_append_right _ _⟩

end IsOnceOf

structure Visit.Shows (calls : Nat → Invocation) (stored : Option Group)
    (ledger : Ledger) (visit : Visit) : Prop where
  stored : visit.view.stored = stored
  ledger : Ledger.ofEvents calls visit.view.events = ledger

/-- What the messages are that a question is about: a group that is processed
has those that wait, and a message that is discarded is the next one. -/
def Justifies (handler : Handler) (calls : Nat → Invocation) (ledger : Ledger) :
    Engine.Request → Prop
  | .process group =>
      group.unmarked.map some =
        ledger.waiting.map fun call => (calls call).message?
  | .deliver channel message =>
      channel = handler.discardChannel ∧
        ∃ call, ledger.offering? = some call ∧
          (calls call).message? = some message
  | _ => True

structure Discipline.Accounts (discipline : Discipline) (handler : Handler)
    (calls : Nat → Invocation) (key : Key) : Prop where
  allows : ∀ events request,
    IsOnceOf (Ledger.ofEvents calls events).brought
      (Ledger.ofEvents calls events).deliveries →
      Justifies handler calls (Ledger.ofEvents calls events) request →
      discipline.allows key events request

namespace Discipline.Accounts

open Discipline

variable {discipline : Discipline} {handler : Handler}
  {calls : Nat → Invocation}
  {key : Key} {call ticket : Nat} {visit : Visit} {stored : Option Group}
  {ledger : Ledger} (accounts : discipline.Accounts handler calls key)
  (shows : visit.Shows calls stored ledger)
  (once : IsOnceOf ledger.brought ledger.deliveries)

include accounts shows once

theorem ensures_question {request : Engine.Request}
    (isAbout : IsAbout key ticket request)
    (justified : Justifies handler calls ledger request) :
    discipline.Ensures call key ticket (Call.ask request) visit
      fun answer after =>
        ∃ refusal,
          answer = ((discipline.environment call visit.own.length).shelve
            refusal stored request).2 ∧
            after.Shows calls
              ((discipline.environment call visit.own.length).shelve refusal
                stored request).1 (ledger.answer call request answer) := by
  obtain ⟨rfl, rfl⟩ := shows
  refine ⟨isAbout, accounts.allows _ _ once justified,
    fun refusal _ after answer responded => ?_⟩
  obtain ⟨grows, stored, answered⟩ := grows_respond responded
  refine ⟨refusal, answered, stored, ?_⟩
  rw [grows.events, Ledger.ofEvents_append]
  rfl

theorem ensures_unmoved {request : Engine.Request}
    (unmoved : MovesNothing ticket request) :
    discipline.Ensures call key ticket (Call.ask request) visit fun _ after =>
      after.Shows calls stored ledger := by
  have justified : Justifies handler calls ledger request := by
    cases request <;> first | exact trivial | exact unmoved.elim
  refine Ensures.imp (accounts.ensures_question shows once unmoved.isAbout
    justified) fun answer after ⟨refusal, _, shows⟩ => ?_
  cases request <;> first | exact shows | exact unmoved.elim

theorem ensures_of_asks {α : Type} {program : Call α}
    (asks : Asks (MovesNothing ticket) program) :
    discipline.Ensures call key ticket program visit fun _ after =>
      after.Shows calls stored ledger := by
  induction program generalizing visit with
  | done value => exact shows
  | ask request next induction =>
      obtain ⟨unmoved, asks⟩ := asks
      exact Ensures.next (accounts.ensures_unmoved shows once unmoved)
        fun answer middle shows => induction answer shows (asks answer)

theorem ensures_load :
    discipline.Ensures call key ticket (Call.ask (.load key)) visit
      fun answer after =>
        after.Shows calls stored ledger ∧
          ∀ group, answer = .ok group →
            ∃ generation time, group =
              stored.getD (.empty key generation time) := by
  refine Ensures.imp (accounts.ensures_question shows once rfl trivial) ?_
  rintro answer after ⟨refusal, answered, shows⟩
  simp only [Circumstances.shelve] at answered shows
  cases fault : (discipline.environment call visit.own.length).fault with
  | some error =>
      rw [fault] at answered shows
      subst answered
      refine ⟨shows, ?_⟩
      rintro group ⟨⟩
  | none =>
      rw [fault] at answered shows
      subst answered
      exact ⟨shows, fun group same => ⟨_, _, (Except.ok.inj same).symm⟩⟩

theorem ensures_add (message : Message) :
    discipline.Ensures call key ticket (Call.ask (.add key message)) visit
      fun answer after =>
        (∃ error, answer = .error error ∧ after.Shows calls stored ledger) ∨
          ∃ group generation time, answer = .ok group ∧
            group =
              (stored.getD (.empty key generation time)).add message time ∧
            after.Shows calls (some group) (ledger.enlist call) := by
  refine Ensures.imp (accounts.ensures_question shows once rfl trivial)
    fun answer after ⟨refusal, answered, shows⟩ => ?_
  simp only [Circumstances.shelve] at answered shows
  cases failure :
    (discipline.environment call visit.own.length).fault.or refusal with
  | some error =>
      rw [failure] at answered shows
      subst answered
      exact .inl ⟨error, rfl, shows⟩
  | none =>
      rw [failure] at answered shows
      subst answered
      exact .inr ⟨_, _, _, rfl, rfl, shows⟩

theorem ensures_mark {group : Group} (sameKey : group.key = key) :
    discipline.Ensures call key ticket (Call.ask (.mark group)) visit
      fun answer after =>
        (∃ error, answer = .error error ∧ after.Shows calls stored ledger) ∨
          ∃ marked time, answer = .ok marked ∧
            after.Shows calls (stored.map fun held => held.markAll time)
              { ledger with waiting := [] } := by
  refine Ensures.imp (accounts.ensures_question shows once sameKey trivial)
    fun answer after ⟨refusal, answered, shows⟩ => ?_
  simp only [Circumstances.shelve] at answered shows
  cases fault : (discipline.environment call visit.own.length).fault with
  | some error =>
      rw [fault] at answered shows
      subst answered
      exact .inl ⟨error, rfl, shows⟩
  | none =>
      rw [fault] at answered shows
      subst answered
      exact .inr ⟨_, _, rfl, shows⟩

theorem ensures_remove :
    discipline.Ensures call key ticket (Call.ask (.remove key)) visit
      fun answer after =>
        (∃ error, answer = .error error ∧
          after.Shows calls stored { ledger with hasFailed := true }) ∨
        (answer = .ok () ∧
          after.Shows calls none { ledger with waiting := [] }) := by
  refine Ensures.imp (accounts.ensures_question shows once rfl trivial)
    fun answer after ⟨refusal, answered, shows⟩ => ?_
  simp only [Circumstances.shelve] at answered shows
  cases fault : (discipline.environment call visit.own.length).fault with
  | some error =>
      rw [fault] at answered shows
      subst answered
      exact .inl ⟨error, rfl, shows⟩
  | none =>
      rw [fault] at answered shows
      subst answered
      exact .inr ⟨rfl, shows⟩

theorem ensures_process {group : Group}
    (justified : Justifies handler calls ledger (.process group)) :
    discipline.Ensures call key ticket (Call.ask (.process group)) visit
      fun _ after =>
        after.Shows calls stored { ledger with given := ledger.waiting } :=
  Ensures.imp (accounts.ensures_question shows once trivial justified)
    fun _ _ ⟨_, _, shows⟩ => shows

theorem ensures_reply (limit : Nat) (channel : Channel) (message : Message) :
    discipline.Ensures call
      key ticket (Call.ask (.deliverWithin limit channel message)) visit
      fun _ after => after.Shows calls stored ledger ∨
        after.Shows calls stored ledger.reply := by
  refine Ensures.imp (accounts.ensures_question shows once trivial trivial)
    fun taken after ⟨refusal, _, shows⟩ => ?_
  match taken with
  | none => exact .inl shows
  | some (.error error) => exact .inl shows
  | some (.ok ()) => exact .inr shows

theorem ensures_deliver {message : Message}
    (justified : Justifies
      handler calls ledger (.deliver handler.discardChannel message)) :
    discipline.Ensures call key ticket (Call.ask
      (.deliver handler.discardChannel message)) visit fun taken after =>
        (∃ error, taken = .error error ∧ after.Shows calls stored ledger) ∨
        (taken = .ok () ∧ after.Shows calls stored ledger.discard) := by
  refine Ensures.imp (accounts.ensures_question shows once trivial justified)
    fun taken after ⟨refusal, _, shows⟩ => ?_
  match taken with
  | .error error => exact .inl ⟨error, rfl, shows⟩
  | .ok () => exact .inr ⟨rfl, shows⟩

end Discipline.Accounts

end Collate.Interleaving
