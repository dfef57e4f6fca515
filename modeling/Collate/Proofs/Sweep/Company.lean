import Collate.Proofs.Interleaving.System
import Mathlib.Data.List.Nodup

namespace Collate.Sweep

/-! Others may change the store whenever the sweep is not looking, and so may a
subscriber that is told about a group. -/

open Interleaving (Circumstances)

/-- The store, and whatever those around a sweep remember. -/
structure Scene (Rest : Type) where
  store : Store
  rest : Rest

/-- Those around a sweep, by the number of its questions before. -/
structure Company (Rest : Type) where
  circumstances : Nat → Circumstances
  meanwhile : Nat → Scene Rest → Scene Rest
  told : Nat → Subscriber → Group → Scene Rest →
    Except Error Engine.Reaction × Scene Rest

/-- A question of a sweep and its answer, with the scene before and after. -/
structure Exchange (Rest : Type) where
  request : Engine.Request
  answer : request.Answer
  found : Scene Rest
  left : Scene Rest

/-- How far a sweep has come. -/
structure Account (Rest : Type) where
  turn : Nat
  scene : Scene Rest
  exchanges : List (Exchange Rest)

def Account.start {Rest : Type} (scene : Scene Rest) : Account Rest :=
  { turn := 0, scene, exchanges := [] }

namespace Company

variable {Rest α β : Type} (company : Company Rest)

def reply (turn : Nat) (scene : Scene Rest) : (request : Engine.Request) →
    request.Answer × Scene Rest
  | .notify subscriber group => company.told turn subscriber group scene
  | request =>
      let (store, answer) :=
        (company.circumstances turn).answer scene.store request
      (answer, { scene with store })

def answer (request : Engine.Request) : StateM (Account Rest) request.Answer :=
  fun account =>
    let found := company.meanwhile account.turn account.scene
    let (answer, left) := company.reply account.turn found request
    (answer,
      { turn := account.turn + 1
        scene := left
        exchanges := account.exchanges ++ [{ request, answer, found, left }] })

def run (program : Call α) (account : Account Rest) : α × Account Rest :=
  program.runIn company.answer account

def sweep (timeout : Nat) (scene : Scene Rest) :
    Except Error Nat × Account Rest :=
  company.run (Sweep.run timeout) (.start scene)

def Follows : Nat → Scene Rest → List (Exchange Rest) → Scene Rest → Prop
  | _, scene, [], last => last = scene
  | turn, scene, exchange :: later, last =>
      exchange.found = company.meanwhile turn scene ∧
        (exchange.answer, exchange.left) =
          company.reply turn exchange.found exchange.request ∧
        Follows (turn + 1) exchange.left later last

end Company

/-- An entry of the list of subscribers. One who has subscribed twice has
two. -/
abbrev Entry := Subscriber × Nat

structure Reply where
  entry : Entry
  reaction : Except Error Engine.Reaction

namespace Reply

def isGone (reply : Reply) : Bool :=
  match reply.reaction with
  | .ok .unsubscribed => true
  | _ => false

def failure? (reply : Reply) : Option Error :=
  match reply.reaction with
  | .error error => some error
  | .ok _ => none

variable {entry : Entry} {error : Error}

@[simp] theorem isGone_handled : isGone ⟨entry, .ok .handled⟩ = false := rfl

@[simp] theorem isGone_unsubscribed :
    isGone ⟨entry, .ok .unsubscribed⟩ = true := rfl

@[simp] theorem isGone_error : isGone ⟨entry, .error error⟩ = false := rfl

@[simp] theorem failure?_ok {reaction : Engine.Reaction} :
    failure? ⟨entry, .ok reaction⟩ = none := rfl

@[simp] theorem failure?_error :
    failure? ⟨entry, .error error⟩ = some error := rfl

end Reply

/-- A group's way through the subscribers. -/
structure Offering where
  group : Group
  replies : List Reply

namespace Offering

def isTaken (offering : Offering) : Bool :=
  offering.replies.any fun reply => !reply.isGone

def leavers (offering : Offering) : List Subscriber :=
  (offering.replies.filter Reply.isGone).map fun reply => reply.entry.1

def failures (offering : Offering) : List Error :=
  offering.replies.filterMap Reply.failure?

end Offering

def leavers (offerings : List Offering) : List Subscriber :=
  offerings.flatMap Offering.leavers

def failures (offerings : List Offering) : List Error :=
  offerings.flatMap Offering.failures

def staying (entries : List Entry) (offerings : List Offering) : List Entry :=
  entries.filter fun entry =>
    offerings.all fun offering => offering.replies.all fun reply =>
      !(reply.entry = entry && reply.isGone)

/-- Whether each group is offered to the entries that have not said before that
they are gone, and to each of them once. -/
def Offered (entries : List Entry) (offerings : List Offering) : Prop :=
  ∀ earlier offering later, offerings = earlier ++ offering :: later →
    offering.replies.map Reply.entry = staying entries earlier

abbrev Deed := (request : Engine.Request) × request.Answer

def Deed.ofAnswer : (request : Engine.Request) → request.Answer → List Deed
  | .log _, _ => []
  | request, answer => [⟨request, answer⟩]

def deeds {Rest : Type} (exchanges : List (Exchange Rest)) : List Deed :=
  exchanges.flatMap
    fun exchange => Deed.ofAnswer exchange.request exchange.answer

/-- Everyone is told about the group. If nobody takes care of it, the store is
to remove it, unless it has been replaced. -/
def Offering.deeds (offering : Offering) : List Deed :=
  offering.replies.map
    (fun reply => ⟨.notify reply.entry.1 offering.group, reply.reaction⟩) ++
    if offering.isTaken then [] else [⟨.removeUnchanged offering.group, ()⟩]

def farewell (offerings : List Offering) : List Deed :=
  if (leavers offerings).isEmpty then []
  else [⟨.unsubscribe (leavers offerings), ()⟩]

variable {Rest α β : Type} {company : Company Rest}
  {before middle after account : Account Rest}

namespace Company

theorem run_bind (company : Company Rest) (program : Call α) (next : α → Call β)
    (account : Account Rest) :
    company.run (program.bind next) account = company.run (next
      (company.run program account).1) (company.run program account).2 := by
  unfold run
  rw [Program.runIn_bind]
  rfl

theorem run_done (company : Company Rest) (value : α) (account : Account Rest) :
    company.run (Program.done value) account = (value, account) := rfl

theorem run_ask (company : Company Rest) (request : Engine.Request)
    (account : Account Rest) :
    company.run (Call.ask request) account = company.answer request account :=
  rfl

theorem follows_append {turn : Nat} {scene last : Scene Rest}
    {first second : List (Exchange Rest)} :
    company.Follows turn scene (first ++ second) last ↔
    ∃ between, company.Follows turn scene first between ∧
      company.Follows (turn + first.length) between second last := by
  induction first generalizing turn scene with
  | nil => simp [Follows]
  | cons exchange rest induction =>
      simp only [List.cons_append, Follows, induction, List.length_cons]
      constructor
      · rintro ⟨found, replied, between, follows, later⟩
        refine ⟨between, ⟨found, replied, follows⟩, ?_⟩
        rwa [Nat.add_right_comm] at later
      · rintro ⟨between, ⟨found, replied, follows⟩, later⟩
        refine ⟨found, replied, between, follows, ?_⟩
        rwa [Nat.add_right_comm]

structure Continues (company : Company Rest) (before after : Account Rest)
    (done : List Deed) : Prop where
  goesOn : ∃ new, after.turn = before.turn + new.length ∧
    after.exchanges = before.exchanges ++ new ∧
    company.Follows before.turn before.scene new after.scene ∧ deeds new = done

theorem Continues.refl (account : Account Rest) :
    company.Continues account account [] :=
  ⟨[], rfl, (List.append_nil _).symm, rfl, rfl⟩

theorem Continues.trans {done later : List Deed}
    (first : company.Continues before middle done)
    (second : company.Continues middle after later) :
    company.Continues before after (done ++ later) := by
  obtain ⟨new, turn, exchanges, follows, rfl⟩ := first
  obtain ⟨newer, turnLater, exchangesLater, followsLater, rfl⟩ := second
  refine ⟨new ++ newer, ?_, ?_, ?_, ?_⟩
  · rw [turnLater, turn, List.length_append, Nat.add_assoc]
  · rw [exchangesLater, exchanges, List.append_assoc]
  · rw [turn] at followsLater
    exact follows_append.mpr ⟨_, follows, followsLater⟩
  · exact List.flatMap_append

theorem continues_answer (company : Company Rest) (request : Engine.Request)
    (account : Account Rest) :
    company.Continues account (company.answer request account).2
      (Deed.ofAnswer request (company.answer request account).1) := by
  refine ⟨[_], rfl, rfl, ⟨rfl, rfl, rfl⟩, ?_⟩
  exact List.append_nil _

end Company

namespace Round

def heard (round : Round) (replies : List Reply) : Round :=
  { listening := round.listening ++
      (replies.filter fun reply => !reply.isGone).map fun reply => reply.entry.1
    gone :=
      round.gone ++ (replies.filter Reply.isGone).map fun reply => reply.entry.1
    failure := round.failure.or (replies.filterMap Reply.failure?).head?
    isHandled := round.isHandled || replies.any fun reply => !reply.isGone }

variable {round : Round} {entry : Entry} {replies : List Reply}

theorem heard_nil : round.heard [] = round := by
  simp [heard]

theorem heard_handled : round.heard (⟨entry, .ok .handled⟩ :: replies) =
    (round.handled entry.1).heard replies := by
  simp [heard, handled, List.findSome?_cons]

theorem heard_unsubscribed :
    round.heard (⟨entry, .ok .unsubscribed⟩ :: replies) =
      (round.unsubscribed entry.1).heard replies := by
  simp [heard, unsubscribed, List.filter_cons, List.findSome?_cons]

theorem heard_failed {error : Error} :
    round.heard (⟨entry, .error error⟩ :: replies) =
      (round.failed entry.1 error).heard replies := by
  cases failure : round.failure <;>
    simp [heard, failed, failure]

end Round

theorem offer_cons (group : Group) (round : Round) (subscriber : Subscriber)
    (rest : List Subscriber) :
    offer group round (subscriber :: rest) =
      (Call.ask (.notify subscriber group)).bind fun
        | .ok .handled => offer group (round.handled subscriber) rest
        | .ok .unsubscribed =>
            (Call.log (.subscriberGone group.key)).bind fun _ =>
            offer group (round.unsubscribed subscriber) rest
        | .error error =>
            (Call.log (.subscriberFailed group.key error)).bind fun _ =>
            offer group (round.failed subscriber error) rest := rfl

namespace Company

theorem run_offer (company : Company Rest) (group : Group)
    (entries : List Entry) (round : Round) (account : Account Rest) :
    ∃ replies : List Reply, replies.map Reply.entry = entries ∧
      (company.run (offer group round (entries.map Prod.fst)) account).1 =
        round.heard replies ∧
      company.Continues account (company.run
        (offer group round (entries.map Prod.fst)) account).2 (replies.map
          fun reply => ⟨.notify reply.entry.1 group, reply.reaction⟩) := by
  induction entries generalizing round account with
  | nil => exact ⟨[], rfl, Round.heard_nil.symm, .refl account⟩
  | cons entry rest induction =>
      have told := company.continues_answer (.notify entry.1 group) account
      rw [List.map_cons, offer_cons, run_bind, run_ask]
      generalize company.answer (.notify entry.1 group) account =
        answered at told ⊢
      obtain ⟨reaction, middle⟩ := answered
      cases reaction with
      | error error =>
          have logged := company.continues_answer
              (.log (.subscriberFailed group.key error)) middle
          obtain ⟨replies, entries, round, later⟩ :=
            induction (round.failed entry.1 error) (company.answer
              (.log (.subscriberFailed group.key error)) middle).2
          refine ⟨⟨entry, .error error⟩ :: replies, ?_, ?_, ?_⟩
          · rw [List.map_cons, entries]
          · exact round.trans Round.heard_failed.symm
          · exact told.trans (logged.trans later)
      | ok reaction =>
          cases reaction with
          | handled =>
              obtain ⟨replies, entries, round, later⟩ :=
                induction (round.handled entry.1) middle
              refine ⟨⟨entry, .ok .handled⟩ :: replies, ?_, ?_, ?_⟩
              · rw [List.map_cons, entries]
              · exact round.trans Round.heard_handled.symm
              · exact told.trans later
          | unsubscribed =>
              have logged := company.continues_answer
                  (.log (.subscriberGone group.key)) middle
              obtain ⟨replies, entries, round, later⟩ :=
                induction (round.unsubscribed entry.1)
                  (company.answer (.log (.subscriberGone group.key)) middle).2
              refine ⟨⟨entry, .ok .unsubscribed⟩ :: replies, ?_, ?_, ?_⟩
              · rw [List.map_cons, entries]
              · exact round.trans Round.heard_unsubscribed.symm
              · exact told.trans (logged.trans later)

end Company

theorem staying_nil (entries : List Entry) : staying entries [] = entries := by
  simp [staying]

theorem staying_cons (entries : List Entry) (offering : Offering)
    (rest : List Offering) :
    staying entries (offering :: rest) =
      staying (staying entries [offering]) rest := by
  simp only [staying, List.filter_filter, List.all_cons,
    List.all_nil, Bool.and_true]
  congr 1
  funext entry
  exact Bool.and_comm _ _

theorem staying_replies {group : Group} {replies : List Reply}
    (once : (replies.map Reply.entry).Nodup) :
    staying (replies.map Reply.entry) [⟨group, replies⟩] =
      (replies.filter fun reply => !reply.isGone).map Reply.entry := by
  have same : ∀ reply ∈ replies, ∀ other ∈ replies, other.entry = reply.entry →
      other = reply :=
    fun reply member other otherMember equality =>
      List.inj_on_of_nodup_map once otherMember member equality
  simp only [staying, List.all_cons, List.all_nil, Bool.and_true,
    List.filter_map]
  congr 1
  refine List.filter_congr fun reply member => ?_
  rw [Function.comp_apply, Bool.eq_iff_iff, List.all_eq_true]
  constructor
  · intro stays
    simpa using stays reply member
  · intro stays other otherMember
    by_cases equality : other.entry = reply.entry
    · rw [same reply member other otherMember equality]
      simpa using stays
    · simp [equality]

theorem offered_nil (entries : List Entry) : Offered entries [] := by
  intro earlier offering later split
  simp at split

theorem Offered.cons {entries : List Entry} {offering : Offering}
    {rest : List Offering} (first : offering.replies.map Reply.entry = entries)
    (later : Offered (staying entries [offering]) rest) :
    Offered entries (offering :: rest) := by
  intro earlier other following split
  cases earlier with
  | nil =>
      obtain ⟨rfl, rfl⟩ := List.cons.inj split
      rw [staying_nil, first]
  | cons head tail =>
      obtain ⟨rfl, following_eq⟩ := List.cons.inj split
      rw [staying_cons]
      exact later tail other following following_eq

theorem offerAll_cons (sweep : Sweep) (group : Group) (rest : List Group) :
    offerAll sweep (group :: rest) =
      (Call.log (.expiring group)).bind fun _ =>
        (offer group (.start sweep) sweep.listening).bind fun round =>
          (if round.isHandled then Program.done ()
            else Call.ask (.removeUnchanged group)).bind fun _ =>
              offerAll ⟨round.listening, round.gone, round.failure⟩ rest := by
  simp only [offerAll, Program.bind_eq]
  refine congrArg _ (funext fun _ => congrArg _ (funext fun round => ?_))
  cases round.isHandled <;> rfl

namespace Company

theorem continues_removal (company : Company Rest) (group : Group)
    (isTaken : Bool) (account : Account Rest) :
    company.Continues account (company.run (if isTaken then Program.done ()
      else Call.ask (.removeUnchanged group)) account).2
      (if isTaken then [] else [⟨.removeUnchanged group, ()⟩]) := by
  cases isTaken with
  | true => exact .refl account
  | false => exact company.continues_answer (.removeUnchanged group) account

theorem run_offerAll (company : Company Rest) {entries : List Entry}
    (once : entries.Nodup) (groups : List Group)
    (sweep : Sweep) (listening : sweep.listening = entries.map Prod.fst)
    (account : Account Rest) :
    ∃ offerings : List Offering, offerings.map Offering.group = groups ∧
      Offered entries offerings ∧
      (company.run (offerAll sweep groups) account).1.gone =
        sweep.gone ++ leavers offerings ∧
      (company.run (offerAll sweep groups) account).1.failure =
        sweep.failure.or (failures offerings).head? ∧
      company.Continues account (company.run (offerAll sweep groups) account).2
        (offerings.flatMap Offering.deeds) := by
  induction groups generalizing entries sweep account with
  | nil =>
      refine ⟨[], rfl, offered_nil _, ?_, ?_, .refl account⟩
      · exact (List.append_nil _).symm
      · exact Option.or_none.symm
  | cons group rest induction =>
      rw [offerAll_cons, run_bind, run_bind, run_bind, listening]
      have logged := company.continues_answer (.log (.expiring group)) account
      obtain ⟨replies, replied, heard, told⟩ := company.run_offer group entries
          (.start sweep) (company.run (Call.log (.expiring group)) account).2
      generalize company.run (offer group (.start sweep) (entries.map Prod.fst))
        (company.run (Call.log (.expiring group)) account).2 =
        offered at heard told ⊢
      obtain ⟨round, middle⟩ := offered
      subst replied heard
      set offering : Offering := ⟨group, replies⟩
      have removed := company.continues_removal group offering.isTaken middle
      have onceStill : (staying (replies.map Reply.entry) [offering]).Nodup :=
        once.filter _
      obtain ⟨offerings, groups, offers, gone, failure, later⟩ :=
        induction onceStill ⟨_, sweep.gone ++ offering.leavers,
          sweep.failure.or offering.failures.head?⟩ (by
          rw [staying_replies once, List.map_map, Function.comp_def])
        (company.run (if offering.isTaken then Program.done ()
          else Call.ask (.removeUnchanged group)) middle).2
      refine ⟨offering :: offerings, ?_, .cons rfl offers, ?_, ?_, ?_⟩
      · rw [List.map_cons, groups]
      · refine gone.trans ?_
        rw [leavers, leavers, List.flatMap_cons, List.append_assoc]
      · refine failure.trans ?_
        rw [failures, failures, List.flatMap_cons, Option.or_assoc,
          List.head?_append]
      · have whole := logged.trans (told.trans (removed.trans later))
        rw [List.flatMap_cons, Offering.deeds, List.append_assoc]
        exact whole

end Company

end Collate.Sweep
