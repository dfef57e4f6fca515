import Collate.Channel.Registry
import Collate.Proofs.Interleaving.System
import Mathlib.Data.List.Forall2

namespace Collate.Router

open Interleaving (Circumstances)

/-- What comes of handing over a message: after some time, unless that never
ends, the channel has taken it or has failed. -/
structure Attempt where
  duration : Option Nat
  result : Except Error Unit

def Attempt.within (attempt : Attempt) (limit : Nat) :
    Option (Except Error Unit) :=
  match attempt.duration with
  | some duration => if duration ≤ limit then some attempt.result else none
  | none => none

def Attempt.waited (attempt : Attempt) (limit : Nat) : Nat :=
  min (attempt.duration.getD limit) limit

structure Sending where
  channel : Channel
  message : Message
  start : Nat
  attempt : Attempt

namespace Sending

/-- Whether a message has been taken within a limit of time, and at the latest
at some time. -/
def TakenBy (limit : Nat) (sending : Sending) (time : Nat) : Prop :=
  ∃ duration ≤ limit, sending.attempt = ⟨some duration, .ok ()⟩ ∧
    sending.start + duration ≤ time

def IsTaken (limit : Nat) (sending : Sending) : Prop :=
  ∃ duration ≤ limit, sending.attempt = ⟨some duration, .ok ()⟩

def FailsWith (limit : Nat) (sending : Sending) (error : Error) : Prop :=
  (∃ duration ≤ limit, sending.attempt = ⟨some duration, .error error⟩) ∨
    (∀ duration, sending.attempt.duration = some duration → limit < duration) ∧
      error = .sendTimeout sending.channel.name limit

end Sending

/-- Those around a router, by the number of its questions before. -/
structure Post where
  circumstances : Nat → Circumstances
  pause : Nat → Nat
  attempt : List Sending → Channel → Message → Attempt

structure Account where
  turn : Nat
  clock : Nat
  store : Store
  sendings : List Sending

def Account.start : Account :=
  { turn := 0, clock := 0, store := Store.empty 0, sendings := [] }

namespace Post

variable {α β : Type} (post : Post)

def answer (request : Engine.Request) :
    StateM Account request.Answer := fun account =>
      let clock := account.clock + post.pause account.turn
      match request with
      | .deliverWithin limit channel message =>
          let attempt := post.attempt account.sendings channel message
          (attempt.within limit,
            { turn := account.turn + 1
              clock := clock + attempt.waited limit
              store := account.store
              sendings :=
                account.sendings ++ [⟨channel, message, clock, attempt⟩] })
      | request =>
          let (store, answer) :=
            (post.circumstances account.turn).answer account.store request
          (answer,
            { turn := account.turn + 1, clock, store, sendings :=
                account.sendings })

def run (program : Call α) (account : Account) : α × Account :=
  program.runIn post.answer account

end Post

/-- Whether a message is what is sent for a reply: itself, or a payload without
headers. -/
def Carries : Reply → Message → Prop
  | .message message, sent => sent = message
  | .payload payload, sent => sent.payload = payload ∧ sent.headers = .empty

/-- What is sent for an outcome: one message for each of several replies if
there is a message among them, and one message in all otherwise. -/
inductive Yields : Outcome → List Message → Prop where
  | each {replies : List Reply} {message : Message} {messages : List Message}
      (present : .message message ∈ replies)
      (carried : List.Forall₂ Carries replies messages) :
      Yields (.many replies) messages
  | together {replies : List Reply} {sent : Message}
      (absent : ∀ message, Reply.message message ∉ replies)
      (payload : sent.payload = .array (replies.map Reply.payloadOf))
      (headers : sent.headers = .empty) : Yields (.many replies) [sent]
  | single {reply : Reply} {sent : Message} (carried : Carries reply sent) :
      Yields (.single reply) [sent]

/-- Where replies go: to the output channel, or else to the channel that the
address is or names. -/
def choice (router : Router) (resolve : String → Except Error Channel)
    (address : Option HeaderValue) (key : Key) : Except Error Channel :=
  match router.output with
  | some channel => .ok channel
  | none =>
      match address with
      | some (.channel channel) => .ok channel
      | some (.text name) =>
          if router.hasResolver then resolve name
          else .error (unresolvable name)
      | some value => .error (.invalidDestination value.kind)
      | none => .error (.noDestination key.text)

variable {router : Router} {post : Post} {channel : Channel} {outcome : Outcome}
  {replies : List Reply} {messages : List Message}
  {earlier sendings : List Sending} {sending : Sending} {clock limit : Nat}
  {result : Except Error Unit} {error : Error}

theorem any_isMessage_iff : replies.any Reply.isMessage = true ↔
    ∃ message, Reply.message message ∈ replies := by
  rw [List.any_eq_true]
  constructor
  · rintro ⟨reply, member, isMessage⟩
    cases reply with
    | message message => exact ⟨message, member⟩
    | payload payload => simp [Reply.isMessage] at isMessage
  · rintro ⟨message, member⟩
    exact ⟨_, member, rfl⟩

theorem isFanOut_iff :
    outcome.isFanOut = true ↔
    ∃ replies message, outcome = .many replies ∧
      Reply.message message ∈ replies := by
  cases outcome with
  | single reply => simp [Outcome.isFanOut]
  | many replies =>
      refine any_isMessage_iff.trans
        ⟨fun ⟨message, member⟩ => ⟨replies, message, rfl, member⟩, ?_⟩
      rintro ⟨_, message, ⟨⟩, member⟩
      exact ⟨message, member⟩

theorem yields_of_parts
    (carried : List.Forall₂ Carries outcome.parts messages) :
    Yields outcome messages := by
  cases outcome with
  | single reply =>
      obtain ⟨sent, rest, here, nothing, rfl⟩ :=
        List.forall₂_cons_left_iff.mp carried
      rw [List.forall₂_nil_left_iff.mp nothing]
      exact .single here
  | many replies =>
      by_cases present : replies.any Reply.isMessage = true
      · rw [Outcome.parts, if_pos present] at carried
        obtain ⟨message, member⟩ := any_isMessage_iff.mp present
        exact .each member carried
      · rw [Outcome.parts, if_neg present] at carried
        obtain ⟨sent, rest, ⟨payload, headers⟩, nothing, rfl⟩ :=
          List.forall₂_cons_left_iff.mp carried
        rw [List.forall₂_nil_left_iff.mp nothing]
        exact .together (fun message member =>
          present (any_isMessage_iff.mpr ⟨message, member⟩)) payload headers

namespace Post

variable {α β : Type}

theorem run_bind (post : Post) (program : Call α) (next : α → Call β)
    (account : Account) :
    post.run (program.bind next) account = post.run
      (next (post.run program account).1) (post.run program account).2 := by
  unfold run
  rw [Program.runIn_bind]
  rfl

theorem run_done (post : Post) (value : α) (account : Account) :
    post.run (Program.done value) account = (value, account) := rfl

theorem run_ask (post : Post) (request : Engine.Request) (account : Account) :
    post.run (Call.ask request) account = post.answer request account := rfl

theorem run_destination (post : Post) (router : Router)
    (address : Option HeaderValue) (key : Key) (account : Account) :
    (post.run (router.destination address key) account).1 =
      router.choice (post.circumstances account.turn).resolve address key ∧
    (post.run (router.destination address key) account).2.sendings =
      account.sendings := by
  unfold destination choice
  cases router.output with
  | some chosen => exact ⟨rfl, rfl⟩
  | none =>
      cases address with
      | none => exact ⟨rfl, rfl⟩
      | some value =>
          cases value with
          | text name => cases router.hasResolver <;> exact ⟨rfl, rfl⟩
          | _ => exact ⟨rfl, rfl⟩

theorem run_messagesOf (post : Post) (replies : List Reply)
    (account : Account) :
    List.Forall₂ Carries replies (post.run (messagesOf replies) account).1 ∧
    (post.run (messagesOf replies) account).2.sendings = account.sendings := by
  induction replies generalizing account with
  | nil => exact ⟨.nil, rfl⟩
  | cons reply rest induction =>
      cases reply with
      | message message =>
          have step :
              messagesOf (.message message :: rest) = (messagesOf rest).bind
                fun messages => .done (message :: messages) := rfl
          obtain ⟨carried, sendings⟩ := induction account
          have same : Carries (.message message) message := rfl
          rw [step, run_bind, run_done]
          exact ⟨.cons same carried, sendings⟩
      | payload payload =>
          have step : messagesOf (.payload payload :: rest) =
              (Call.ask (.build payload)).bind fun message =>
                (messagesOf rest).bind
                  fun messages => .done (message :: messages) := rfl
          obtain ⟨carried, sendings⟩ :=
            induction (post.answer (.build payload) account).2
          have new : Carries (.payload payload)
                (post.answer (.build payload) account).1 :=
            ⟨rfl, rfl⟩
          rw [step, run_bind, run_ask, run_bind, run_done]
          exact ⟨.cons new carried, sendings⟩

end Post

theorem Attempt.within_cases (attempt : Attempt) (limit : Nat) :
    (∃ duration result, duration ≤ limit ∧ attempt = ⟨some duration, result⟩ ∧
      attempt.within limit = some result ∧ attempt.waited limit = duration) ∨
    (∀ duration, attempt.duration = some duration → limit < duration) ∧
      attempt.within limit = none := by
  obtain ⟨duration, result⟩ := attempt
  cases duration with
  | none => exact .inr ⟨nofun, rfl⟩
  | some duration =>
      by_cases inTime : duration ≤ limit
      · exact .inl ⟨duration, result, inTime, rfl, if_pos inTime,
          Nat.min_eq_left inTime⟩
      · refine .inr ⟨?_, if_neg inTime⟩
        rintro _ ⟨⟩
        exact Nat.lt_of_not_le inTime

/-- Messages are sent to a channel one after another, from a time on and after
earlier sendings, until all have been taken or one has not. -/
inductive Sends (post : Post) (channel : Channel) (limit : Nat) :
    List Sending → Nat → List Message → List Sending →
    Except Error Unit → Prop where
  | all {earlier : List Sending} {clock : Nat} :
      Sends post channel limit earlier clock [] [] (.ok ())
  | next {earlier : List Sending} {clock duration : Nat} {sending : Sending}
      {messages : List Message}
      {sendings : List Sending} {result : Except Error Unit}
      (here : sending.channel = channel) (notBefore : clock ≤ sending.start)
      (attempted : sending.attempt = post.attempt earlier channel
        sending.message) (inTime : duration ≤ limit)
      (taken : sending.attempt = ⟨some duration, .ok ()⟩)
      (later : Sends post channel limit (earlier ++ [sending]) (sending.start +
        duration) messages sendings result) : Sends post channel limit earlier
          clock (sending.message :: messages) (sending :: sendings) result
  | last {earlier : List Sending} {clock : Nat} {sending : Sending}
      {messages : List Message} {error : Error}
      (here : sending.channel = channel) (notBefore : clock ≤ sending.start)
      (attempted :
        sending.attempt = post.attempt earlier channel sending.message)
      (fails : sending.FailsWith limit error) : Sends post channel limit earlier
        clock (sending.message :: messages) [sending] (.error error)

namespace Post

theorem run_sendAll (post : Post) (router : Router) (channel : Channel)
    (messages : List Message) (account : Account) :
    ∃ sendings, (post.run (router.sendAll channel messages)
      account).2.sendings = account.sendings ++ sendings ∧
      Sends post channel router.timeout account.sendings account.clock messages
        sendings (post.run (router.sendAll channel messages) account).1 := by
  induction messages generalizing account with
  | nil => exact ⟨[], (List.append_nil _).symm, .all⟩
  | cons message rest induction =>
      let attempt := post.attempt account.sendings channel message
      let sending : Sending :=
        ⟨channel, message, account.clock + post.pause account.turn, attempt⟩
      have notBefore : account.clock ≤ sending.start := Nat.le_add_right _ _
      have answered : post.answer
          (.deliverWithin router.timeout channel message) account =
          (attempt.within router.timeout,
            { turn := account.turn + 1
              clock := sending.start + attempt.waited router.timeout
              store := account.store
              sendings := account.sendings ++ [sending] }) := rfl
      have step : router.sendAll channel (message :: rest) =
            (Call.ask (.deliverWithin router.timeout channel message)).bind _ :=
        rfl
      rw [step, run_bind, run_ask, answered]
      rcases attempt.within_cases router.timeout with
        ⟨duration, result, inTime, ended, known, waited⟩ | ⟨late, unknown⟩
      · rw [known, waited]
        cases result with
        | ok nothing =>
            obtain ⟨sendings, sent, later⟩ := induction
              { turn := account.turn + 1
                clock := sending.start + duration
                store := account.store
                sendings := account.sendings ++ [sending] }
            refine ⟨sending :: sendings, ?_,
              .next rfl notBefore rfl inTime ended later⟩
            exact sent.trans (List.append_assoc _ [sending] sendings)
        | error error =>
            exact ⟨[sending], rfl,
              .last rfl notBefore rfl (.inl ⟨duration, inTime, ended⟩)⟩
      · rw [unknown]
        exact ⟨[sending], rfl, .last rfl notBefore rfl (.inr ⟨late, rfl⟩)⟩

end Post

namespace Sends

theorem messages_prefix
    (sends : Sends post channel limit earlier clock messages sendings result) :
    sendings.map Sending.message <+: messages := by
  induction sends with
  | all => exact List.prefix_refl _
  | next _ _ _ _ _ _ induction => exact (List.prefix_cons_inj _).mpr induction
  | last _ _ _ _ => exact (List.prefix_cons_inj _).mpr List.nil_prefix

theorem not_before
    (sends : Sends post channel limit earlier clock messages sendings result) :
    ∀ sending ∈ sendings, clock ≤ sending.start := by
  induction sends with
  | all => exact fun _ member => absurd member List.not_mem_nil
  | next _ notBefore _ _ _ _ induction =>
      intro sending member
      rcases List.mem_cons.mp member with rfl | later
      · exact notBefore
      · exact Nat.le_trans notBefore
          (Nat.le_trans (Nat.le_add_right _ _) (induction sending later))
  | last _ notBefore _ _ =>
      exact fun _ member => List.mem_singleton.mp member ▸ notBefore

theorem in_turn
    (sends : Sends post channel limit earlier clock messages sendings result)
    {before after : List Sending}
    (parts : sendings = before ++ sending :: after) :
    sending.channel = channel ∧
    sending.attempt = post.attempt (earlier ++ before) channel sending.message ∧
    ∀ previous ∈ before, previous.TakenBy limit sending.start := by
  induction sends generalizing before with
  | all => simp at parts
  | next here notBefore attempted inTime taken later induction =>
      cases before with
      | nil =>
          obtain ⟨rfl, rfl⟩ := List.cons.inj parts
          rw [List.append_nil]
          exact ⟨here, attempted, nofun⟩
      | cons first rest =>
          obtain ⟨rfl, rest_eq⟩ := List.cons.inj parts
          obtain ⟨same, attemptedLater, takenBefore⟩ := induction rest_eq
          rw [List.append_assoc] at attemptedLater
          refine ⟨same, attemptedLater, fun previous member => ?_⟩
          rcases List.mem_cons.mp member with rfl | among
          · have start := later.not_before sending (by rw [rest_eq]; simp)
            exact ⟨_, inTime, taken, start⟩
          · exact takenBefore previous among
  | last here notBefore attempted fails =>
      cases before with
      | nil =>
          obtain ⟨rfl, rfl⟩ := List.cons.inj parts
          rw [List.append_nil]
          exact ⟨here, attempted, nofun⟩
      | cons first rest => simp at parts

theorem result_cases
    (sends : Sends post channel limit earlier clock messages sendings result) :
    (result = .ok () ∧ sendings.map Sending.message = messages ∧
      ∀ sending ∈ sendings, sending.IsTaken limit) ∨
    ∃ error before last, result = .error error ∧ sendings = before ++ [last] ∧
      (∀ sending ∈ before, sending.IsTaken limit) ∧
      last.FailsWith limit error := by
  induction sends with
  | all => exact .inl ⟨rfl, rfl, nofun⟩
  | next here notBefore attempted inTime taken later induction =>
      rename_i first _ sendings _
      have isTaken : first.IsTaken limit := ⟨_, inTime, taken⟩
      rcases induction with ⟨ok, all, takenLater⟩ |
        ⟨error, before, last, failed, parts, takenBefore, fails⟩
      · refine .inl ⟨ok, by rw [List.map_cons, all], ?_⟩
        exact List.forall_mem_cons.mpr ⟨isTaken, takenLater⟩
      · refine .inr ⟨error, first :: before, last, failed,
          by rw [parts]; rfl, ?_, fails⟩
        exact List.forall_mem_cons.mpr ⟨isTaken, takenBefore⟩
  | last here notBefore attempted fails =>
      exact .inr ⟨_, [], _, rfl, rfl, nofun, fails⟩

end Sends

namespace Sending

theorem IsTaken.not_failsWith (isTaken : sending.IsTaken limit) :
    ¬ sending.FailsWith limit error := by
  obtain ⟨duration, inTime, taken⟩ := isTaken
  rintro (⟨other, -, failed⟩ | ⟨late, -⟩)
  · rw [taken] at failed
    cases failed
  · exact Nat.lt_irrefl _
      (Nat.lt_of_lt_of_le (late duration (by rw [taken])) inTime)

theorem FailsWith.unique {other : Error} (fails : sending.FailsWith limit error)
    (failsToo : sending.FailsWith limit other) : other = error := by
  rcases fails with ⟨duration, inTime, failed⟩ | ⟨late, rfl⟩ <;>
    rcases failsToo with ⟨again, againInTime, failedToo⟩ | ⟨lateToo, rfl⟩
  · rw [failed] at failedToo
    cases failedToo
    rfl
  · exact absurd (lateToo duration (by rw [failed])) (Nat.not_lt.mpr inTime)
  · exact absurd (late again (by rw [failedToo])) (Nat.not_lt.mpr againInTime)
  · rfl

end Sending

namespace Sends

theorem ok_iff
    (sends : Sends post channel limit earlier clock messages sendings result) :
    result = .ok () ↔ sendings.map Sending.message = messages ∧
    ∀ sending ∈ sendings, sending.IsTaken limit := by
  rcases sends.result_cases with
    ⟨rfl, all, taken⟩ | ⟨error, before, last, rfl, rfl, -, fails⟩
  · exact iff_of_true rfl ⟨all, taken⟩
  · refine iff_of_false nofun fun ⟨_, taken⟩ => ?_
    exact (taken last (by simp)).not_failsWith fails

theorem error_iff
    (sends : Sends post channel limit earlier clock messages sendings result) :
    result = .error error ↔ ∃ before last, sendings = before ++ [last] ∧
      (∀ sending ∈ before, sending.IsTaken limit) ∧
      last.FailsWith limit error := by
  rcases sends.result_cases with
    ⟨rfl, all, taken⟩ | ⟨failure, before, last, rfl, rfl, takenBefore, fails⟩
  · refine iff_of_false nofun ?_
    rintro ⟨before, last, rfl, -, fails⟩
    exact (taken last (by simp)).not_failsWith fails
  · constructor
    · rintro ⟨⟩
      exact ⟨before, last, rfl, takenBefore, fails⟩
    · rintro ⟨others, final, parts, -, failsToo⟩
      obtain rfl : last = final :=
        List.singleton_inj.mp (List.append_inj_right' parts rfl)
      rw [fails.unique failsToo]

end Sends

theorem sendReplies_eq (router : Router) (outcome : Outcome)
    (address : Option HeaderValue) (key : Key) :
    router.sendReplies outcome address key =
      (router.destination address key).bind fun
      | .error error => .done (.error error)
      | .ok channel => (messagesOf outcome.parts).bind fun messages =>
          (Call.log (.sendingReplies key channel.name messages.length
            outcome.isFanOut)).bind fun _ =>
              (router.sendAll channel messages).bind fun
                | .error error => .done (.error error)
                | .ok () => .done (.ok messages.length) := rfl

namespace Post

variable {address : Option HeaderValue} {key : Key} {account : Account}

theorem run_sendReplies_of_error
    (unsettled : router.choice
      (post.circumstances account.turn).resolve address key = .error error) :
    (post.run (router.sendReplies outcome address key) account).1 =
      .error error ∧
    (post.run (router.sendReplies outcome address key) account).2.sendings =
        account.sendings := by
  obtain ⟨destination, unsent⟩ :=
    post.run_destination router address key account
  rw [sendReplies_eq, run_bind, destination, unsettled]
  exact ⟨rfl, unsent⟩

theorem run_sendReplies_of_ok (outcome : Outcome)
    (settled : router.choice
      (post.circumstances account.turn).resolve address key = .ok channel) :
    ∃ messages clock sendings result, Yields outcome messages ∧
      (post.run (router.sendReplies outcome address key) account).2.sendings =
        account.sendings ++ sendings ∧
      Sends post channel router.timeout account.sendings clock messages sendings
        result ∧
      (post.run (router.sendReplies outcome address key) account).1 = result.map
        fun _ => messages.length := by
  obtain ⟨destination, unsent⟩ :=
    post.run_destination router address key account
  rw [sendReplies_eq, run_bind, destination, settled]
  generalize (post.run (router.destination address key) account).2 =
    before at unsent ⊢
  obtain ⟨carried, unsentStill⟩ := post.run_messagesOf outcome.parts before
  dsimp only
  rw [run_bind]
  generalize post.run (messagesOf outcome.parts) before = made
    at carried unsentStill ⊢
  obtain ⟨messages, after⟩ := made
  have logged : (post.run (Call.log (.sendingReplies key channel.name
      messages.length outcome.isFanOut)) after).2.sendings = account.sendings :=
    unsentStill.trans unsent
  rw [run_bind]
  generalize (post.run (Call.log (.sendingReplies key channel.name
    messages.length outcome.isFanOut)) after).2 = announced at logged ⊢
  obtain ⟨sendings, sent, sends⟩ :=
    post.run_sendAll router channel messages announced
  rw [logged] at sent sends
  rw [run_bind]
  generalize post.run (router.sendAll channel messages) announced =
    last at sent sends ⊢
  obtain ⟨result, final⟩ := last
  refine ⟨messages, _, sendings, result, yields_of_parts carried, ?_, sends, ?_⟩
  · cases result <;> exact sent
  · cases result <;> rfl

end Post

/-- For every outcome, address and router, and however the channel behaves:
without a destination, nothing is sent. Otherwise a message for each of several
replies, or one in all, goes to the channel that is settled before the first is
sent; each is sent after those before it have been taken in time. All is well
exactly if all are taken in time. Otherwise the last that is sent is the first
that is not, and the failure is its. -/
theorem sendReplies_in_turn (router : Router) (post : Post) (outcome : Outcome)
    (address : Option HeaderValue) (key : Key) :
    let destination := router.choice (post.circumstances 0).resolve address key
    let run := post.run (router.sendReplies outcome address key) .start
    let sendings := run.2.sendings
    (outcome.isFanOut = true ↔
      ∃ replies message, outcome = .many replies ∧
        Reply.message message ∈ replies) ∧
    (∀ error, destination = .error error → run.1 = .error error ∧
      sendings = []) ∧
    ∀ channel, destination = .ok channel → ∃ messages, Yields outcome messages ∧
      sendings.map Sending.message <+: messages ∧
      (∀ before sending after, sendings = before ++ sending :: after →
        sending.channel = channel ∧
        sending.attempt = post.attempt before channel sending.message ∧
        ∀ previous ∈ before, previous.TakenBy router.timeout sending.start) ∧
      (∀ count, run.1 = .ok count ↔ count = messages.length ∧
        sendings.map Sending.message = messages ∧
        ∀ sending ∈ sendings, sending.IsTaken router.timeout) ∧
      ∀ error, run.1 = .error error ↔
        ∃ before last, sendings = before ++ [last] ∧
          (∀ sending ∈ before, sending.IsTaken router.timeout) ∧
          last.FailsWith router.timeout error := by
  intro destination run sendings
  refine ⟨isFanOut_iff, fun error unsettled =>
    Post.run_sendReplies_of_error unsettled, fun channel settled => ?_⟩
  have chosen :
    router.choice (post.circumstances Account.start.turn).resolve address key =
      .ok channel := settled
  obtain ⟨messages, clock, sent, result, yields, all, sends, result_eq⟩ :=
    Post.run_sendReplies_of_ok outcome chosen
  obtain rfl : sendings = sent := all
  have result_eq : run.1 = result.map fun _ => messages.length := result_eq
  refine ⟨messages, yields, sends.messages_prefix, ?_, fun count => ?_,
    fun error => ?_⟩
  · exact fun before sending after parts => sends.in_turn parts
  · rw [result_eq, ← sends.ok_iff]
    cases result with
    | error error => simp [Except.map]
    | ok nothing => simp [Except.map, eq_comm]
  · rw [result_eq, ← sends.error_iff]
    cases result <;> simp [Except.map]

/-! Two messages and a payload go to a channel that is known by its name. It
takes the first just in time, and never takes the second. -/

def tiny : Channel := ⟨0, "tiny"⟩

def slowPost : Post where
  circumstances _ :=
    { generation := 0
      stamp := ⟨⟨0⟩, 0⟩
      time := 0
      fault := none
      judge _ := true
      process group := .error (.processing group.key.text "no")
      resolve := (Registry.empty.register "tiny" tiny).resolve
      deliver _ _ := .ok ()
      deliverWithin _ _ _ := none
      rank _ := 0 }
  pause _ := 1
  attempt earlier _ _ := if earlier.isEmpty then ⟨some 20, .ok ()⟩
    else ⟨none, .ok ()⟩

def patientRouter : Router :=
  { output := none, hasResolver := true, timeout := 20 }

def threeReplies : Outcome :=
  .many [.message (.ofPayload .null ⟨⟨1⟩, 0⟩),
    .message (.ofPayload .null ⟨⟨2⟩, 0⟩), .payload .null]

theorem threeReplies_in_turn :
    let run := slowPost.run (patientRouter.sendReplies threeReplies
        (some (.text "tiny")) ⟨"all"⟩) .start
    threeReplies.isFanOut = true ∧ run.1 = .error (.sendTimeout "tiny" 20) ∧
      ∃ first second, run.2.sendings = [first, second] ∧
        first.TakenBy 20 second.start ∧
        second.FailsWith 20 (.sendTimeout "tiny" 20) := by
  intro run
  obtain ⟨fanOut, -, sent⟩ := sendReplies_in_turn patientRouter slowPost
      threeReplies (some (.text "tiny")) ⟨"all"⟩
  obtain ⟨messages, -, -, inTurn, -, fails⟩ := sent tiny rfl
  have failed : run.1 = .error (.sendTimeout "tiny" 20) := rfl
  obtain ⟨before, last, parts, -, failsWith⟩ := (fails _).mp failed
  have two : run.2.sendings.length = 2 := rfl
  rw [parts, List.length_append] at two
  obtain ⟨first, rfl⟩ := List.length_eq_one_iff.mp (Nat.succ.inj two)
  obtain ⟨-, -, taken⟩ := inTurn [first] last [] parts
  refine ⟨fanOut.mpr ⟨_, _, rfl, List.mem_cons_self⟩, failed, first, last,
    parts, ?_, failsWith⟩
  exact taken first List.mem_cons_self

end Collate.Router
