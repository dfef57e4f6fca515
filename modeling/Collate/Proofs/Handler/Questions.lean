import Collate.Proofs.Interleaving.Discipline

namespace Collate.Interleaving

variable {key : Key} {ticket : Nat} {request : Engine.Request}

/-! Classes of questions. A class adds its own questions to those of the class
that stands in its last line. -/

/-- Questions that have to do with neither the store nor the locks, and by which
no message is moved. -/
def IsInert : Engine.Request → Prop
  | .judge _ => True
  | .build _ => True
  | .resolve _ => True
  | .log _ => True
  | _ => False

def IsApart : Engine.Request → Prop
  | .process _ => True
  | .deliver _ _ => True
  | .deliverWithin _ _ _ => True
  | request => IsInert request

def IsSettling : Engine.Request → Prop
  | .retain _ => True
  | .retire _ => True
  | .mark _ => True
  | .remove _ => True
  | request => IsApart request

def MovesNothing (ticket : Nat) : Engine.Request → Prop
  | .retain given => given = ticket
  | .retire given => given = ticket
  | request => IsInert request

def IsStill (key : Key) (ticket : Nat) : Engine.Request → Prop
  | .load name => name = key
  | .process _ => True
  | request => MovesNothing ticket request

def IsQuiet (ticket : Nat) : Engine.Request → Prop
  | .deliverWithin _ _ _ => True
  | request => MovesNothing ticket request

def IsCalm (ticket : Nat) : Engine.Request → Prop
  | .deliver _ _ => True
  | request => MovesNothing ticket request

def IsSilent : Engine.Request → Prop
  | .retain _ => True
  | .retire _ => True
  | .deliver _ _ => True
  | .deliverWithin _ _ _ => True
  | request => IsInert request

/-- Questions that change what is stored of a key. -/
def Alters : Engine.Request → Prop
  | .add _ _ => True
  | .mark _ => True
  | .remove _ => True
  | _ => False

def Touches : Engine.Request → Prop
  | .process _ => True
  | .deliver _ _ => True
  | .deliverWithin _ _ _ => True
  | .removeUnchanged _ => True
  | .unsubscribe _ => True
  | request => Alters request

def AddsNothing : Engine.Request → Prop
  | .add _ _ => False
  | _ => True

theorem IsApart.isAbout (apart : IsApart request) :
    IsAbout key ticket request := by
  cases request <;> first | exact trivial | exact apart.elim

theorem isSettling_of_isApart (request : Engine.Request)
    (apart : IsApart request) :
    IsSettling request := by
  cases request <;> trivial

theorem addsNothing_of_isSettling (request : Engine.Request)
    (settling : IsSettling request) : AddsNothing request := by
  cases request <;> trivial

theorem MovesNothing.isAbout (unmoved : MovesNothing ticket request) :
    IsAbout key ticket request := by
  cases request <;> first | exact unmoved | exact unmoved.elim

theorem IsQuiet.isAbout (quiet : IsQuiet ticket request) :
    IsAbout key ticket request := by
  cases request <;> first | exact quiet | exact quiet.elim

theorem IsQuiet.not_alters (quiet : IsQuiet ticket request) :
    ¬ Alters request := by
  cases request <;> first | exact id | exact quiet.elim

theorem IsCalm.isAbout (calm : IsCalm ticket request) :
    IsAbout key ticket request := by
  cases request <;> first | exact calm | exact calm.elim

theorem IsCalm.not_alters (calm : IsCalm ticket request) :
    ¬ Alters request := by
  cases request <;> first | exact id | exact calm.elim

theorem Alters.touches (alters : Alters request) : Touches request := by
  cases request <;> first | exact trivial | exact alters.elim

theorem shelve_of_not_alters {circumstances : Circumstances}
    {refusal : Option Error}
    {stored : Option Group} (keeps : ¬ Alters request) :
    (circumstances.shelve refusal stored request).1 = stored := by
  cases request with
  | load name =>
      simp only [Circumstances.shelve]
      cases circumstances.fault <;> rfl
  | add | mark | remove => exact absurd trivial keeps
  | _ => rfl

variable {α β : Type} {kind : Engine.Request → Prop}

/-- Whether a program asks only questions of a kind. -/
def Asks (kind : Engine.Request → Prop) {α : Type} : Call α → Prop
  | Program.done _ => True
  | Program.ask request next => kind request ∧ ∀ answer, Asks kind (next answer)

theorem Asks.mono {kind other : Engine.Request → Prop} {program : Call α}
    (asks : Asks kind program)
    (wider : ∀ request, kind request → other request) :
    Asks other program := by
  induction program with
  | done value => trivial
  | ask request next induction =>
      exact ⟨wider request asks.1,
        fun answer => induction answer (asks.2 answer)⟩

theorem asks_bind {kind : Engine.Request → Prop} {program : Call α}
    {next : α → Call β}
    (first : Asks kind program) (second : ∀ value, Asks kind (next value)) :
    Asks kind (program.bind next) := by
  induction program with
  | done value => exact second value
  | ask request rest induction =>
      exact ⟨first.1, fun answer => induction answer (first.2 answer)⟩

theorem asks_ask_bind {kind : Engine.Request → Prop} {request : Engine.Request}
    {next : request.Answer → Call β} :
    Asks kind ((Call.ask request).bind next) ↔
    kind request ∧ ∀ answer, Asks kind (next answer) :=
  Iff.rfl

theorem asks_messagesOf (builds : ∀ payload, kind (.build payload))
    (replies : List Reply) : Asks kind (Router.messagesOf replies) := by
  induction replies with
  | nil => trivial
  | cons reply rest induction =>
      cases reply with
      | message message => exact asks_bind induction fun messages => trivial
      | payload payload =>
          refine asks_ask_bind.mpr ⟨builds payload, fun message => ?_⟩
          exact asks_bind induction fun messages => trivial

theorem asks_sendAll (logs : ∀ event, kind (.log event))
    (delivers :
      ∀ limit channel message, kind (.deliverWithin limit channel message))
    (router : Router) (channel : Channel) (messages : List Message) :
    Asks kind (router.sendAll channel messages) := by
  induction messages with
  | nil => trivial
  | cons message rest induction =>
      refine ⟨delivers _ _ _, fun answer => ?_⟩
      cases answer with
      | none => exact ⟨logs _, fun _ => trivial⟩
      | some result =>
          cases result with
          | error error => trivial
          | ok value => exact induction

theorem asks_destination (resolves : ∀ name, kind (.resolve name))
    (router : Router) (address : Option HeaderValue) (key : Key) :
    Asks kind (router.destination address key) := by
  unfold Router.destination
  split
  · trivial
  · trivial
  · trivial
  · split
    · exact ⟨resolves _, fun answer => trivial⟩
    · trivial
  · trivial

theorem asks_sendReplies (builds : ∀ payload, kind (.build payload))
    (resolves : ∀ name, kind (.resolve name))
    (logs : ∀ event, kind (.log event))
    (delivers : ∀ limit channel message,
      kind (.deliverWithin limit channel message)) (router : Router)
    (outcome : Outcome) (address : Option HeaderValue) (key : Key) :
    Asks kind (router.sendReplies outcome address key) := by
  apply asks_bind (asks_destination resolves _ _ _)
  intro found
  cases found with
  | error error => trivial
  | ok channel =>
      apply asks_bind (asks_messagesOf builds _)
      intro messages
      refine asks_ask_bind.mpr ⟨logs _, fun _ => ?_⟩
      apply asks_bind (asks_sendAll logs delivers _ _ _)
      intro sent
      cases sent <;> trivial

theorem asks_dispatch_of (builds : ∀ payload, kind (.build payload))
    (resolves : ∀ name, kind (.resolve name))
    (logs : ∀ event, kind (.log event))
    (delivers : ∀ limit channel message,
      kind (.deliverWithin limit channel message)) (handler : Handler)
    (key : Key) (outcome : Outcome) (address : Option HeaderValue) :
    Asks kind (handler.dispatch key outcome address) := by
  apply asks_bind (asks_sendReplies builds resolves logs delivers _ _ _ _)
  intro sent
  cases sent <;> exact ⟨logs _, fun _ => trivial⟩

theorem asks_discard_of
    (delivers : ∀ channel message, kind (.deliver channel message))
    (logs : ∀ event, kind (.log event)) (handler : Handler) (key : Key)
    (message : Message) : Asks kind (handler.discard key message) := by
  refine asks_ask_bind.mpr ⟨delivers _ _, fun answer => ?_⟩
  cases answer with
  | ok value => trivial
  | error error => exact ⟨logs _, fun _ => trivial⟩

theorem asks_discardAll_of
    (delivers : ∀ channel message, kind (.deliver channel message))
    (logs : ∀ event, kind (.log event))
    (handler : Handler) (key : Key) (messages : List Message) :
    Asks kind (handler.discardAll key messages) := by
  induction messages with
  | nil => trivial
  | cons message rest induction =>
      apply asks_bind (asks_discard_of delivers logs handler key message)
      intro result
      cases result with
      | ok value => exact induction
      | error error => trivial

theorem asks_isDue (judges : ∀ group, kind (.judge group)) (handler : Handler)
    (group : Group) : Asks kind (handler.isDue group) := by
  unfold Handler.isDue
  split
  · trivial
  · exact ⟨judges group, fun _ => trivial⟩

theorem asks_removeGroup_of (removes : ∀ name, kind (.remove name))
    (retires : ∀ given, kind (.retire given)) (ticket : Nat) (key : Key) :
    Asks kind (Handler.removeGroup ticket key) := by
  refine asks_ask_bind.mpr ⟨removes key, fun answer => ?_⟩
  cases answer with
  | error error => trivial
  | ok value => exact ⟨retires ticket, fun _ => trivial⟩

theorem asks_cleanUp_of (removes : ∀ name, kind (.remove name))
    (retires : ∀ given, kind (.retire given))
    (marks : ∀ group, kind (.mark group)) (ticket : Nat) (group : Group) :
    Asks kind (Handler.cleanUp ticket group) := by
  unfold Handler.cleanUp
  split
  · exact asks_removeGroup_of removes retires ticket _
  · refine asks_ask_bind.mpr ⟨marks group, fun answer => ?_⟩
    cases answer <;> trivial

theorem asks_dispatch (handler : Handler) (ticket : Nat) (key : Key)
    (outcome : Outcome) (address : Option HeaderValue) :
    Asks (IsQuiet ticket) (handler.dispatch key outcome address) :=
  asks_dispatch_of (fun _ => trivial) (fun _ => trivial) (fun _ => trivial)
    (fun _ _ _ => trivial) handler key outcome address

end Collate.Interleaving
