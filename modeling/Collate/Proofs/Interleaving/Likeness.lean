import Collate.Proofs.Interleaving.Discipline
import Mathlib.Data.List.Forall2

namespace Collate.Interleaving

/-- How the generations of groups, the stamps of messages and the times of one
run correspond to those of another. -/
structure Likeness where
  generation : Nat → Nat → Prop
  stamp : Stamp → Stamp → Prop
  time : Int → Int → Prop
  oneToOne : Relator.BiUnique generation

inductive SameResult {α β : Type} (same : α → β → Prop) :
    Except Error α → Except Error β → Prop
  | ok {left : α} {right : β} (agree : same left right) :
      SameResult same (.ok left) (.ok right)
  | error (failure : Error) : SameResult same (.error failure) (.error failure)

namespace Likeness

variable (likeness : Likeness)

structure SameGroup (left right : Group) : Prop where
  key : left.key = right.key
  members : left.members = right.members
  markedCount : left.markedCount = right.markedCount
  generation : likeness.generation left.generation right.generation
  createdAt : likeness.time left.createdAt right.createdAt
  modifiedAt : likeness.time left.modifiedAt right.modifiedAt

/-- Messages that carry the same, and are the same message or were built in
corresponding ways. -/
structure SameMessage (left right : Message) : Prop where
  headers : left.headers = right.headers
  payload : left.payload = right.payload
  stamp : left.stamp = right.stamp ∨ likeness.stamp left.stamp right.stamp

inductive SameReply : Reply → Reply → Prop
  | message {left right : Message} (same : likeness.SameMessage left right) :
      SameReply (.message left) (.message right)
  | payload (value : Json) : SameReply (.payload value) (.payload value)

inductive SameOutcome : Outcome → Outcome → Prop
  | single {left right : Reply} (same : likeness.SameReply left right) :
      SameOutcome (.single left) (.single right)
  | many {left right : List Reply}
      (same : List.Forall₂ likeness.SameReply left right) :
      SameOutcome (.many left) (.many right)

/-- Questions that correspond, and when their answers do. What is logged does
not matter. -/
inductive SameQuestion :
    (left right : Engine.Request) → (left.Answer → right.Answer → Prop) → Prop
  | load (key : Key) :
      SameQuestion (.load key) (.load key) (SameResult likeness.SameGroup)
  | add (key : Key) (message : Message) : SameQuestion (.add key message)
        (.add key message) (SameResult likeness.SameGroup)
  | mark {left right : Group} (same : likeness.SameGroup left right) :
      SameQuestion (.mark left) (.mark right) (SameResult likeness.SameGroup)
  | remove (key : Key) :
      SameQuestion (.remove key) (.remove key) (SameResult Eq)
  | retain (left right : Nat) : SameQuestion (.retain left) (.retain right) Eq
  | retire (left right : Nat) : SameQuestion (.retire left) (.retire right) Eq
  | judge {left right : Group} (same : likeness.SameGroup left right) :
      SameQuestion (.judge left) (.judge right) Eq
  | process {left right : Group} (same : likeness.SameGroup left right) :
      SameQuestion (.process left) (.process right)
        (SameResult likeness.SameOutcome)
  | build (payload : Json) :
      SameQuestion (.build payload) (.build payload) likeness.SameMessage
  | resolve (name : String) : SameQuestion (.resolve name) (.resolve name) Eq
  | deliver (channel : Channel) (message : Message) :
      SameQuestion (.deliver channel message) (.deliver channel message) Eq
  | deliverWithin (limit : Nat) (channel : Channel) {left right : Message}
      (same : likeness.SameMessage left right) :
      SameQuestion (.deliverWithin limit channel left)
        (.deliverWithin limit channel right) Eq
  | log (left right : Log.Event) : SameQuestion (.log left) (.log right) Eq

/-- Programs that ask the same as long as they are told the same, and come to
what corresponds. -/
inductive SameCourse {α β : Type} (same : α → β → Prop) : Call α → Call β → Prop
  | done {left : α} {right : β} (agree : same left right) :
      SameCourse same (Program.done left) (Program.done right)
  | ask {left right : Engine.Request}
      {answers : left.Answer → right.Answer → Prop}
      {next : left.Answer → Call α} {other : right.Answer → Call β}
      (question : likeness.SameQuestion left right answers)
      (going : ∀ answer reply, answers answer reply →
        SameCourse same (next answer) (other reply)) :
      SameCourse same (Program.ask left next) (Program.ask right other)

inductive SameEvent : Event → Event → Prop
  | entered (call : Nat) (key : Option Key) :
      SameEvent ⟨call, key, .entered⟩ ⟨call, key, .entered⟩
  | answered (call : Nat) (key : Option Key) {left right : Engine.Request}
      {answers : left.Answer → right.Answer → Prop}
      (question : likeness.SameQuestion left right answers)
      {answer : left.Answer} {reply : right.Answer}
      (agree : answers answer reply) : SameEvent
        ⟨call, key, .answered left answer⟩ ⟨call, key, .answered right reply⟩
  | left (call : Nat) (key : Option Key) (keepsEntry : Bool)
      (result : Option Result) : SameEvent ⟨call, key, .left keepsEntry result⟩
        ⟨call, key, .left keepsEntry result⟩

structure SameView (left right : View) : Prop where
  stored : Option.Rel likeness.SameGroup left.stored right.stored
  keepsEntry : left.keepsEntry = right.keepsEntry
  events : List.Forall₂ likeness.SameEvent left.events right.events

structure SameCircumstances (left right : Circumstances) : Prop where
  generation : likeness.generation left.generation right.generation
  stamp : likeness.stamp left.stamp right.stamp
  time : likeness.time left.time right.time
  works : left.fault = none
  worksToo : right.fault = none
  judge : ∀ group other, likeness.SameGroup group other →
    left.judge group = right.judge other
  process : ∀ group other, likeness.SameGroup group other →
    SameResult likeness.SameOutcome (left.process group) (right.process other)
  resolve : ∀ name, left.resolve name = right.resolve name
  deliver : ∀ channel message,
    left.deliver channel message = right.deliver channel message
  deliverWithin :
    ∀ limit channel message other, likeness.SameMessage message other →
      left.deliverWithin limit channel message =
        right.deliverWithin limit channel other

variable {likeness}

namespace SameGroup

variable {left right : Group} (same : likeness.SameGroup left right)

include same

theorem isEmpty : left.isEmpty = right.isEmpty := by
  simp [Group.isEmpty, same.members]

theorem unmarked : left.unmarked = right.unmarked := by
  simp [Group.unmarked, same.members, same.markedCount]

theorem first? : left.first? = right.first? := by
  simp [Group.first?, same.members]

theorem sequenceSize : left.sequenceSize = right.sequenceSize := by
  simp [Group.sequenceSize, same.first?]

theorem isComplete : left.isComplete = right.isComplete := by
  unfold Group.isComplete Group.size
  rw [same.sequenceSize, same.members]

theorem canAdd (message : Message) :
    left.canAdd message = right.canAdd message := by
  simp [Group.canAdd, same.members, same.isEmpty, same.sequenceSize]

theorem add (message : Message) {time other : Int}
    (times : likeness.time time other) :
    likeness.SameGroup (left.add message time) (right.add message other) where
  key := same.key
  members := by simp [Group.add, same.members]
  markedCount := same.markedCount
  generation := same.generation
  createdAt := same.createdAt
  modifiedAt := times

theorem markAll {time other : Int} (times : likeness.time time other) :
    likeness.SameGroup (left.markAll time) (right.markAll other) where
  key := same.key
  members := same.members
  markedCount := by simp [Group.markAll, same.members]
  generation := same.generation
  createdAt := same.createdAt
  modifiedAt := times

end SameGroup

theorem SameReply.isMessage {left right : Reply}
    (same : likeness.SameReply left right) :
    left.isMessage = right.isMessage := by
  cases same <;> rfl

theorem SameReply.payloadOf {left right : Reply}
    (same : likeness.SameReply left right) :
    left.payloadOf = right.payloadOf := by
  cases same with
  | message same => exact same.payload
  | payload value => rfl

theorem isMessage_any {left right : List Reply}
    (same : List.Forall₂ likeness.SameReply left right) :
    left.any Reply.isMessage = right.any Reply.isMessage := by
  induction same with
  | nil => rfl
  | cons first _ induction =>
      simp only [List.any_cons, first.isMessage, induction]

theorem payloadOf_map {left right : List Reply}
    (same : List.Forall₂ likeness.SameReply left right) :
    left.map Reply.payloadOf = right.map Reply.payloadOf := by
  induction same with
  | nil => rfl
  | cons first _ induction =>
      simp only [List.map_cons, first.payloadOf, induction]

theorem SameOutcome.parts {left right : Outcome}
    (same : likeness.SameOutcome left right) :
    List.Forall₂ likeness.SameReply left.parts right.parts := by
  cases same with
  | single same => exact .cons same .nil
  | many same =>
      simp only [Outcome.parts, isMessage_any same, payloadOf_map same]
      split
      · exact same
      · exact .cons (.payload _) .nil

section Courses

variable {α β γ δ : Type} {same : α → β → Prop} {agree : γ → δ → Prop}

theorem SameQuestion.course {left right : Engine.Request}
    {answers : left.Answer → right.Answer → Prop}
    (question : likeness.SameQuestion left right answers) :
    likeness.SameCourse answers (Call.ask left) (Call.ask right) :=
  .ask question fun _ _ told => .done told

theorem SameCourse.bind {program : Call α} {other : Call β} {next : α → Call γ}
    {following : β → Call δ} (first : likeness.SameCourse same program other)
    (second : ∀ value result, same value result →
      likeness.SameCourse agree (next value) (following result)) :
    likeness.SameCourse agree (program.bind next) (other.bind following) := by
  induction first with
  | done come => exact second _ _ come
  | ask question _ induction => exact .ask question induction

theorem SameCourse.log {left right : Log.Event} {next : Unit → Call α}
    {other : Unit → Call β}
    (going : likeness.SameCourse same (next ()) (other ())) :
    likeness.SameCourse same ((Call.log left).bind next)
      ((Call.log right).bind other) :=
  .ask (.log left right) fun _ _ _ => going

end Courses

section Views

variable {circumstances others : Circumstances} {left right : Engine.Request}
  {answers : left.Answer → right.Answer → Prop}

theorem sameGroup_getD {stored other : Option Group} {group empty : Group}
    (same : Option.Rel likeness.SameGroup stored other)
    (without : likeness.SameGroup group empty) :
    likeness.SameGroup (stored.getD group) (other.getD empty) := by
  cases same with
  | some same => exact same
  | none => exact without

theorem SameCircumstances.empty
    (agree : likeness.SameCircumstances circumstances others) (key : Key) :
    likeness.SameGroup (.empty key circumstances.generation circumstances.time)
      (.empty key others.generation others.time) where
  key := rfl
  members := rfl
  markedCount := rfl
  generation := agree.generation
  createdAt := agree.time
  modifiedAt := agree.time

theorem SameCircumstances.shelve
    (agree : likeness.SameCircumstances circumstances others)
    {stored other : Option Group}
    (same : Option.Rel likeness.SameGroup stored other)
    (question : likeness.SameQuestion left right answers) :
    Option.Rel likeness.SameGroup (circumstances.shelve none stored left).1
      (others.shelve none other right).1 ∧
    answers (circumstances.shelve none stored left).2
      (others.shelve none other right).2 := by
  cases question with
  | load key =>
      simp only [Circumstances.shelve, agree.works, agree.worksToo]
      exact ⟨same, .ok (sameGroup_getD same (agree.empty key))⟩
  | add key message =>
      simp only [Circumstances.shelve, agree.works,
        agree.worksToo, Option.none_or]
      have sum := (sameGroup_getD same (agree.empty key)).add message agree.time
      exact ⟨.some sum, .ok sum⟩
  | mark group =>
      simp only [Circumstances.shelve, agree.works, agree.worksToo]
      refine ⟨?_, .ok ((sameGroup_getD same group).markAll agree.time)⟩
      cases same with
      | none => exact .none
      | some held => exact .some (held.markAll agree.time)
  | remove key =>
      simp only [Circumstances.shelve, agree.works, agree.worksToo]
      exact ⟨.none, .ok rfl⟩
  | retain => exact ⟨same, rfl⟩
  | retire => exact ⟨same, rfl⟩
  | judge group => exact ⟨same, agree.judge _ _ group⟩
  | process group => exact ⟨same, agree.process _ _ group⟩
  | build payload => exact ⟨same, ⟨rfl, rfl, .inr agree.stamp⟩⟩
  | resolve name => exact ⟨same, agree.resolve name⟩
  | deliver channel message => exact ⟨same, agree.deliver channel message⟩
  | deliverWithin limit channel message =>
      exact ⟨same, agree.deliverWithin _ _ _ _ message⟩
  | log => exact ⟨same, rfl⟩

theorem SameQuestion.keepsAfter
    (question : likeness.SameQuestion left right answers) (keepsEntry : Bool) :
    Interleaving.keepsAfter keepsEntry left =
      Interleaving.keepsAfter keepsEntry right := by
  cases question <;> rfl

theorem SameView.respond {view other : View}
    (same : likeness.SameView view other)
    (agree : likeness.SameCircumstances circumstances others) (call : Nat)
    (key : Key) (question : likeness.SameQuestion left right answers) :
    likeness.SameView (view.respond circumstances none call key left).1
      (other.respond others none call key right).1 ∧
    answers (view.respond circumstances none call key left).2
      (other.respond others none call key right).2 := by
  obtain ⟨stored, told⟩ := agree.shelve same.stored question
  refine ⟨⟨stored, ?_, ?_⟩, told⟩
  · exact (congrArg (Interleaving.keepsAfter · left) same.keepsEntry).trans
      (question.keepsAfter _)
  · exact List.rel_append same.events
      (.cons (.answered call (some key) question told) .nil)

theorem SameView.enter {view other : View} (same : likeness.SameView view other)
    (call : Nat) (key : Key) :
    likeness.SameView (view.enter call key) (other.enter call key) where
  stored := same.stored
  keepsEntry := same.keepsEntry
  events := List.rel_append same.events (.cons (.entered call (some key)) .nil)

theorem SameView.leave {view other : View} (same : likeness.SameView view other)
    (call : Nat) (key : Key) (result : Option Result) :
    likeness.SameView (view.leave call key result)
      (other.leave call key result) where
  stored := same.stored
  keepsEntry := rfl
  events := by
    refine List.rel_append same.events (.cons ?_ .nil)
    rw [same.keepsEntry]
    exact .left call (some key) _ result

end Views

end Likeness

end Collate.Interleaving
