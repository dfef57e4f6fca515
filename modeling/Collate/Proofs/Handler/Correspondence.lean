import Collate.Handler
import Collate.Proofs.Interleaving.Likeness

namespace Collate.Interleaving.Likeness

variable {likeness : Likeness} (handler : Handler)
  (ticket claimed : Nat) (key : Key)

theorem sameCourse_discard (message : Message) :
    likeness.SameCourse Eq (handler.discard key message)
      (handler.discard key message) := by
  apply (SameQuestion.deliver _ message).course.bind
  rintro taken _ rfl
  cases taken with
  | ok value => exact .done rfl
  | error error => exact .log (.done rfl)

theorem sameCourse_discardAll (messages : List Message) :
    likeness.SameCourse Eq (handler.discardAll key messages)
      (handler.discardAll key messages) := by
  induction messages with
  | nil => exact .done rfl
  | cons message rest induction =>
      apply (sameCourse_discard handler key message).bind
      rintro taken _ rfl
      cases taken with
      | ok value => exact induction
      | error error => exact .done rfl

theorem sameCourse_destination (router : Router)
    (address : Option HeaderValue) :
    likeness.SameCourse Eq (router.destination address key)
      (router.destination address key) := by
  unfold Router.destination
  split
  · exact .done rfl
  · exact .done rfl
  · exact .done rfl
  · split
    · exact (SameQuestion.resolve _).course
    · exact .done rfl
  · exact .done rfl

theorem sameCourse_messagesOf {replies others : List Reply}
    (same : List.Forall₂ likeness.SameReply replies others) :
    likeness.SameCourse (List.Forall₂ likeness.SameMessage)
      (Router.messagesOf replies) (Router.messagesOf others) := by
  induction same with
  | nil => exact .done .nil
  | cons first _ induction =>
      cases first with
      | message first =>
          exact induction.bind fun _ _ rest => .done (.cons first rest)
      | payload payload =>
          apply (SameQuestion.build payload).course.bind
          intro _ _ first
          exact induction.bind fun _ _ rest => .done (.cons first rest)

theorem sameCourse_sendAll (router : Router) (channel : Channel)
    {messages others : List Message}
    (same : List.Forall₂ likeness.SameMessage messages others) :
    likeness.SameCourse Eq (router.sendAll channel messages)
      (router.sendAll channel others) := by
  induction same with
  | nil => exact .done rfl
  | cons first _ induction =>
      apply (SameQuestion.deliverWithin router.timeout channel
        first).course.bind
      rintro taken _ rfl
      cases taken with
      | none => exact .log (.done rfl)
      | some result =>
          cases result with
          | ok value => exact induction
          | error error => exact .done rfl

theorem sameCourse_sendReplies (router : Router) {outcome other : Outcome}
    (same : likeness.SameOutcome outcome other) (address : Option HeaderValue) :
    likeness.SameCourse Eq (router.sendReplies outcome address key)
      (router.sendReplies other address key) := by
  apply (sameCourse_destination key router address).bind
  rintro found _ rfl
  cases found with
  | error error => exact .done rfl
  | ok channel =>
      apply (sameCourse_messagesOf same.parts).bind
      intro messages others alike
      refine .log ((sameCourse_sendAll router channel alike).bind ?_)
      rintro sent _ rfl
      cases sent with
      | error error => exact .done rfl
      | ok value => exact .done (congrArg Except.ok alike.length_eq)

theorem sameCourse_dispatch {outcome other : Outcome}
    (same : likeness.SameOutcome outcome other) (address : Option HeaderValue) :
    likeness.SameCourse Eq (handler.dispatch key outcome address)
      (handler.dispatch key other address) := by
  apply (sameCourse_sendReplies key handler.router same address).bind
  rintro sent _ rfl
  cases sent with
  | error error => exact .log (.done rfl)
  | ok count => exact .log (.done rfl)

theorem sameCourse_removeGroup :
    likeness.SameCourse Eq (Handler.removeGroup ticket key)
      (Handler.removeGroup claimed key) := by
  apply (SameQuestion.remove key).course.bind
  intro removed other told
  cases told with
  | error failure => exact .done rfl
  | ok =>
      exact (SameQuestion.retire ticket claimed).course.bind
        fun _ _ _ => .done rfl

variable {group other : Group} (same : likeness.SameGroup group other)

include same

theorem sameCourse_cleanUp :
    likeness.SameCourse Eq (Handler.cleanUp ticket group)
      (Handler.cleanUp claimed other) := by
  unfold Handler.cleanUp
  rw [same.isComplete, same.sequenceSize, same.key]
  split
  · exact sameCourse_removeGroup ticket claimed _
  · apply (SameQuestion.mark same).course.bind
    intro marked _ told
    cases told with
    | error failure => exact .done rfl
    | ok => exact .done rfl

theorem sameCourse_release (address : Option HeaderValue) :
    likeness.SameCourse Eq (handler.release ticket key group address)
      (handler.release claimed key other address) := by
  apply (SameQuestion.process same).course.bind
  intro outcome _ processed
  apply (sameCourse_cleanUp ticket claimed same).bind
  rintro cleaned _ rfl
  cases processed with
  | error failure => exact .log (.done rfl)
  | ok alike =>
      cases cleaned with
      | error error => exact .done rfl
      | ok value => exact .log (sameCourse_dispatch handler key alike address)

theorem sameCourse_refuse :
    likeness.SameCourse Eq (handler.refuse ticket key group)
      (handler.refuse claimed key other) := by
  unfold Handler.refuse
  rw [same.key, same.unmarked]
  refine .log ((sameCourse_discardAll handler _ _).bind ?_)
  rintro discarded _ rfl
  apply (sameCourse_removeGroup ticket claimed key).bind
  rintro removed _ rfl
  cases Call.firstFailure discarded removed with
  | error error => exact .done rfl
  | ok value => exact .log (.done rfl)

omit same

theorem sameCourse_enroll (message : Message) :
    likeness.SameCourse Eq (handler.enroll ticket key message)
      (handler.enroll claimed key message) := by
  apply (SameQuestion.add key message).course.bind
  intro _ _ added
  cases added with
  | error failure => exact .done rfl
  | ok same =>
      refine (SameQuestion.retain ticket claimed).course.bind
        fun _ _ _ => .log ?_
      apply (SameQuestion.judge same).course.bind
      rintro isReady _ rfl
      rw [same.isComplete]
      split
      · exact sameCourse_release handler ticket claimed key same _
      · split
        · exact sameCourse_refuse handler ticket claimed key same
        · exact .done rfl

theorem sameCourse_receive (message : Message) :
    likeness.SameCourse Eq (handler.receive ticket key message)
      (handler.receive claimed key message) := by
  apply (SameQuestion.load key).course.bind
  intro _ _ loaded
  cases loaded with
  | error failure => exact .done rfl
  | @ok group other same =>
      have going : likeness.SameCourse Eq
          (if group.canAdd message then handler.enroll ticket key message
          else do
            Call.log (.rejected key message)
            handler.discard key message)
          (if other.canAdd message then handler.enroll claimed key message
          else do
            Call.log (.rejected key message)
            handler.discard key message) := by
        rw [same.canAdd]
        split
        · exact sameCourse_enroll handler ticket claimed key message
        · exact .log (sameCourse_discard handler key message)
      dsimp only
      rw [same.isEmpty]
      split
      · exact (SameQuestion.retain ticket claimed).course.bind
          fun _ _ _ => going
      · exact going

theorem sameCourse_releaseExpired (same : likeness.SameGroup group other) :
    likeness.SameCourse Eq (handler.releaseExpired group)
      (handler.releaseExpired other) := by
  apply (SameQuestion.process same).course.bind
  intro _ _ processed
  cases processed with
  | error failure => exact .done rfl
  | ok alike =>
      dsimp only
      rw [same.key, same.first?]
      exact sameCourse_dispatch handler _ alike _

theorem sameCourse_isDue (same : likeness.SameGroup group other) :
    likeness.SameCourse Eq (handler.isDue group) (handler.isDue other) := by
  unfold Handler.isDue
  split
  · exact .done rfl
  · exact (SameQuestion.judge same).course

theorem sameCourse_conclude (same : likeness.SameGroup group other)
    (isReady : Bool) :
    likeness.SameCourse Eq (handler.conclude group isReady)
      (handler.conclude other isReady) := by
  unfold Handler.conclude
  rw [same.key, same.unmarked]
  split
  · exact sameCourse_releaseExpired handler same
  · exact sameCourse_discardAll handler _ _

theorem sameCourse_finish (same : likeness.SameGroup group other) :
    likeness.SameCourse Eq (handler.finish ticket key group)
      (handler.finish claimed key other) := by
  apply (sameCourse_isDue handler same).bind
  rintro isReady _ rfl
  refine .log ((sameCourse_conclude handler same isReady).bind ?_)
  rintro finished _ rfl
  apply (sameCourse_removeGroup ticket claimed key).bind
  rintro removed _ rfl
  cases Call.firstFailure finished removed with
  | error error => exact .done rfl
  | ok value => exact .log (.done rfl)

theorem sameCourse_finishSeen {seen shown : Group}
    (same : likeness.SameGroup seen shown) :
    likeness.SameCourse Eq (handler.finishSeen ticket seen)
      (handler.finishSeen claimed shown) := by
  unfold Handler.finishSeen
  rw [same.key]
  apply (SameQuestion.load _).course.bind
  intro _ _ loaded
  cases loaded with
  | error failure => exact .done rfl
  | @ok group other alike =>
      have generations : group.generation ≠ seen.generation ↔
          other.generation ≠ shown.generation :=
        not_congr
          (Relator.rel_eq likeness.oneToOne alike.generation same.generation)
      dsimp only
      rw [alike.isEmpty]
      split
      · exact .log (.done rfl)
      · apply (SameQuestion.retain ticket claimed).course.bind
        intro _ _ _
        simp only [generations]
        split
        · exact .log (.done rfl)
        · exact sameCourse_finish handler ticket claimed _ alike

end Collate.Interleaving.Likeness
