import Collate.Proofs.Handler.Course

namespace Collate.Interleaving

variable {discipline : Discipline} {handler : Handler} {call : Nat}

theorem attend_bind {α β : Type} (handler : Handler) (program : Call α)
    (next : α → Call β) :
    attend handler (program.bind next) = (attend handler program).bind
      fun value => attend handler (next value) := by
  induction program with
  | done value => rfl
  | ask request rest induction =>
      cases request with
      | notify subscriber group =>
          simp only [Program.bind_ask, attend, Program.bind_assoc]
          exact congrArg _ (funext induction)
      | _ => exact congrArg (Program.ask _) (funext induction)

theorem attend_log_bind {α : Type} (handler : Handler) (event : Log.Event)
    (next : Unit → Call α) :
    attend handler ((Call.log event).bind next) =
      (Call.log event).bind fun answer => attend handler (next answer) := rfl

theorem attend_offerAll_cons (handler : Handler) (failure : Option Error)
    (group : Group) (rest : List Group) (next : Sweep → Call Result) :
    (attend handler (Sweep.offerAll ⟨[System.subscriber], [], failure⟩
      (group :: rest))).bind next = (Call.log (.expiring group)).bind
        fun _ => (handler.forceComplete group).bind fun result =>
          match result with
          | .ok _ =>
              (attend handler (Sweep.offerAll ⟨[System.subscriber], [], failure⟩
                rest)).bind next
          | .error error =>
              (Call.log (.subscriberFailed group.key error)).bind fun _ =>
              (attend handler (Sweep.offerAll ⟨[System.subscriber], [],
                some (failure.getD error)⟩ rest)).bind next := by
  simp only [Sweep.offerAll, Sweep.offer, Program.bind_eq, attend_log_bind,
    Program.bind_assoc, Call.ask, Program.bind_ask, Program.bind_done, attend,
    Handler.onExpiry, Program.pure_eq]
  refine congrArg _ (funext fun _ => congrArg _ (funext fun result => ?_))
  cases result <;> rfl

/-- What it takes for something to hold of a sweep in an environment: questions
without a lock keep it, and it holds at the end of a sweep. -/
structure SweepRules (environment : Environment) (call : Nat)
    (holds : List Event → Call Result → Prop) : Prop where
  aside : ∀ (own : List Event) (request : Engine.Request)
    (next : request.Answer → Call Result),
      IsAside request →
        (∀ store : Store, store.subscribers = [System.subscriber] → ∀ answer,
          answer = ((environment call own.length).answer store request).2 →
            holds (own ++ [⟨call, none, .answered request answer⟩])
              (next answer)) →
        holds own (Program.ask request next)
  swept : ∀ own result, holds own (Program.done (.swept result))

namespace SweepRules

variable {environment : Environment} {holds : List Event → Call Result → Prop}
  (rules : SweepRules environment call holds)
  (finishes : ∀ seen own (rest : Except Error Bool → Call Result),
    (∀ result own, holds own (rest result)) →
      holds own ((handler.forceComplete seen).bind rest))

include rules

theorem log {own : List Event} {event : Log.Event} {next : Unit → Call Result}
    (going : holds (own ++ [⟨call, none, .answered (.log event) ()⟩])
      (next ())) : holds own ((Call.log event).bind next) :=
  rules.aside own (.log event) next trivial fun _ _ _ _ => going

include finishes

theorem offerAll {next : Sweep → Call Result}
    (going : ∀ failure own, holds own (next ⟨[System.subscriber], [], failure⟩))
    (groups : List Group) (failure : Option Error) (own : List Event) :
    holds own ((attend handler (Sweep.offerAll
      ⟨[System.subscriber], [], failure⟩ groups)).bind next) := by
  induction groups generalizing failure own with
  | nil => exact going failure own
  | cons group rest induction =>
      rw [attend_offerAll_cons]
      refine rules.log (finishes _ _ _ fun result own => ?_)
      cases result with
      | ok finished => exact induction failure own
      | error error => exact rules.log (induction _ _)

theorem sweep (timeout : Nat) (own : List Event) :
    holds own ((Invocation.expire timeout).program handler) := by
  refine rules.aside own (.survey timeout) _ trivial
    fun store subscribers survey surveyed => ?_
  have listening : survey.subscribers = [System.subscriber] := by
    rw [surveyed]
    exact subscribers
  simp only [Program.bind_done]
  split
  · exact rules.swept _ _
  · rw [listening, Program.bind_eq, attend_bind, Program.bind_assoc]
    refine rules.offerAll finishes (fun failure own => ?_) survey.groups none _
    cases failure with
    | none => exact rules.swept _ _
    | some error => exact rules.swept _ _

end SweepRules

def Invocation.takesIn : Invocation → Bool
  | .handle _ => true
  | _ => false

theorem Discipline.abides_sweep
    (finishes : ∀ seen own (rest : Except Error Bool → Call Result),
      (∀ result own, discipline.Abides call .outside own (rest result)) →
        discipline.Abides call .outside own ((handler.forceComplete seen).bind
          rest)) (ends : ∀ result own, discipline.ends call own (.swept result))
    (timeout : Nat) (own : List Event) :
    discipline.Abides call .outside own
      ((Invocation.expire timeout).program handler) := by
  have rules : SweepRules discipline.environment call
        (discipline.Abides call .outside) :=
    { aside := fun _ _ _ isAside going => .aside isAside going
      swept := fun _ _ => .done (ends _ _) }
  exact rules.sweep finishes timeout own

theorem Discipline.abides_program (enters : ∀ key, discipline.enters call key)
    (ends : ∀ own result, discipline.ends call own result)
    (invocation : Invocation)
    (receives : ∀ key message, discipline.Restores call key
      fun ticket => handler.receive ticket key message)
    (finishes : invocation.takesIn = false →
      ∀ seen : Group, discipline.Restores call seen.key
        fun ticket => handler.finishSeen ticket seen) :
    discipline.Abides call .outside [] (invocation.program handler) := by
  cases invocation with
  | handle message =>
      cases correlated : handler.correlation message with
      | none =>
          rw [program_handle_none correlated]
          exact abides_log (.done (ends _ _))
      | some key =>
          rw [program_handle_some correlated]
          exact (receives key message).abides (enters key)
            fun result own => .done (ends own _)
  | forceComplete seen =>
      exact (finishes rfl seen).abides (enters seen.key)
        fun result own => .done (ends own _)
  | expire timeout =>
      have completes : ∀ seen own (rest : Except Error Bool → Call Result),
          (∀ result own, discipline.Abides call .outside own (rest result)) →
            discipline.Abides call .outside own
              ((handler.forceComplete seen).bind rest) :=
        fun seen own rest going =>
          (finishes rfl seen).abides (enters seen.key) going
      exact abides_sweep completes (fun _ _ => ends _ _) timeout []

end Collate.Interleaving
