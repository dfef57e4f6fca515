import Collate.Proofs.Interleaving.View

namespace Collate.Interleaving

/-- What is demanded of calls that use a store of a capacity in an
environment. -/
structure Discipline where
  capacity : Nat
  environment : Environment
  enters : Nat → Key → Prop
  allows : Key → List Event → Engine.Request → Prop
  idle : Key → View → Prop
  ends : Nat → List Event → Result → Prop

def IsAside : Engine.Request → Prop
  | .survey _ => True
  | .log _ => True
  | _ => False

def MayRefuse (capacity : Nat) (refusal : Option Error) : Prop :=
  refusal = none ∨ capacity ≠ 0 ∧ refusal = some (.storeFull capacity)

theorem mayRefuse_refusal? (store : Store) :
    MayRefuse store.capacity store.refusal? := by
  by_cases unbounded : store.capacity = 0
  · exact .inl (Store.refusal?_of_unbounded unbounded)
  · unfold Store.refusal?
    split
    · exact .inl rfl
    · exact .inr ⟨unbounded, rfl⟩

theorem MayRefuse.eq_none {refusal : Option Error}
    (mayRefuse : MayRefuse 0 refusal) : refusal = none := by
  rcases mayRefuse with none | ⟨bounded, _⟩
  · exact none
  · exact absurd rfl bounded

/-- A call's visit to a key: all that the call has done, and what there is of
the key. -/
structure Visit where
  own : List Event
  view : View

namespace Visit

def respond (visit : Visit) (circumstances : Circumstances)
    (refusal : Option Error) (call : Nat) (key : Key)
    (request : Engine.Request) : Visit × request.Answer :=
  let (view, answer) :=
    visit.view.respond circumstances refusal call key request
  ({ own := visit.own ++ [⟨call, some key, .answered request answer⟩], view },
    answer)

end Visit

inductive Place where
  | outside
  | inside (key : Key) (ticket : Nat) (view : View)

namespace Discipline

variable (discipline : Discipline) (call : Nat)

/-- A call that has done some things and is at a place keeps to a discipline if
it goes on with a program. -/
inductive Abides : Place → List Event → Call Result → Prop
  | done {own : List Event} {result : Result}
      (ends : discipline.ends call own result) :
      Abides .outside own (Program.done result)
  | lock {own : List Event} {key : Key} {next : Nat → Call Result}
      (enters : discipline.enters call key)
      (entering : ∀ ticket view, discipline.idle key view →
        view.keepsEntry = false →
        (view.events.filter fun event => event.call = call) =
          (own.filter fun event => event.key = some key) →
        Abides (.inside key ticket (view.enter call key)) (own ++ [⟨call,
          none, .asked key⟩] ++ [⟨call, some key, .entered⟩]) (next ticket)) :
      Abides .outside own (Program.ask (.lock key) next)
  | aside {own : List Event} {request : Engine.Request}
      {next : request.Answer → Call Result} (isAside : IsAside request)
      (going : ∀ store : Store, store.subscribers = [System.subscriber] →
        ∀ answer,
          answer =
            ((discipline.environment call own.length).answer store request).2 →
            Abides .outside (own ++ [⟨call, none, .answered request answer⟩])
              (next answer)) : Abides .outside own (Program.ask request next)
  | unlock {own : List Event} {key : Key} {ticket : Nat} {view : View}
      {next : Unit → Call Result}
      (left : discipline.idle key (view.leave call key (result? (next ()))))
      (going : Abides .outside (own ++ [⟨call,
        some key, .left view.keepsEntry (result? (next ()))⟩]) (next ())) :
      Abides (.inside key ticket view) own (Program.ask (.unlock ticket) next)
  | about {own : List Event} {key : Key} {ticket : Nat} {view : View}
      {request : Engine.Request} {next : request.Answer → Call Result}
      (isAbout : IsAbout key ticket request)
      (allowed : discipline.allows key view.events request)
      (going : ∀ refusal, MayRefuse discipline.capacity refusal →
        ∀ visit answer,
          (visit, answer) = Visit.respond ⟨own, view⟩
            (discipline.environment call own.length) refusal call key request →
            Abides (.inside key ticket visit.view) visit.own (next answer)) :
      Abides (.inside key ticket view) own (Program.ask request next)

variable (key : Key) (ticket : Nat) {α β : Type}

def Ensures : Call α → Visit → (α → Visit → Prop) → Prop
  | Program.done value, visit, post => post value visit
  | Program.ask request next, visit, post =>
      IsAbout key ticket request ∧
        discipline.allows key visit.view.events request ∧
        ∀ refusal, MayRefuse discipline.capacity refusal → ∀ after answer,
          (after, answer) = visit.respond (discipline.environment call
            visit.own.length) refusal call key request →
            Ensures (next answer) after post

variable {discipline call key ticket} {visit : Visit} {program : Call α}
  {post weaker : α → Visit → Prop}

theorem Ensures.imp
    (ensures : discipline.Ensures call key ticket program visit post)
    (weaken : ∀ value after, post value after → weaker value after) :
    discipline.Ensures call key ticket program visit weaker := by
  induction program generalizing visit with
  | done value => exact weaken value visit ensures
  | ask request next induction =>
      obtain ⟨isAbout, allowed, going⟩ := ensures
      refine ⟨isAbout, allowed,
        fun refusal mayRefuse after answer responded => ?_⟩
      exact induction answer (going refusal mayRefuse after answer responded)

theorem ensures_bind {next : α → Call β} {post : β → Visit → Prop} :
    discipline.Ensures call key ticket (program.bind next) visit post ↔
      discipline.Ensures call key ticket program visit fun value after =>
        discipline.Ensures call key ticket (next value) after post := by
  induction program generalizing visit with
  | done value => rfl
  | ask request rest induction =>
      simp only [Program.bind_ask, Ensures, induction]

theorem Ensures.next {next : α → Call β} {between : α → Visit → Prop}
    {post : β → Visit → Prop}
    (first : discipline.Ensures call key ticket program visit between)
    (second : ∀ value after, between value after →
      discipline.Ensures call key ticket (next value) after post) :
    discipline.Ensures call key ticket (program.bind next) visit post :=
  ensures_bind.mpr (first.imp second)

/-- A program ensures something, and whenever it may have to wait something
holds of the visit. -/
def Endures (discipline : Discipline) (call : Nat) (key : Key) (ticket : Nat)
    (pause : Visit → Prop) : Call α → Visit → (α → Visit → Prop) → Prop
  | Program.done value, visit, post => post value visit
  | Program.ask request next, visit, post =>
      IsAbout key ticket request ∧
        discipline.allows key visit.view.events request ∧
        (request.mayWait = true → pause visit) ∧
        ∀ refusal, MayRefuse discipline.capacity refusal → ∀ after answer,
          (after, answer) = visit.respond (discipline.environment call
            visit.own.length) refusal call key request →
            Endures discipline call key ticket pause (next answer) after post

theorem Endures.ensures {pause : Visit → Prop}
    (endures : discipline.Endures call key ticket pause program visit post) :
    discipline.Ensures call key ticket program visit post := by
  induction program generalizing visit with
  | done value => exact endures
  | ask request next induction =>
      obtain ⟨isAbout, allowed, -, going⟩ := endures
      refine ⟨isAbout, allowed,
        fun refusal mayRefuse after answer responded => ?_⟩
      exact induction answer (going refusal mayRefuse after answer responded)

theorem Endures.imp {pause : Visit → Prop}
    (endures : discipline.Endures call key ticket pause program visit post)
    (weaken : ∀ value after, post value after → weaker value after) :
    discipline.Endures call key ticket pause program visit weaker := by
  induction program generalizing visit with
  | done value => exact weaken value visit endures
  | ask request next induction =>
      obtain ⟨isAbout, allowed, pauses, going⟩ := endures
      refine ⟨isAbout, allowed, pauses,
        fun refusal mayRefuse after answer responded => ?_⟩
      exact induction answer (going refusal mayRefuse after answer responded)

theorem Endures.next {pause : Visit → Prop} {next : α → Call β}
    {post : β → Visit → Prop} {between : α → Visit → Prop}
    (first : discipline.Endures call key ticket pause program visit between)
    (second : ∀ value after, between value after →
      discipline.Endures call key ticket pause (next value) after post) :
    discipline.Endures call key ticket pause (program.bind next)
      visit post := by
  induction program generalizing visit with
  | done value => exact second value visit first
  | ask request rest induction =>
      obtain ⟨isAbout, allowed, pauses, going⟩ := first
      refine ⟨isAbout, allowed, pauses,
        fun refusal mayRefuse after answer responded => ?_⟩
      exact induction answer (going refusal mayRefuse after answer responded)

theorem Ensures.abides {own : List Event} {view : View} {next : α → Call Result}
    (ensures : discipline.Ensures call key ticket program ⟨own, view⟩
      fun value visit =>
        discipline.Abides call (.inside key ticket visit.view)
          visit.own (next value)) :
    discipline.Abides call (.inside key ticket view) own
      (program.bind next) := by
  induction program generalizing own view with
  | done value => exact ensures
  | ask request rest induction =>
      obtain ⟨isAbout, allowed, going⟩ := ensures
      refine .about isAbout allowed
        fun refusal mayRefuse after answer responded => ?_
      exact induction answer (going refusal mayRefuse after answer responded)

theorem abides_locked {own : List Event} {body : Nat → Call α}
    {next : α → Call Result} (enters : discipline.enters call key)
    (ensures : ∀ ticket view, discipline.idle key view →
      view.keepsEntry = false →
      (view.events.filter fun event => event.call = call) =
        (own.filter fun event => event.key = some key) →
      discipline.Ensures call key ticket (body ticket)
        ⟨own ++ [⟨call, none, .asked key⟩] ++ [⟨call, some key, .entered⟩],
          view.enter call key⟩ fun value visit =>
            discipline.idle key
              (visit.view.leave call key (result? (next value))) ∧
              discipline.Abides call .outside (visit.own ++ [⟨call,
                some key, .left visit.view.keepsEntry (result? (next value))⟩])
                  (next value)) :
    discipline.Abides call .outside own
      ((Handler.locked key body).bind next) := by
  refine .lock enters fun ticket view idle free same => ?_
  simp only [Program.bind_eq, Call.ask, Program.bind_ask, Program.bind_done,
    Program.bind_assoc, Program.pure_eq]
  refine (Ensures.imp (ensures ticket view idle free same) ?_).abides
  rintro value visit ⟨left, going⟩
  exact .unlock left going

/-- A program that has the lock of a key leaves the key idle if it found it
so, whatever its call does next. -/
def Restores (discipline : Discipline) (call : Nat) (key : Key)
    (body : Nat → Call α) : Prop :=
  ∀ ticket own view, discipline.idle key view → view.keepsEntry = false →
    discipline.Ensures call key ticket (body ticket)
      ⟨own, view.enter call key⟩ fun _ after =>
        ∀ result, discipline.idle key (after.view.leave call key result)

theorem Restores.abides {own : List Event} {body : Nat → Call α}
    {next : α → Call Result} (restores : discipline.Restores call key body)
    (enters : discipline.enters call key)
    (going : ∀ value own, discipline.Abides call .outside own (next value)) :
    discipline.Abides call .outside own
      ((Handler.locked key body).bind next) := by
  apply abides_locked enters
  intro ticket view idle unkept _
  refine (restores ticket _ view idle unkept).imp fun value after idle => ?_
  exact ⟨idle _, going value _⟩

theorem abides_log {own : List Event} {event : Log.Event}
    {next : Unit → Call Result}
    (going : discipline.Abides call
      .outside (own ++ [⟨call, none, .answered (.log event) ()⟩]) (next ())) :
    discipline.Abides call .outside own ((Call.log event).bind next) :=
  .aside trivial fun _ _ _ _ => going

end Discipline

end Collate.Interleaving
