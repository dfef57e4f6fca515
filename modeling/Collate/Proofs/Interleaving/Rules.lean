import Collate.Proofs.Interleaving.Serial

namespace Collate.Interleaving

structure Tenure where
  own : List Event
  stored : Option Group

namespace Tenure

def respond (tenure : Tenure) (circumstances : Circumstances)
    (refusal : Option Error) (call : Nat) (key : Key)
    (request : Engine.Request) : Tenure × request.Answer :=
  let (stored, answer) := circumstances.shelve refusal tenure.stored request
  ({ own := tenure.own ++ [⟨call, some key, .answered request answer⟩],
     stored }, answer)

theorem of_respond {tenure after : Tenure} {circumstances : Circumstances}
    {refusal : Option Error} {call : Nat} {key : Key}
    {request : Engine.Request} {answer : request.Answer}
    (responded :
      (after, answer) = tenure.respond circumstances refusal call key request) :
    after.own = tenure.own ++ [⟨call, some key, .answered request answer⟩] ∧
    after.stored = (circumstances.shelve refusal tenure.stored request).1 ∧
    answer = (circumstances.shelve refusal tenure.stored request).2 := by
  obtain ⟨rfl, rfl⟩ := Prod.mk.inj responded
  exact ⟨rfl, rfl, rfl⟩

theorem respond_of_isAbout {store : Store} {circumstances : Circumstances}
    {own : List Event} {call ticket : Nat} {key : Key}
    {request : Engine.Request} (isAbout : IsAbout key ticket request) :
    ((⟨own ++ [⟨call, some key, .answered request (circumstances.answer store
      request).2⟩], (circumstances.answer store request).1.get? key⟩ : Tenure),
      (circumstances.answer store request).2) = respond ⟨own, store.get? key⟩
        circumstances store.refusal? call key request := by
  obtain ⟨sameAnswer, sameGroup⟩ :=
    answer_of_isAbout circumstances store isAbout
  rw [sameAnswer, sameGroup]
  rfl

end Tenure

/-- What a call may ask under the lock of a key, when it may give the lock back,
and what it may come to after all that it has done. -/
structure Rules where
  asks : Key → Tenure → Engine.Request → Prop
  leaves : Tenure → Prop
  ends : List Event → Result → Prop

inductive Spot where
  | outside (own : List Event)
  | inside (key : Key) (ticket : Nat) (tenure : Tenure)

namespace Rules

variable (rules : Rules) (call : Nat)

/-- A call at a spot heeds rules if it goes on with a program, over a store that
does its work. -/
inductive Heeds : Spot → Call Result → Prop
  | done {own : List Event} {result : Result} (ends : rules.ends own result) :
      Heeds (.outside own) (Program.done result)
  | lock {own : List Event} {key : Key} {next : Nat → Call Result}
      (entering : ∀ ticket stored, Heeds (.inside key ticket ⟨own ++
        [⟨call, none, .asked key⟩] ++ [⟨call, some key, .entered⟩], stored⟩)
        (next ticket)) : Heeds (.outside own) (Program.ask (.lock key) next)
  | aside {own : List Event} {request : Engine.Request}
      {next : request.Answer → Call Result} (isAside : IsAside request)
      (going : ∀ (circumstances : Circumstances) store,
        store.subscribers = [System.subscriber] →
          ∀ answer, answer = (circumstances.answer store request).2 →
            Heeds (.outside (own ++ [⟨call, none, .answered request answer⟩]))
              (next answer)) : Heeds (.outside own) (Program.ask request next)
  | unlock {key : Key} {ticket : Nat} {tenure : Tenure}
      {next : Unit → Call Result} (leaves : rules.leaves tenure)
      (going : ∀ keepsEntry, Heeds (.outside (tenure.own ++
        [⟨call, some key, .left keepsEntry (result? (next ()))⟩])) (next ())) :
      Heeds (.inside key ticket tenure) (Program.ask (.unlock ticket) next)
  | about {key : Key} {ticket : Nat} {tenure : Tenure}
      {request : Engine.Request} {next : request.Answer → Call Result}
      (isAbout : IsAbout key ticket request)
      (allowed : rules.asks key tenure request)
      (going : ∀ circumstances refusal, circumstances.fault = none →
        ∀ after answer,
          (after, answer) =
            tenure.respond circumstances refusal call key request →
            Heeds (.inside key ticket after) (next answer)) :
      Heeds (.inside key ticket tenure) (Program.ask request next)

variable (key : Key) (ticket : Nat) {α β : Type}

/-- A program that runs under the lock of a key asks only what the rules allow,
and when it is at its end, something holds of its value and of what it has
done. -/
def Minds : Call α → Tenure → (α → Tenure → Prop) → Prop
  | Program.done value, tenure, post => post value tenure
  | Program.ask request next, tenure, post =>
      IsAbout key ticket request ∧ rules.asks key tenure request ∧
        ∀ circumstances refusal, circumstances.fault = none → ∀ after answer,
          (after, answer) =
            tenure.respond circumstances refusal call key request →
            Minds (next answer) after post

variable {rules call key ticket} {tenure : Tenure} {program : Call α}

theorem Minds.imp {post weaker : α → Tenure → Prop}
    (minds : rules.Minds call key ticket program tenure post)
    (weaken : ∀ value after, post value after → weaker value after) :
    rules.Minds call key ticket program tenure weaker := by
  induction program generalizing tenure with
  | done value => exact weaken value tenure minds
  | ask request next induction =>
      obtain ⟨isAbout, allowed, going⟩ := minds
      refine ⟨isAbout, allowed,
        fun circumstances refusal works after answer responded => ?_⟩
      exact induction answer
        (going circumstances refusal works after answer responded)

theorem Minds.next {next : α → Call β} {between : α → Tenure → Prop}
    {post : β → Tenure → Prop}
    (first : rules.Minds call key ticket program tenure between)
    (second : ∀ value after, between value after →
      rules.Minds call key ticket (next value) after post) :
    rules.Minds call key ticket (program.bind next) tenure post := by
  induction program generalizing tenure with
  | done value => exact second value tenure first
  | ask request rest induction =>
      obtain ⟨isAbout, allowed, going⟩ := first
      refine ⟨isAbout, allowed,
        fun circumstances refusal works after answer responded => ?_⟩
      exact induction answer
        (going circumstances refusal works after answer responded)

theorem Minds.heeds {next : α → Call Result}
    (minds : rules.Minds call key ticket program tenure fun value after =>
      rules.Heeds call (.inside key ticket after) (next value)) :
    rules.Heeds call (.inside key ticket tenure) (program.bind next) := by
  induction program generalizing tenure with
  | done value => exact minds
  | ask request rest induction =>
      obtain ⟨isAbout, allowed, going⟩ := minds
      refine .about isAbout allowed
        fun circumstances refusal works after answer responded => ?_
      exact induction answer
        (going circumstances refusal works after answer responded)

theorem heeds_locked {own : List Event} {body : Nat → Call α}
    {next : α → Call Result}
    (minds : ∀ ticket stored, rules.Minds call key ticket (body ticket) ⟨own ++
      [⟨call, none, .asked key⟩] ++ [⟨call, some key, .entered⟩], stored⟩
      fun value after => rules.leaves after ∧
        ∀ keepsEntry, rules.Heeds call (.outside (after.own ++ [⟨call,
          some key, .left keepsEntry (result? (next value))⟩])) (next value)) :
    rules.Heeds call (.outside own) ((Handler.locked key body).bind next) := by
  refine .lock fun ticket stored => ?_
  simp only [Program.bind_eq, Call.ask, Program.bind_ask, Program.bind_done,
    Program.bind_assoc, Program.pure_eq]
  refine ((minds ticket stored).imp ?_).heeds
  rintro value after ⟨leaves, going⟩
  exact .unlock leaves going

theorem heeds_log {own : List Event} {event : Log.Event}
    {next : Unit → Call Result}
    (going : rules.Heeds call
      (.outside (own ++ [⟨call, none, .answered (.log event) ()⟩])) (next ())) :
    rules.Heeds call (.outside own) ((Call.log event).bind next) :=
  .aside trivial fun _ _ _ _ _ => going

end Rules

def Obeys (rules : Rules) (system : System) (call : Nat) : Prop :=
  match system.phase call with
  | .outside rest => rules.Heeds call (.outside (system.own call)) rest
  | .waiting key ticket next =>
      ∀ stored, rules.Heeds call (.inside key ticket
        ⟨system.own call ++ [⟨call, some key, .entered⟩], stored⟩) (next ticket)
  | .inside key ticket rest =>
      rules.Heeds call
        (.inside key ticket ⟨system.own call, system.store.get? key⟩) rest

variable {rules : Rules} {discipline : Discipline} {environment : Environment}
  {system : System} {call other : Nat} {key : Key} {ticket : Nat}

theorem obeys_outside_iff {rest : Call Result}
    (phase : system.phase call = .outside rest) :
    Obeys rules system call ↔
    rules.Heeds call (.outside (system.own call)) rest := by
  simp only [Obeys, phase]

theorem obeys_waiting_iff {next : Nat → Call Result}
    (phase : system.phase call = .waiting key ticket next) :
    Obeys rules system call ↔
    ∀ stored, rules.Heeds call (.inside key ticket ⟨system.own call ++
      [⟨call, some key, .entered⟩], stored⟩) (next ticket) := by
  simp only [Obeys, phase]

theorem obeys_inside_iff {rest : Call Result}
    (phase : system.phase call = .inside key ticket rest) :
    Obeys rules system call ↔
    rules.Heeds call
      (.inside key ticket ⟨system.own call, system.store.get? key⟩) rest := by
  simp only [Obeys, phase]

namespace System

theorem own_advance_of_ne (different : other ≠ call) :
    (advance environment system other).own call = system.own call := by
  have absent : call ∉ [other] := by simpa using Ne.symm different
  exact own_run_of_not_mem absent

end System

namespace Coherent

theorem get?_advance_of_apart (coherent : Coherent discipline system)
    (apart : ∀ claimed rest, system.phase other ≠ .inside key claimed rest) :
    (system.advance discipline.environment other).store.get? key =
      system.store.get? key := by
  cases phase : system.phase other with
  | outside rest =>
      have abides := (ready_outside_iff phase).mp (coherent.ready other)
      cases abides with
      | done ends => simp only [System.advance, phase]
      | lock enters entering =>
          rw [System.advance_ask phase]
          rfl
      | aside isAside going =>
          rw [System.advance_aside phase isAside, System.respond_eq,
            answer_of_isAside isAside]
          rfl
  | waiting name claimed next =>
      rw [System.advance_waiting phase]
      split <;> rfl
  | inside name claimed rest =>
      have different : key ≠ name := by
        rintro rfl
        exact apart claimed rest phase
      have abides := ((ready_inside_iff phase).mp (coherent.ready other)).2.2
      cases abides with
      | unlock left going =>
          rw [System.advance_leave phase]
          rfl
      | about isAbout allowed going =>
          rw [System.advance_about phase isAbout]
          exact get?_answer_of_ne isAbout different

theorem get?_advance_of_inside (coherent : Coherent discipline system)
    {rest : Call Result} (phase : system.phase call = .inside key ticket rest)
    (different : other ≠ call) :
    (system.advance discipline.environment other).store.get? key =
      system.store.get? key :=
  coherent.get?_advance_of_apart fun _ _ inside =>
    different (coherent.alone_of_inside phase inside)

theorem obeys_advance_of_ne (coherent : Coherent discipline system)
    (obeys : Obeys rules system call) (different : other ≠ call) :
    Obeys rules (system.advance discipline.environment other) call := by
  have phase : (system.advance discipline.environment other).phase call =
        system.phase call :=
    System.phase_advance_of_ne (Ne.symm different)
  have own : (system.advance discipline.environment other).own call =
        system.own call :=
    System.own_advance_of_ne different
  cases was : system.phase call with
  | outside rest =>
      rw [obeys_outside_iff (phase.trans was), own]
      exact (obeys_outside_iff was).mp obeys
  | waiting key ticket next =>
      rw [obeys_waiting_iff (phase.trans was), own]
      exact (obeys_waiting_iff was).mp obeys
  | inside key ticket rest =>
      rw [obeys_inside_iff (phase.trans was), own,
        coherent.get?_advance_of_inside was different]
      exact (obeys_inside_iff was).mp obeys

variable (works : ∀ call turn, (discipline.environment call turn).fault = none)

include works

theorem obeys_advance (coherent : Coherent discipline system)
    (obeys : Obeys rules system call) (other : Nat) :
    Obeys rules (system.advance discipline.environment other) call := by
  by_cases different : other ≠ call
  · exact coherent.obeys_advance_of_ne obeys different
  obtain rfl : other = call := not_not.mp different
  cases phase : system.phase other with
  | outside rest =>
      have heeds := (obeys_outside_iff phase).mp obeys
      cases heeds with
      | done ends => simpa only [System.advance, phase] using obeys
      | @lock _ key next entering =>
          rw [System.advance_ask phase]
          refine (obeys_waiting_iff (System.phase_go_self _ _ _)).mpr
            fun stored => ?_
          rw [System.own_go]
          exact entering _ stored
      | aside isAside going =>
          rw [System.advance_aside phase isAside, System.respond_eq]
          refine (obeys_outside_iff (System.phase_go_self _ _ _)).mpr ?_
          rw [System.own_go]
          exact going _ system.store coherent.subscribers _ rfl
  | waiting key ticket next =>
      rw [System.advance_waiting phase]
      split
      · have entering := (obeys_waiting_iff phase).mp obeys
        refine (obeys_inside_iff (System.phase_go_self _ _ _)).mpr ?_
        rw [System.own_go]
        exact entering (system.store.get? key)
      · exact obeys
  | inside key ticket rest =>
      have heeds := (obeys_inside_iff phase).mp obeys
      cases heeds with
      | @unlock _ _ _ next leaves going =>
          rw [System.advance_leave phase]
          refine (obeys_outside_iff (System.phase_go_self _ _ _)).mpr ?_
          rw [System.own_go]
          exact going _
      | @about _ _ _ request next isAbout allowed going =>
          rw [System.advance_about phase isAbout, System.respond_eq]
          refine (obeys_inside_iff (System.phase_go_self _ _ _)).mpr ?_
          rw [System.own_go]
          refine going _ system.store.refusal?
            (works other (system.own other).length) _ _ ?_
          exact Tenure.respond_of_isAbout isAbout

theorem obeys_run (coherent : Coherent discipline system)
    (obeys : Obeys rules system call) (schedule : List Nat) :
    Obeys rules (system.run discipline.environment schedule) call := by
  induction schedule generalizing system with
  | nil => exact obeys
  | cons first rest induction =>
      exact induction (coherent.advance first)
        (coherent.obeys_advance works obeys first)

end Coherent

theorem obeys_start {capacity : Nat} {program : Nat → Call Result}
    (heeds : rules.Heeds call (.outside []) (program call)) :
    Obeys rules (System.start capacity program) call :=
  (obeys_outside_iff rfl).mpr heeds

end Collate.Interleaving
