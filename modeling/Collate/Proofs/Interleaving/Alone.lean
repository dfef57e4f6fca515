import Collate.Proofs.Handler.Deeds
import Collate.Proofs.Interleaving.Serial

namespace Collate.Interleaving

/-- How far a call has come: its turns, the store, and the groups that it has
given to the processor. -/
structure Progress where
  turn : Nat
  store : Store
  processed : List Group

def handed : Engine.Request → Option Group
  | .process group => some group
  | _ => none

namespace Progress

def respond (progress : Progress) (circumstances : Nat → Circumstances)
    (request : Engine.Request) : Progress × request.Answer :=
  let (store, answer) :=
    (circumstances progress.turn).answer progress.store request
  ({ turn := progress.turn + 1, store, processed :=
       progress.processed ++ (handed request).toList }, answer)

end Progress

/-- When a program that runs alone is at its end, something holds of its value
and of how far it has come. It takes a turn to join the line for a lock and
another to get it. -/
def Alone (circumstances : Nat → Circumstances) {α : Type} :
    Call α → Progress → (α → Progress → Prop) → Prop
  | Program.done value, progress, post => post value progress
  | Program.ask (.lock _) next, progress, post =>
      ∀ ticket, Alone circumstances (next ticket)
        { progress with turn := progress.turn + 2 } post
  | Program.ask request next, progress, post =>
      Alone circumstances (next (progress.respond circumstances request).2)
        (progress.respond circumstances request).1 post

section Rules

variable {circumstances : Nat → Circumstances} {α β : Type} {program : Call α}
  {progress : Progress}

def IsPlain : Engine.Request → Prop
  | .lock _ => False
  | _ => True

theorem alone_ask {request : Engine.Request} {next : request.Answer → Call α}
    {post : α → Progress → Prop} (plain : IsPlain request) :
    Alone circumstances (Program.ask request next) progress post ↔
      Alone circumstances (next (progress.respond circumstances request).2)
        (progress.respond circumstances request).1 post := by
  cases request with
  | lock key => exact plain.elim
  | _ => rfl

theorem Alone.imp {post weaker : α → Progress → Prop}
    (alone : Alone circumstances program progress post)
    (weaken : ∀ value after, post value after → weaker value after) :
    Alone circumstances program progress weaker := by
  induction program generalizing progress with
  | done value => exact weaken value progress alone
  | ask request next induction =>
      cases request with
      | lock key => exact fun ticket => induction ticket (alone ticket)
      | _ => exact induction _ alone

theorem alone_bind {next : α → Call β} {post : β → Progress → Prop} :
    Alone circumstances (program.bind next) progress post ↔
      Alone circumstances program progress fun value after =>
        Alone circumstances (next value) after post := by
  induction program generalizing progress with
  | done value => rfl
  | ask request rest induction =>
      cases request with
      | lock key => exact forall_congr' fun ticket => induction ticket
      | _ => exact induction _

theorem Alone.next {next : α → Call β} {between : α → Progress → Prop}
    {post : β → Progress → Prop}
    (first : Alone circumstances program progress between)
    (second : ∀ value after, between value after →
      Alone circumstances (next value) after post) :
    Alone circumstances (program.bind next) progress post :=
  alone_bind.mpr (first.imp second)

end Rules

variable {discipline : Discipline} {environment : Environment}
  {system : System} {call : Nat}

def System.progress (system : System) (call : Nat) : Progress :=
  { turn := (system.own call).length
    store := system.store
    processed := (system.own call).filterMap Event.processed? }

theorem processed?_answered (call : Nat) (key : Option Key)
    (request : Engine.Request) (answer : request.Answer) :
    Event.processed? ⟨call, key, .answered request answer⟩ =
      handed request := by
  cases request <;> rfl

theorem System.progress_eq {after : System} {event : Event}
    (trace : after.trace = system.trace ++ [event]) :
    after.progress event.call =
      { turn := (system.progress event.call).turn + 1
        store := after.store
        processed := (system.progress event.call).processed ++
          event.processed?.toList } := by
  unfold progress
  rw [own_eq trace, List.length_append, List.filterMap_append]
  cases found : event.processed? <;> simp [found]

theorem System.progress_respond (system : System)
    (circumstances : Nat → Circumstances) (call : Nat) (key : Option Key)
    (request : Engine.Request) (phase : request.Answer → Phase) :
    (system.respond (circumstances (system.own call).length)
      call key request phase).progress call =
      ((system.progress call).respond circumstances request).1 := by
  have trace : (system.respond (circumstances (system.own call).length) call key
      request phase).trace =
        system.trace ++ [⟨call, key, .answered request ((circumstances
          (system.own call).length).answer system.store request).2⟩] := rfl
  refine (progress_eq trace).trans ?_
  rw [processed?_answered]
  rfl

theorem System.progress_enter (system : System) (call : Nat) (key : Key)
    (ticket : Nat) (next : Nat → Call Result) :
    ((system.ask call key next).enter call key ticket next).progress call = {
      system.progress call with turn := (system.progress call).turn + 2 } := by
  set asked := system.ask call key next
  have first : asked.trace = system.trace ++ [⟨call, none, .asked key⟩] := rfl
  have second : (asked.enter call key ticket next).trace =
      asked.trace ++ [⟨call, some key, .entered⟩] := rfl
  have progress := progress_eq first
  refine (progress_eq second).trans ?_
  simp only at progress
  rw [progress]
  simp only [Event.processed?, Option.toList_none, List.append_nil]
  rfl

theorem System.progress_leave (system : System) (call : Nat) (key : Key)
    (ticket : Nat) (rest : Call Result) :
    (system.leave call key ticket rest).progress call = { system.progress
      call with turn := (system.progress call).turn + 1 } := by
  have trace : (system.leave call key ticket rest).trace =
      system.trace ++ [⟨call, some key, .left (system.locks.keepsEntry key)
        (Interleaving.result? rest)⟩] := rfl
  refine (progress_eq trace).trans ?_
  simp only [Event.processed?, Option.toList_none, List.append_nil]
  rfl

theorem System.run_replicate_done {result : Result}
    (phase : system.phase call = .outside (Program.done result)) (turns : Nat) :
    system.run environment (List.replicate turns call) = system := by
  induction turns with
  | zero => rfl
  | succ turns induction =>
      have still : system.advance environment call = system := by
        simp only [System.advance, phase]
      rw [List.replicate_succ, System.run_cons, still, induction]

def System.GoesOn (system : System) (call : Nat)
    (program : Call Result) : Prop :=
  system.phase call = .outside program ∨
    ∃ key ticket, system.phase call = .inside key ticket program

theorem System.eq_done_of_goesOn {program : Call Result} {result : Result}
    (goes : system.GoesOn call program)
    (come : system.result? call = some result) :
    program = Program.done result := by
  have ended := phase_of_result? come
  rcases goes with phase | ⟨key, ticket, phase⟩
  · exact Phase.outside.inj (phase.symm.trans ended)
  · exact absurd (phase.symm.trans ended) (by simp)

namespace Coherent

theorem advance_plain (coherent : Coherent discipline system)
    {request : Engine.Request}
    {next : request.Answer → Call Result} (plain : IsPlain request)
    (goes : system.GoesOn call (Program.ask request next)) :
    (system.advance discipline.environment call).progress call =
      ((system.progress call).respond (discipline.environment call) request).1 ∧
    (system.advance discipline.environment call).GoesOn
      call (next ((system.progress call).respond (discipline.environment call)
        request).2) := by
  rcases goes with phase | ⟨key, ticket, phase⟩
  · have abides := (ready_outside_iff phase).mp (coherent.ready call)
    cases abides with
    | lock => exact plain.elim
    | aside isAside _ =>
        rw [System.advance_aside phase isAside]
        exact ⟨system.progress_respond (discipline.environment call) call none
          request _, .inl (System.phase_go_self _ _ _)⟩
  · have abides := ((ready_inside_iff phase).mp (coherent.ready call)).2.2
    cases abides with
    | unlock left _ =>
        rw [System.advance_leave phase, System.progress_leave]
        refine ⟨?_, .inl (System.phase_go_self _ _ _)⟩
        simp only [Progress.respond, handed, Option.toList_none,
          List.append_nil]
        rfl
    | about isAbout _ _ =>
        rw [System.advance_about phase isAbout]
        exact ⟨system.progress_respond (discipline.environment call) call
          (some key) request _, .inr ⟨key, ticket, System.phase_go_self _ _ _⟩⟩

theorem outside_of_lock (coherent : Coherent discipline system) {key : Key}
    {next : Nat → Call Result}
    (goes : system.GoesOn call (Program.ask (.lock key) next)) :
    system.phase call = .outside (Program.ask (.lock key) next) := by
  rcases goes with phase | ⟨name, ticket, phase⟩
  · exact phase
  · have abides := ((ready_inside_iff phase).mp (coherent.ready call)).2.2
    cases abides with
    | about isAbout _ _ => exact isAbout.elim

theorem of_alone (coherent : Coherent discipline system)
    (others : ∀ other, other ≠ call → (system.phase other).ticket? = none)
    {program : Call Result}
    (goes : system.GoesOn call program) {post : Result → Progress → Prop}
    (alone : Alone (discipline.environment call) program
      (system.progress call) post) {turns : Nat} {result : Result}
    (come : (system.run discipline.environment
      (List.replicate turns call)).result? call = some result) :
    post result ((system.run discipline.environment
      (List.replicate turns call)).progress call) := by
  induction program generalizing system turns with
  | done value =>
      rcases goes with phase | ⟨key, ticket, phase⟩
      · rw [System.run_replicate_done phase] at come ⊢
        rw [System.result?_of_phase phase] at come
        obtain rfl := Option.some.inj come
        exact alone
      · cases ((ready_inside_iff phase).mp (coherent.ready call)).2.2
  | ask request next induction =>
      cases turns with
      | zero => cases System.eq_done_of_goesOn goes come
      | succ turns =>
          rw [List.replicate_succ, System.run_cons] at come ⊢
          by_cases plain : IsPlain request
          · obtain ⟨progress, goesOn⟩ := coherent.advance_plain plain goes
            refine induction _ (coherent.advance call)
              (System.alone_advance others) goesOn ?_ come
            rw [progress]
            exact (alone_ask plain).mp alone
          · cases request with
            | lock key =>
                have phase := coherent.outside_of_lock goes
                cases turns with
                | zero =>
                    have waits : (system.advance discipline.environment
                        call).phase call = _ :=
                      congrArg (System.phase · call) (System.advance_ask phase)
                    rw [System.ask, System.phase_go_self] at waits
                    exact absurd (waits.symm.trans
                      (System.phase_of_result? come)) (by simp)
                | succ turns =>
                    rw [List.replicate_succ, System.run_cons] at come ⊢
                    have twice := coherent.advance_lock_of_alone others phase
                    refine induction (system.locks.join key).2
                      ((coherent.advance call).advance call)
                      (System.alone_advance (System.alone_advance others))
                      (.inr ⟨key, (system.locks.join key).2, ?_⟩) ?_ come
                    · exact (congrArg (System.phase · call) twice).trans
                        (System.phase_go_self _ _ _)
                    · rw [twice, System.progress_enter]
                      exact alone _
            | _ => exact absurd trivial plain

end Coherent

end Collate.Interleaving
