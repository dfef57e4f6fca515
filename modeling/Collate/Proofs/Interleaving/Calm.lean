import Collate.Proofs.Interleaving.Alone

namespace Collate.Interleaving

structure Inquiry where
  request : Engine.Request
  answer : request.Answer

def Inquiry.ofAnswer :
    (request : Engine.Request) → request.Answer → List Inquiry
  | .lock _, _ => []
  | .unlock _, _ => []
  | request, answer => [⟨request, answer⟩]

def Event.inquiry? (event : Event) : Option Inquiry :=
  match event.act with
  | .answered request answer => some ⟨request, answer⟩
  | _ => none

def System.inquiries (system : System) (call : Nat) : List Inquiry :=
  (system.own call).filterMap Event.inquiry?

/-- The store and the locks of its handler while one call is busy, and the turns
of the call. -/
structure Calm where
  turn : Nat
  store : Store
  locks : LockTable

namespace Calm

def answer (circumstances : Nat → Circumstances) :
    (request : Engine.Request) → StateM Calm request.Answer
  | .lock key => fun calm =>
      let (locks, ticket) := calm.locks.join key
      (ticket, { calm with turn := calm.turn + 2, locks := locks.enter ticket })
  | .unlock ticket => fun calm =>
      ((),
        { calm with turn := calm.turn + 1, locks := calm.locks.release ticket })
  | request => fun calm =>
      let (store, answer) := (circumstances calm.turn).answer calm.store request
      (answer,
        { turn := calm.turn + 1, store, locks :=
            System.settle calm.locks request })

variable {α β : Type}

def run (circumstances : Nat → Circumstances) (program : Call α)
    (calm : Calm) : α × Calm :=
  program.runIn (answer circumstances) calm

def inquiries (circumstances : Nat → Circumstances) :
    Call α → Calm → List Inquiry
  | Program.done _, _ => []
  | Program.ask request next, calm =>
      Inquiry.ofAnswer request (answer circumstances request calm).1 ++
        inquiries circumstances (next (answer circumstances request calm).1)
          (answer circumstances request calm).2

variable (circumstances : Nat → Circumstances) (calm : Calm)

theorem run_done (value : α) :
    run circumstances (Program.done value) calm = (value, calm) := rfl

theorem run_ask (request : Engine.Request) (next : request.Answer → Call α) :
    run circumstances (Program.ask request next) calm =
      run circumstances (next (answer circumstances request calm).1)
        (answer circumstances request calm).2 := rfl

theorem run_bind (program : Call α) (next : α → Call β) :
    run circumstances (program.bind next) calm =
      run circumstances (next (run circumstances program calm).1)
        (run circumstances program calm).2 := by
  unfold run
  rw [Program.runIn_bind]
  rfl

theorem inquiries_bind (program : Call α) (next : α → Call β) :
    inquiries circumstances (program.bind next) calm =
      inquiries circumstances program calm ++
        inquiries circumstances (next (run circumstances program calm).1)
          (run circumstances program calm).2 := by
  induction program generalizing calm with
  | done value => rfl
  | ask request rest induction =>
      rw [Program.bind_ask, run_ask, inquiries, inquiries, induction,
        List.append_assoc]

theorem run_locked (key : Key) (body : Nat → Call α) :
    run circumstances (Handler.locked key body) calm =
      ((run circumstances (body (calm.locks.join key).2)
          (answer circumstances (.lock key) calm).2).1,
        (answer circumstances (.unlock (calm.locks.join key).2)
          (run circumstances (body (calm.locks.join key).2)
            (answer circumstances (.lock key) calm).2).2).2) := by
  unfold Handler.locked
  simp only [Program.bind_eq, Call.ask, Program.bind_ask, Program.bind_done]
  rw [run_ask, run_bind]
  rfl

theorem inquiries_locked (key : Key) (body : Nat → Call α) :
    inquiries circumstances (Handler.locked key body) calm =
      inquiries circumstances (body (calm.locks.join key).2)
        (answer circumstances (.lock key) calm).2 := by
  unfold Handler.locked
  simp only [Program.bind_eq, Call.ask, Program.bind_ask, Program.bind_done]
  rw [inquiries, inquiries_bind]
  exact List.append_nil _

theorem kind_of_mem_inquiries {kind : Engine.Request → Prop} {program : Call α}
    (asks : Asks kind program) :
    ∀ inquiry ∈ inquiries circumstances program calm, kind inquiry.request := by
  induction program generalizing calm with
  | done value => exact fun inquiry member => absurd member List.not_mem_nil
  | ask request next induction =>
      intro inquiry member
      rcases List.mem_append.mp member with now | later
      · cases request <;> first
          | exact absurd now List.not_mem_nil
          | exact List.mem_singleton.mp now ▸ asks.1
      · exact induction _ _ (asks.2 _) inquiry later

theorem answer_of_isAbout {key : Key} {ticket : Nat} {request : Engine.Request}
    (isAbout : IsAbout key ticket request) :
    answer circumstances request calm =
      (((circumstances calm.turn).answer calm.store request).2,
        { turn := calm.turn + 1
          store := ((circumstances calm.turn).answer calm.store request).1
          locks := System.settle calm.locks request }) := by
  cases request <;> first | rfl | exact isAbout.elim

theorem answer_of_isAside {request : Engine.Request}
    (isAside : IsAside request) :
    answer circumstances request calm =
      (((circumstances calm.turn).answer calm.store request).2,
        { turn := calm.turn + 1
          store := ((circumstances calm.turn).answer calm.store request).1
          locks := System.settle calm.locks request }) := by
  cases request <;> first | rfl | exact isAside.elim

theorem answer_of_isPlain {request : Engine.Request} (plain : IsPlain request) :
    (answer circumstances request calm).1 =
        ((circumstances calm.turn).answer calm.store request).2 ∧
      (answer circumstances request calm).2.turn = calm.turn + 1 ∧
      (answer circumstances request calm).2.store =
        ((circumstances calm.turn).answer calm.store request).1 := by
  cases request <;> first | exact ⟨rfl, rfl, rfl⟩ | exact plain.elim

theorem of_alone {circumstances : Nat → Circumstances} {program : Call α}
    {calm : Calm} {processed : List Group} {post : α → Progress → Prop}
    (alone :
      Alone circumstances program ⟨calm.turn, calm.store, processed⟩ post) :
    ∃ processed, post (run circumstances program calm).1
      ⟨(run circumstances program calm).2.turn,
        (run circumstances program calm).2.store, processed⟩ := by
  induction program generalizing calm processed with
  | done value => exact ⟨processed, alone⟩
  | ask request next induction =>
      by_cases plain : IsPlain request
      · obtain ⟨value, turn, store⟩ :=
          answer_of_isPlain circumstances calm plain
        have given := (alone_ask plain).mp alone
        simp only [Progress.respond] at given
        rw [← value, ← turn, ← store] at given
        exact induction _ given
      · cases request with
        | lock key =>
            rw [run_ask]
            exact induction _ (alone (calm.locks.join key).2)
        | _ => exact absurd trivial plain

end Calm

theorem Inquiry.ofAnswer_of_isAbout {key : Key} {ticket : Nat}
    {request : Engine.Request}
    (isAbout : IsAbout key ticket request) (answer : request.Answer) :
    ofAnswer request answer = [⟨request, answer⟩] := by
  cases request <;> first | rfl | exact isAbout.elim

theorem Inquiry.ofAnswer_of_isAside {request : Engine.Request}
    (isAside : IsAside request) (answer : request.Answer) :
    ofAnswer request answer = [⟨request, answer⟩] := by
  cases request <;> first | rfl | exact isAside.elim

variable {discipline : Discipline} {system : System} {call : Nat}

def System.calm (system : System) (call : Nat) : Calm :=
  { turn := (system.own call).length, store := system.store,
    locks := system.locks }

theorem System.calm_eq {after : System} {event : Event}
    (trace : after.trace = system.trace ++ [event]) (mine : event.call = call) :
    after.calm call =
      { turn := (system.own call).length + 1, store := after.store, locks :=
          after.locks } := by
  subst mine
  rw [calm, own_eq trace, List.length_append]
  rfl

theorem System.inquiries_eq {after : System} {event : Event}
    {told : List Inquiry} (trace : after.trace = system.trace ++ [event])
    (mine : event.call = call) (tells : event.inquiry?.toList = told) :
    after.inquiries call = system.inquiries call ++ told := by
  subst mine tells
  unfold inquiries
  rw [own_eq trace, List.filterMap_append]
  cases found : event.inquiry? <;> simp [found]

namespace Coherent

theorem calm_advance (coherent : Coherent discipline system)
    {request : Engine.Request}
    {next : request.Answer → Call Result} (plain : IsPlain request)
    (goes : system.GoesOn call (Program.ask request next)) :
    (system.advance discipline.environment call).calm call =
      (Calm.answer (discipline.environment call) request (system.calm call)).2 ∧
    (system.advance discipline.environment call).inquiries call =
      system.inquiries call ++ Inquiry.ofAnswer request (Calm.answer
        (discipline.environment call) request (system.calm call)).1 ∧
    (system.advance discipline.environment call).GoesOn call (next (Calm.answer
      (discipline.environment call) request (system.calm call)).1) := by
  rcases goes with phase | ⟨key, ticket, phase⟩
  · have abides := (ready_outside_iff phase).mp (coherent.ready call)
    cases abides with
    | lock => exact plain.elim
    | aside isAside _ =>
        rw [System.advance_aside phase isAside, Calm.answer_of_isAside _ _
          isAside, Inquiry.ofAnswer_of_isAside isAside]
        exact ⟨System.calm_eq rfl rfl, System.inquiries_eq rfl rfl rfl,
          .inl (System.phase_go_self _ _ _)⟩
  · have abides := ((ready_inside_iff phase).mp (coherent.ready call)).2.2
    cases abides with
    | unlock left _ =>
        rw [System.advance_leave phase]
        exact ⟨System.calm_eq rfl rfl, System.inquiries_eq rfl rfl rfl,
          .inl (System.phase_go_self _ _ _)⟩
    | about isAbout _ _ =>
        rw [System.advance_about phase isAbout, Calm.answer_of_isAbout _ _
          isAbout, Inquiry.ofAnswer_of_isAbout isAbout]
        exact ⟨System.calm_eq rfl rfl, System.inquiries_eq rfl rfl rfl,
          .inr ⟨key, ticket, System.phase_go_self _ _ _⟩⟩

theorem calm_entered (system : System) (call : Nat) (key : Key)
    (next : Nat → Call Result) (circumstances : Nat → Circumstances) :
    ((system.ask call key next).enter
      call key (system.locks.join key).2 next).calm call =
      (Calm.answer circumstances (.lock key) (system.calm call)).2 ∧
    ((system.ask call key next).enter call key (system.locks.join key).2
      next).inquiries call =
        system.inquiries call := by
  set asked := system.ask call key next
  have first : asked.trace = system.trace ++ [⟨call, none, .asked key⟩] := rfl
  have second : (asked.enter call key (system.locks.join key).2 next).trace =
      asked.trace ++ [⟨call, some key, .entered⟩] := rfl
  have turns : (asked.own call).length = (system.own call).length + 1 :=
    congrArg Calm.turn (System.calm_eq first rfl)
  constructor
  · rw [System.calm_eq second rfl, turns]
    rfl
  · rw [System.inquiries_eq second rfl rfl, System.inquiries_eq first rfl rfl]
    exact (List.append_nil _).trans (List.append_nil _)

theorem run_calm (coherent : Coherent discipline system)
    (others : ∀ other, other ≠ call → (system.phase other).ticket? = none)
    {program : Call Result} (goes : system.GoesOn call program) :
    ∃ turns, (system.run discipline.environment
      (List.replicate turns call)).phase call = .outside (Program.done
        (Calm.run (discipline.environment call) program (system.calm call)).1) ∧
      (system.run discipline.environment (List.replicate turns call)).calm
        call =
      (Calm.run (discipline.environment call) program (system.calm call)).2 ∧
      (system.run discipline.environment (List.replicate turns call)).inquiries
        call = system.inquiries call ++ Calm.inquiries
          (discipline.environment call) program (system.calm call) := by
  induction program generalizing system with
  | done value =>
      rcases goes with phase | ⟨key, ticket, phase⟩
      · exact ⟨0, phase, rfl, (List.append_nil _).symm⟩
      · cases ((ready_inside_iff phase).mp (coherent.ready call)).2.2
  | ask request next induction =>
      rw [Calm.run_ask, Calm.inquiries]
      by_cases plain : IsPlain request
      · obtain ⟨calm, told, goesOn⟩ := coherent.calm_advance plain goes
        obtain ⟨turns, phase, ended, inquired⟩ := induction _
            (coherent.advance call) (System.alone_advance others) goesOn
        rw [calm] at phase ended inquired
        rw [told, List.append_assoc] at inquired
        exact ⟨turns + 1, phase, ended, inquired⟩
      · cases request with
        | lock key =>
            have phase := coherent.outside_of_lock goes
            have twice := coherent.advance_lock_of_alone others phase
            have goesOn : ((system.advance discipline.environment call).advance
                discipline.environment call).GoesOn call
                  (next (system.locks.join key).2) := by
              rw [twice]
              exact .inr ⟨key, _, System.phase_go_self _ _ _⟩
            obtain ⟨turns, phase, ended, inquired⟩ := induction _
              ((coherent.advance call).advance call)
              (System.alone_advance (System.alone_advance others)) goesOn
            have entered :=
              calm_entered system call key next (discipline.environment call)
            rw [← twice] at entered
            rw [entered.1] at phase ended inquired
            rw [entered.2] at inquired
            exact ⟨turns + 2, phase, ended, inquired⟩
        | _ => exact absurd trivial plain

end Coherent

end Collate.Interleaving
