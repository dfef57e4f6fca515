import Collate.Proofs.Interleaving.Rules

namespace Collate.Interleaving

/-! To be cut off is to go on with a shorter program, one that gives the lock
back instead of asking. -/

def cutOff : Result := .handled (.error (.internal "cut off"))

/-- What happens: a call has a turn, or is cut off if it may have to wait. -/
inductive Move where
  | turn (call : Nat)
  | drop (call : Nat)

def Move.call : Move → Nat
  | .turn call => call
  | .drop call => call

namespace System

def drop (system : System) (call : Nat) : System :=
  match system.phase call with
  | .inside key ticket (Program.ask request _) =>
      if request.mayWait then system.leave call key ticket (Program.done cutOff)
      else system
  | _ => system

def move (environment : Environment) (system : System) : Move → System
  | .turn call => system.advance environment call
  | .drop call => system.drop call

def undergo (environment : Environment) (system : System)
    (moves : List Move) : System :=
  moves.foldl (move environment) system

end System

variable {environment : Environment} {discipline : Discipline} {system : System}
  {call ticket : Nat} {key : Key}

namespace System

theorem drop_cases (system : System) (call : Nat) :
    system.drop call = system ∨ ∃ key ticket, system.drop call =
      system.leave call key ticket (Program.done cutOff) := by
  unfold drop
  split
  · split
    · exact .inr ⟨_, _, rfl⟩
    · exact .inl rfl
  · exact .inl rfl

theorem store_drop (system : System) (call : Nat) :
    (system.drop call).store = system.store := by
  rcases system.drop_cases call with same | ⟨key, ticket, left⟩
  · rw [same]
  · rw [left]
    rfl

theorem phase_move_of_ne {move : Move} (different : call ≠ move.call) :
    (system.move environment move).phase call = system.phase call := by
  cases move with
  | turn other => exact phase_advance_of_ne different
  | drop other =>
      rcases system.drop_cases other with same | ⟨key, ticket, left⟩
      · exact congrArg (fun system => system.phase call) same
      · rw [move, left]
        exact phase_go_of_ne _ _ different

theorem phase_undergo_of_not_mem {moves : List Move}
    (absent : call ∉ moves.map Move.call) :
    (system.undergo environment moves).phase call = system.phase call := by
  induction moves generalizing system with
  | nil => rfl
  | cons first rest induction =>
      rw [List.map_cons, List.mem_cons, not_or] at absent
      exact (induction absent.2).trans (phase_move_of_ne absent.1)

theorem trace_move (system : System) (move : Move) :
    system.trace <+: (system.move environment move).trace := by
  cases move with
  | turn other =>
      obtain ⟨new, trace, -⟩ := trace_advance environment system other
      exact ⟨new, trace.symm⟩
  | drop other =>
      show system.trace <+: (system.drop other).trace
      rcases system.drop_cases other with same | ⟨key, ticket, left⟩
      · exact ⟨[], by rw [same, List.append_nil]⟩
      · exact ⟨_, (congrArg System.trace left).symm⟩

theorem trace_undergo (system : System) (moves : List Move) :
    system.trace <+: (system.undergo environment moves).trace := by
  induction moves generalizing system with
  | nil => exact List.prefix_refl _
  | cons first rest induction =>
      exact (system.trace_move first).trans (induction _)

end System

def heldAfter (held : Option Nat) :
    (request : Engine.Request) → request.Answer → Option Nat
  | .lock _, ticket => some (held.getD ticket)
  | .unlock _, _ => none
  | _, _ => held

def givesBack (held : Option Nat) (count : Nat) (request : Engine.Request) :
    Option Nat :=
  if count = 0 ∧ request.mayWait then held else none

/-- A program of a call that may have a lock, cut off where it may have to wait
under a lock after some more answers. -/
def truncate : Option Nat → Nat → Call Result → Call Result
  | _, _, Program.done result => .done result
  | held, count, Program.ask request next =>
      match givesBack held count request with
      | some ticket => Program.ask (.unlock ticket) fun _ => Program.done cutOff
      | none => Program.ask request fun answer =>
          truncate (heldAfter held request answer) (count - 1) (next answer)

def Phase.truncate (count : Nat) : Phase → Phase
  | .outside rest => .outside (Interleaving.truncate none count rest)
  | .waiting key ticket next =>
      .waiting key ticket
        fun given => Interleaving.truncate (some given) count (next given)
  | .inside key ticket rest =>
      .inside key ticket (Interleaving.truncate (some ticket) count rest)

def System.truncate (counts : Nat → Nat) (system : System) : System :=
  { system with
    phase := fun call => (system.phase call).truncate (counts call) }

theorem truncate_ask {held : Option Nat} {count : Nat}
    {request : Engine.Request} (goesOn : givesBack held count request = none)
    (next : request.Answer → Call Result) :
    truncate held count (Program.ask request next) =
      Program.ask request fun answer =>
        truncate (heldAfter held request answer) (count - 1) (next answer) := by
  rw [truncate, goesOn]

theorem givesBack_none (count : Nat) (request : Engine.Request) :
    givesBack none count request = none := ite_self _

theorem givesBack_succ (held : Option Nat) (count : Nat)
    (request : Engine.Request) : givesBack held (count + 1) request = none :=
  if_neg fun both => Nat.succ_ne_zero _ both.1

theorem result?_truncate (count : Nat) (program : Call Result) :
    result? (truncate none count program) = result? program := by
  cases program with
  | done result => rfl
  | ask request next => rw [truncate_ask (givesBack_none count request)]; rfl

theorem Phase.of_truncate_inside {phase : Phase} {count : Nat}
    {rest : Call Result}
    (inside : phase.truncate count = .inside key ticket rest) :
    ∃ whole, phase = .inside key ticket whole := by
  cases phase with
  | outside whole => simp [Phase.truncate] at inside
  | waiting name claimed next => simp [Phase.truncate] at inside
  | inside name claimed whole =>
      obtain ⟨rfl, rfl, -⟩ := Phase.inside.inj inside
      exact ⟨whole, rfl⟩

namespace System

theorem truncate_go {counts earlier : Nat → Nat} {event : Event} (phase : Phase)
    (others : ∀ other, other ≠ event.call → earlier other = counts other) :
    (system.go event phase).truncate counts = (system.truncate earlier).go event
      (phase.truncate (counts event.call)) := by
  unfold truncate go
  congr 1
  funext other
  by_cases same : other = event.call
  · simp [same]
  · simp [same, others other same]

theorem phase_truncate (system : System) (counts : Nat → Nat) (call : Nat) :
    (system.truncate counts).phase call =
      (system.phase call).truncate (counts call) := rfl

def grant (counts : Nat → Nat) (call : Nat) : Nat → Nat :=
  fun other => if other = call then counts other + 1 else counts other

theorem grant_of_ne (counts : Nat → Nat) {other : Nat}
    (different : other ≠ call) : grant counts call other = counts other :=
  if_neg different

theorem advance_outside {request : Engine.Request}
    {next : request.Answer → Call Result}
    (phase : system.phase call = .outside (Program.ask request next))
    (unlocked : ∀ key, request ≠ .lock key) :
    advance environment system call = system.respond (environment call
      (system.own call).length) call none request fun answer =>
        .outside (next answer) := by
  cases request with
  | lock key => exact absurd rfl (unlocked key)
  | _ => simp only [advance, phase]

theorem advance_inside {request : Engine.Request}
    {next : request.Answer → Call Result}
    (phase : system.phase call = .inside key ticket (Program.ask request next))
    (locked : ∀ given, request ≠ .unlock given) :
    advance environment system call =
      system.respond (environment call (system.own call).length) call (some key)
        request fun answer => .inside key ticket (next answer) := by
  cases request with
  | unlock given => exact absurd rfl (locked given)
  | _ => simp only [advance, phase]

inductive Turns (environment : Environment) (system : System) (call : Nat) :
    System → Prop where
  | stays : Turns environment system call system
  | asks {key : Key} {next : Nat → Call Result}
      (phase : system.phase call = .outside (Program.ask (.lock key) next)) :
      Turns environment system call (system.ask call key next)
  | enters {key : Key} {ticket : Nat} {next : Nat → Call Result}
      (phase : system.phase call = .waiting key ticket next) :
      Turns environment system call (system.enter call key ticket next)
  | leaves {key : Key} {ticket given : Nat} {next : Unit → Call Result}
      (phase : system.phase call =
        .inside key ticket (Program.ask (.unlock given) next)) :
      Turns environment system call (system.leave call key given (next ()))
  | outside {request : Engine.Request} {next : request.Answer → Call Result}
      (phase : system.phase call = .outside (Program.ask request next))
      (unlocked : ∀ key, request ≠ .lock key) : Turns environment system call
        (system.respond (environment call (system.own call).length) call none
          request fun answer => .outside (next answer))
  | inside {key : Key} {ticket : Nat} {request : Engine.Request}
      {next : request.Answer → Call Result}
      (phase :
        system.phase call = .inside key ticket (Program.ask request next))
      (locked : ∀ given, request ≠ .unlock given) : Turns environment system
        call (system.respond (environment call (system.own call).length) call
          (some key) request fun answer => .inside key ticket (next answer))

theorem turns_advance (environment : Environment) (system : System)
    (call : Nat) :
    Turns environment system call (system.advance environment call) := by
  cases phase : system.phase call with
  | outside rest =>
      cases rest with
      | done result => simpa only [advance, phase] using Turns.stays
      | ask request next =>
          by_cases lock : ∃ key, request = .lock key
          · obtain ⟨key, rfl⟩ := lock
            rw [advance_ask phase]
            exact .asks phase
          · rw [advance_outside phase (not_exists.mp lock)]
            exact .outside phase (not_exists.mp lock)
  | waiting key ticket next =>
      rw [advance_waiting phase]
      split
      · exact .enters phase
      · exact .stays
  | inside key ticket rest =>
      cases rest with
      | done result => simpa only [advance, phase] using Turns.stays
      | ask request next =>
          by_cases unlock : ∃ given, request = .unlock given
          · obtain ⟨given, rfl⟩ := unlock
            rw [advance_leave phase]
            exact .leaves phase
          · rw [advance_inside phase (not_exists.mp unlock)]
            exact .inside phase (not_exists.mp unlock)

theorem heldAfter_none {request : Engine.Request}
    (unlocked : ∀ key, request ≠ .lock key) (answer : request.Answer) :
    heldAfter none request answer = none := by
  cases request with
  | lock key => exact absurd rfl (unlocked key)
  | _ => rfl

theorem heldAfter_some {request : Engine.Request}
    (locked : ∀ given, request ≠ .unlock given)
    (ticket : Nat) (answer : request.Answer) :
    heldAfter (some ticket) request answer = some ticket := by
  cases request with
  | unlock given => exact absurd rfl (locked given)
  | _ => rfl

theorem truncate_respond {counts : Nat → Nat} (circumstances : Circumstances)
    (place : Option Key) (request : Engine.Request)
    (phase : request.Answer → Phase) :
    (system.truncate (grant counts call)).respond circumstances
      call place request (fun answer => (phase answer).truncate (counts call)) =
      (system.respond circumstances call place request phase).truncate
        counts := by
  rw [respond_eq, respond_eq, truncate_go _ fun other => grant_of_ne counts]
  rfl

theorem grant_self (counts : Nat → Nat) (call : Nat) :
    grant counts call call = counts call + 1 :=
  if_pos rfl

theorem truncate_advance_outside {request : Engine.Request}
    {next : request.Answer → Call Result}
    (phase : system.phase call = .outside (Program.ask request next))
    (counts : Nat → Nat) :
    (system.truncate (grant counts call)).advance environment call =
      (system.advance environment call).truncate counts := by
  have truncated : (system.truncate (grant counts call)).phase call =
      .outside (Program.ask request fun answer =>
        Interleaving.truncate (heldAfter none request answer) (counts call)
          (next answer)) := by
    rw [phase_truncate, phase, grant_self, Phase.truncate,
      truncate_ask (givesBack_none _ _)]
    rfl
  by_cases lock : ∃ key, request = .lock key
  · obtain ⟨key, rfl⟩ := lock
    rw [advance_ask phase, advance_ask truncated, ask, ask,
      truncate_go _ fun other => grant_of_ne counts]
    rfl
  · have unlocked : ∀ key, request ≠ .lock key := not_exists.mp lock
    rw [advance_outside phase unlocked, advance_outside truncated unlocked,
      ← truncate_respond]
    simp only [heldAfter_none unlocked]
    rfl

theorem truncate_advance_waiting {next : Nat → Call Result}
    (phase : system.phase call = .waiting key ticket next)
    (counts : Nat → Nat) :
    (system.truncate counts).advance environment call =
      (system.advance environment call).truncate counts := by
  have truncated : (system.truncate counts).phase call =
    .waiting key ticket fun given =>
      Interleaving.truncate (some given) (counts call) (next given) := by
    rw [phase_truncate, phase]
    rfl
  rw [advance_waiting phase, advance_waiting truncated,
    apply_ite (truncate counts), enter, enter, truncate_go _ fun _ _ => rfl]
  rfl

theorem truncate_advance_inside {request : Engine.Request}
    {next : request.Answer → Call Result}
    (phase : system.phase call = .inside key ticket (Program.ask request next))
    (counts : Nat → Nat) :
    (system.truncate (grant counts call)).advance environment call =
      (system.advance environment call).truncate counts := by
  have truncated : (system.truncate (grant counts call)).phase call =
      .inside key ticket (Program.ask request fun answer =>
        Interleaving.truncate (heldAfter (some ticket) request answer)
          (counts call) (next answer)) := by
    rw [phase_truncate, phase, grant_self, Phase.truncate,
      truncate_ask (givesBack_succ _ _ _)]
    rfl
  by_cases unlock : ∃ given, request = .unlock given
  · obtain ⟨given, rfl⟩ := unlock
    rw [advance_leave phase, advance_leave truncated, leave, leave,
      truncate_go _ fun other => grant_of_ne counts]
    simp only [heldAfter, result?_truncate]
    rfl
  · have locked : ∀ given, request ≠ .unlock given := not_exists.mp unlock
    rw [advance_inside phase locked, advance_inside truncated locked,
      ← truncate_respond]
    simp only [heldAfter_some locked]
    rfl

theorem exists_truncate_advance (environment : Environment) (system : System)
    (call : Nat) (counts : Nat → Nat) :
    ∃ earlier, (system.truncate earlier).advance environment call =
      (system.advance environment call).truncate counts := by
  cases phase : system.phase call with
  | outside rest =>
      cases rest with
      | done result =>
          have truncated : (system.truncate counts).phase call =
                .outside (Program.done result) := by
            rw [phase_truncate, phase]
            rfl
          refine ⟨counts, ?_⟩
          simp only [advance, phase, truncated]
      | ask request next =>
          exact ⟨grant counts call, truncate_advance_outside phase counts⟩
  | waiting key ticket next =>
      exact ⟨counts, truncate_advance_waiting phase counts⟩
  | inside key ticket rest =>
      cases rest with
      | done result =>
          have truncated : (system.truncate counts).phase call =
              .inside key ticket (Program.done result) := by
            rw [phase_truncate, phase]
            rfl
          refine ⟨counts, ?_⟩
          simp only [advance, phase, truncated]
      | ask request next =>
          exact ⟨grant counts call, truncate_advance_inside phase counts⟩

theorem exists_truncate_drop (environment : Environment) (system : System)
    (call : Nat) (counts : Nat → Nat) :
    system.drop call = system ∨
    ∃ earlier, (system.truncate earlier).advance environment call =
      (system.drop call).truncate counts := by
  unfold drop
  split
  · rename_i key ticket request next phase
    split
    · rename_i mayWait
      let earlier : Nat → Nat :=
        fun other => if other = call then 0 else counts other
      have truncated : (system.truncate earlier).phase call = .inside key ticket
          (Program.ask (.unlock ticket) fun _ => Program.done cutOff) := by
        have here : earlier call = 0 := if_pos rfl
        rw [phase_truncate, phase, here, Phase.truncate, Interleaving.truncate,
          givesBack, if_pos ⟨rfl, mayWait⟩]
      refine .inr ⟨earlier, ?_⟩
      rw [advance_leave truncated, leave, leave,
        truncate_go _ fun other different => if_neg different]
      rfl
    · exact .inl rfl
  · exact .inl rfl

end System

def Place.held? : Place → Option Nat
  | .outside => none
  | .inside _ ticket _ => some ticket

namespace Discipline

/-- A call that has done some things and is at a place keeps to a discipline if
it goes on with a program, wherever it is cut off. -/
def Withstands (discipline : Discipline) (call : Nat) (place : Place)
    (own : List Event) (program : Call Result) : Prop :=
  ∀ count, discipline.Abides call place own (truncate place.held? count program)

variable {own : List Event}

theorem withstands_done {result : Result}
    (ends : discipline.ends call own result) :
    discipline.Withstands call .outside own (Program.done result) :=
  fun _ => .done ends

theorem withstands_lock {next : Nat → Call Result}
    (enters : discipline.enters call key)
    (entering : ∀ ticket view, discipline.idle key view →
      view.keepsEntry = false →
      (view.events.filter fun event => event.call = call) =
        (own.filter fun event => event.key = some key) →
      discipline.Withstands call (.inside key ticket (view.enter call key))
        (own ++ [⟨call, none, .asked key⟩] ++ [⟨call, some key, .entered⟩])
      (next ticket)) :
    discipline.Withstands call .outside own (Program.ask (.lock key) next) := by
  intro count
  rw [Place.held?, truncate_ask (givesBack_none _ _)]
  exact .lock enters fun ticket view idle free same =>
    entering ticket view idle free same _

theorem withstands_aside {request : Engine.Request}
    {next : request.Answer → Call Result} (isAside : IsAside request)
    (going : ∀ store : Store, store.subscribers = [System.subscriber] →
      ∀ answer,
        answer =
          ((discipline.environment call own.length).answer store request).2 →
          discipline.Withstands call .outside
            (own ++ [⟨call, none, .answered request answer⟩]) (next answer)) :
    discipline.Withstands call .outside own (Program.ask request next) := by
  intro count
  have unlocked : ∀ key, request ≠ .lock key := by
    rintro key rfl
    exact isAside
  rw [Place.held?, truncate_ask (givesBack_none _ _)]
  refine .aside isAside fun store subscribers answer answered => ?_
  rw [System.heldAfter_none unlocked]
  exact going store subscribers answer answered _

theorem withstands_unlock {view : View} {next : Unit → Call Result}
    (left : discipline.idle key (view.leave call key (result? (next ()))))
    (going : discipline.Withstands call .outside (own ++ [⟨call,
      some key, .left view.keepsEntry (result? (next ()))⟩]) (next ())) :
    discipline.Withstands call (.inside key ticket view) own
      (Program.ask (.unlock ticket) next) := by
  intro count
  have goesOn : givesBack (some ticket) count (.unlock ticket) = none :=
    if_neg fun both => by
    simp [Engine.Request.mayWait] at both
  rw [Place.held?, truncate_ask goesOn]
  refine .unlock ?_ ?_
  · simp only [heldAfter, result?_truncate]
    exact left
  · simp only [heldAfter, result?_truncate]
    exact going _

theorem Endures.withstands {α : Type} {body : Call α} {pause : Visit → Prop}
    {view : View}
    {next : α → Call Result} (ends : ∀ own, discipline.ends call own cutOff)
    (pauses : ∀ visit, pause visit →
      discipline.idle key (visit.view.leave call key (some cutOff)))
    (endures : discipline.Endures call key ticket pause body ⟨own, view⟩
      fun value visit =>
        discipline.Withstands call (.inside key ticket visit.view)
          visit.own (next value)) :
    discipline.Withstands call (.inside key ticket view) own
      (body.bind next) := by
  induction body generalizing own view with
  | done value => exact endures
  | ask request rest induction =>
      intro count
      obtain ⟨isAbout, allowed, paused, going⟩ := endures
      have locked : ∀ given, request ≠ .unlock given := by
        rintro given rfl
        exact isAbout
      rw [Program.bind_ask, Place.held?]
      -- Cut off here, the program leaves the key as it is at a pause; otherwise
      -- it goes on.
      by_cases cut : count = 0 ∧ request.mayWait = true
      · have given : givesBack (some ticket) count request = some ticket :=
          if_pos cut
        rw [truncate, given]
        exact .unlock (pauses ⟨own, view⟩ (paused cut.2)) (.done (ends _))
      · rw [truncate_ask (if_neg cut)]
        refine .about isAbout allowed
          fun refusal mayRefuse visit answer responded => ?_
        rw [System.heldAfter_some locked]
        exact induction answer
          (going refusal mayRefuse visit answer responded) _

theorem withstands_locked {α : Type} {body : Nat → Call α}
    {pause : Visit → Prop}
    {next : α → Call Result} (enters : discipline.enters call key)
    (ends : ∀ own, discipline.ends call own cutOff)
    (pauses : ∀ visit, pause visit →
      discipline.idle key (visit.view.leave call key (some cutOff)))
    (endures : ∀ ticket view, discipline.idle key view →
      view.keepsEntry = false →
      discipline.Endures call key ticket pause (body ticket)
        ⟨own ++ [⟨call, none, .asked key⟩] ++ [⟨call, some key, .entered⟩],
          view.enter call key⟩ fun value visit =>
            discipline.idle key
              (visit.view.leave call key (result? (next value))) ∧
              discipline.Withstands call .outside (visit.own ++ [⟨call,
                some key, .left visit.view.keepsEntry (result? (next value))⟩])
                  (next value)) :
    discipline.Withstands call .outside own
      ((Handler.locked key body).bind next) := by
  refine withstands_lock enters fun ticket view idle free _ => ?_
  simp only [Program.bind_eq, Call.ask, Program.bind_ask, Program.bind_done,
    Program.bind_assoc, Program.pure_eq]
  refine Endures.withstands ends pauses ((endures ticket view idle free).imp ?_)
  rintro value visit ⟨left, going⟩
  exact withstands_unlock left going

theorem withstands_log {event : Log.Event} {next : Unit → Call Result}
    (going : discipline.Withstands call .outside
      (own ++ [⟨call, none, .answered (.log event) ()⟩]) (next ())) :
    discipline.Withstands call .outside own ((Call.log event).bind next) :=
  withstands_aside trivial fun _ _ _ _ => going

end Discipline

/-- Whether a system is coherent wherever its calls are to be cut off. -/
def Resilient (discipline : Discipline) (system : System) : Prop :=
  ∀ counts, Coherent discipline (system.truncate counts)

namespace Resilient

theorem start {program : Nat → Call Result}
    (idle : ∀ key, discipline.idle key .start)
    (withstands :
      ∀ call, discipline.Withstands call .outside [] (program call)) :
    Resilient discipline (System.start discipline.capacity program) :=
  fun counts => Coherent.start idle fun call => withstands call (counts call)

theorem move (resilient : Resilient discipline system) (move : Move) :
    Resilient discipline (system.move discipline.environment move) := by
  intro counts
  cases move with
  | turn call =>
      obtain ⟨earlier, same⟩ :=
        System.exists_truncate_advance discipline.environment system call counts
      show Coherent discipline
        ((system.advance discipline.environment call).truncate counts)
      rw [← same]
      exact (resilient earlier).advance call
  | drop call =>
      show Coherent discipline ((system.drop call).truncate counts)
      rcases System.exists_truncate_drop discipline.environment system
        call counts with
        same | ⟨earlier, same⟩
      · rw [same]
        exact resilient counts
      · rw [← same]
        exact (resilient earlier).advance call

theorem undergo (resilient : Resilient discipline system) (moves : List Move) :
    Resilient discipline (system.undergo discipline.environment moves) := by
  induction moves generalizing system with
  | nil => exact resilient
  | cons first rest induction => exact induction (resilient.move first)

theorem get?_move_of_apart (resilient : Resilient discipline system)
    {move : Move}
    (apart :
      ∀ claimed rest, system.phase move.call ≠ .inside key claimed rest) :
    (system.move discipline.environment move).store.get? key =
      system.store.get? key := by
  cases move with
  | turn call =>
      obtain ⟨earlier, same⟩ :=
        System.exists_truncate_advance discipline.environment system call
          fun _ => 0
      have truncated : ∀ claimed rest,
          (system.truncate earlier).phase call ≠ .inside key claimed rest := by
        intro claimed rest inside
        obtain ⟨whole, phase⟩ := Phase.of_truncate_inside inside
        exact apart claimed whole phase
      have unchanged := (resilient earlier).get?_advance_of_apart truncated
      rw [same] at unchanged
      exact unchanged
  | drop call =>
      exact congrArg (fun store => store.get? key) (system.store_drop call)

end Resilient

end Collate.Interleaving
