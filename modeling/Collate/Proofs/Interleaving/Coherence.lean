import Collate.Proofs.Interleaving.Discipline

namespace Collate.Interleaving

variable {discipline : Discipline} {system after : System} {call other : Nat}
  {key name : Key} {ticket : Nat}

theorem eq_done_of_result? {program : Call Result} {result : Result}
    (come : result? program = some result) : program = Program.done result := by
  cases program with
  | done value => rw [Option.some.inj come]
  | ask request next => simp [result?] at come

theorem System.phase_of_result? {result : Result}
    (come : system.result? call = some result) :
    system.phase call = .outside (Program.done result) := by
  unfold System.result? at come
  split at come
  · rename_i rest phase
    rw [phase, eq_done_of_result? come]
  · simp at come

theorem System.result?_of_phase {result : Result}
    (phase : system.phase call = .outside (Program.done result)) :
    system.result? call = some result := by
  simp [System.result?, phase, Interleaving.result?]

namespace System

@[simp] theorem locks_go (system : System) (event : Event) (phase : Phase) :
    (system.go event phase).locks = system.locks := rfl

@[simp] theorem phase_go_self (system : System) (event : Event)
    (phase : Phase) : (system.go event phase).phase event.call = phase := by
  simp [go]

theorem phase_go_of_ne (system : System) {event : Event} (phase : Phase)
    (different : other ≠ event.call) :
    (system.go event phase).phase other = system.phase other := by
  simp [go, different]

theorem own_eq {event : Event} (trace : after.trace = system.trace ++ [event]) :
    after.own event.call = system.own event.call ++ [event] := by
  simp [own, trace, List.filter_append]

theorem own_go (system : System) (event : Event) (phase : Phase) :
    (system.go event phase).own event.call = system.own event.call ++ [event] :=
  own_eq rfl

theorem own_eq_of_ne {event : Event}
    (trace : after.trace = system.trace ++ [event])
    (different : other ≠ event.call) : after.own other = system.own other := by
  simp [own, trace, List.filter_append, Ne.symm different]

theorem under_eq {event : Event} (trace : after.trace = system.trace ++ [event])
    (same : event.key = some key) :
    after.under key = system.under key ++ [event] := by
  simp [under, trace, List.filter_append, same]

theorem under_eq_of_ne {event : Event}
    (trace : after.trace = system.trace ++ [event])
    (different : event.key ≠ some key) :
    after.under key = system.under key := by
  simp [under, trace, List.filter_append, different]

theorem under_filter_call (system : System) (key : Key) (call : Nat) :
    ((system.under key).filter fun event => event.call = call) =
      ((system.own call).filter fun event => event.key = some key) := by
  simp [under, own, List.filter_filter, Bool.and_comm]

end System

/-- Whether the entry of a key stays after all that has happened under the lock
of the key: it does if the last guard has kept it. -/
def entryStays (events : List Event) : Bool :=
  events.foldl
    (fun stays event =>
      match event.act with
      | .left keepsEntry _ => keepsEntry
      | _ => stays)
    false

def Discipline.Admits (discipline : Discipline) (earlier : List Event)
    (event : Event) : Prop :=
  match event.act with
  | .entered => ∃ key, event.key = some key ∧ discipline.enters event.call key
  | .answered request _ =>
      match event.key with
      | some key =>
          discipline.allows key
            (earlier.filter fun past => past.key = some key) request
      | none => IsAside request
  | _ => True

def Ready (discipline : Discipline) (system : System) (call : Nat) : Prop :=
  match system.phase call with
  | .outside rest => discipline.Abides call .outside (system.own call) rest
  | .waiting key ticket next =>
      discipline.enters call key ∧ system.locks.Stands ticket key .pending ∧
        ∀ view, discipline.idle key view → view.keepsEntry = false →
          (view.events.filter fun event => event.call = call) =
            ((system.own call).filter fun event => event.key = some key) →
          discipline.Abides call (.inside key ticket (view.enter call key))
            (system.own call ++ [⟨call, some key, .entered⟩]) (next ticket)
  | .inside key ticket rest =>
      discipline.enters call key ∧
        (∃ keeps, system.locks.Stands ticket key (.guard keeps)) ∧
        discipline.Abides call (.inside key ticket (system.view key))
          (system.own call) rest

theorem ready_outside_iff {rest : Call Result}
    (phase : system.phase call = .outside rest) :
    Ready discipline system call ↔
    discipline.Abides call .outside (system.own call) rest := by
  simp only [Ready, phase]

theorem ready_waiting_iff {next : Nat → Call Result}
    (phase : system.phase call = .waiting key ticket next) :
    Ready discipline system call ↔
    discipline.enters call key ∧ system.locks.Stands ticket key .pending ∧
    ∀ view, discipline.idle key view → view.keepsEntry = false →
      (view.events.filter fun event => event.call = call) =
        ((system.own call).filter fun event => event.key = some key) →
      discipline.Abides call (.inside key ticket (view.enter call key))
        (system.own call ++ [⟨call, some key, .entered⟩]) (next ticket) := by
  simp only [Ready, phase]

theorem ready_inside_iff {rest : Call Result}
    (phase : system.phase call = .inside key ticket rest) :
    Ready discipline system call ↔
    discipline.enters call key ∧
    (∃ keeps, system.locks.Stands ticket key (.guard keeps)) ∧
    discipline.Abides call (.inside key ticket (system.view key))
      (system.own call) rest := by
  simp only [Ready, phase]

/-- What holds of a system at any time. -/
structure Coherent (discipline : Discipline) (system : System) : Prop where
  sound : system.locks.Sound
  capacity : system.store.capacity = discipline.capacity
  subscribers : system.store.subscribers = [System.subscriber]
  ready : ∀ call, Ready discipline system call
  claimed : ∀ ticket key stage, system.locks.Stands ticket key stage →
    ∃ call, (system.phase call).ticket? = some ticket
  distinct : ∀ left right ticket, (system.phase left).ticket? = some ticket →
    (system.phase right).ticket? = some ticket → left = right
  idle :
    ∀ key, (∀ ticket keeps, ¬ system.locks.Stands ticket key (.guard keeps)) →
      discipline.idle key (system.view key)
  entry : ∀ key, (∀ ticket stage, ¬ system.locks.Stands ticket key stage) →
    system.locks.contains key = entryStays (system.under key)
  admitted : ∀ earlier event, earlier ++ [event] <+: system.trace →
    discipline.Admits earlier event
  settled : ∀ event ∈ system.trace, ∀ keepsEntry result,
    event.act = .left keepsEntry (some result) →
    system.phase event.call = .outside (Program.done result)

namespace Coherent

theorem stands_of_ticket (coherent : Coherent discipline system)
    (found : (system.phase call).ticket? = some ticket) :
    ∃ key stage, system.locks.Stands ticket key stage := by
  cases phase : system.phase call with
  | outside rest => simp [phase, Phase.ticket?] at found
  | waiting key claimed next =>
      obtain rfl : claimed = ticket := by
        simpa [phase, Phase.ticket?] using found
      exact ⟨key, _, ((ready_waiting_iff phase).mp (coherent.ready call)).2.1⟩
  | inside key claimed rest =>
      obtain rfl : claimed = ticket := by
        simpa [phase, Phase.ticket?] using found
      obtain ⟨-, ⟨keeps, stands⟩, -⟩ :=
        (ready_inside_iff phase).mp (coherent.ready call)
      exact ⟨key, _, stands⟩

theorem ticket_issued (coherent : Coherent discipline system)
    (found : (system.phase call).ticket? = some ticket) :
    ticket < system.locks.nextTicket := by
  obtain ⟨key, stage, stands⟩ := coherent.stands_of_ticket found
  exact coherent.sound.issued_of_stands stands

theorem stands_of_inside (coherent : Coherent discipline system)
    {rest : Call Result} (phase : system.phase call = .inside key ticket rest) :
    ∃ keeps, system.locks.Stands ticket key (.guard keeps) :=
  ((ready_inside_iff phase).mp (coherent.ready call)).2.1

theorem enters_of_inside (coherent : Coherent discipline system)
    {rest : Call Result} (phase : system.phase call = .inside key ticket rest) :
    discipline.enters call key :=
  ((ready_inside_iff phase).mp (coherent.ready call)).1

/-- Whoever has a claim on a key waits for its lock or is inside. -/
theorem phase_of_stands (coherent : Coherent discipline system)
    {stage : Claim.Stage} (stands : system.locks.Stands ticket key stage) :
    ∃ call,
      (∃ next, system.phase call = .waiting key ticket next ∧
        stage = .pending) ∨
      ∃ rest keeps, system.phase call = .inside key ticket rest ∧
        stage = .guard keeps := by
  obtain ⟨call, found⟩ := coherent.claimed ticket key stage stands
  refine ⟨call, ?_⟩
  cases phase : system.phase call with
  | outside rest => simp [phase, Phase.ticket?] at found
  | waiting other claimed next =>
      obtain rfl : claimed = ticket := by
        simpa [phase, Phase.ticket?] using found
      obtain ⟨-, pending, -⟩ :=
        (ready_waiting_iff phase).mp (coherent.ready call)
      obtain ⟨rfl, rfl⟩ := coherent.sound.stage_unique stands pending
      exact .inl ⟨next, rfl, rfl⟩
  | inside other claimed rest =>
      obtain rfl : claimed = ticket := by
        simpa [phase, Phase.ticket?] using found
      obtain ⟨keeps, guarding⟩ := coherent.stands_of_inside phase
      obtain ⟨rfl, rfl⟩ := coherent.sound.stage_unique stands guarding
      exact .inr ⟨rest, keeps, rfl, rfl⟩

theorem claimed_by_other (coherent : Coherent discipline system)
    {stage : Claim.Stage} (stands : system.locks.Stands ticket key stage)
    (apart : (system.phase call).ticket? ≠ some ticket) :
    ∃ other, other ≠ call ∧ (system.phase other).ticket? = some ticket := by
  obtain ⟨other, found⟩ := coherent.claimed ticket key stage stands
  refine ⟨other, ?_, found⟩
  rintro rfl
  exact apart found

theorem inside_of_stands (coherent : Coherent discipline system) {keeps : Bool}
    (stands : system.locks.Stands ticket key (.guard keeps)) :
    ∃ call rest, system.phase call = .inside key ticket rest := by
  obtain ⟨call, ⟨next, -, pending⟩ | ⟨rest, -, phase, -⟩⟩ :=
    coherent.phase_of_stands stands
  · simp at pending
  · exact ⟨call, rest, phase⟩

theorem enters_of_stands (coherent : Coherent discipline system)
    {stage : Claim.Stage} (stands : system.locks.Stands ticket key stage) :
    ∃ call, discipline.enters call key ∧
      (system.phase call).ticket? = some ticket := by
  obtain ⟨call, ⟨next, phase, -⟩ | ⟨rest, -, phase, -⟩⟩ :=
    coherent.phase_of_stands stands
  · exact ⟨call, ((ready_waiting_iff phase).mp (coherent.ready call)).1,
      by simp [phase, Phase.ticket?]⟩
  · exact ⟨call, coherent.enters_of_inside phase,
      by simp [phase, Phase.ticket?]⟩

theorem allowed_of_answered (coherent : Coherent discipline system)
    {event : Event} (member : event ∈ system.trace) {request : Engine.Request}
    {answer : request.Answer} (act : event.act = .answered request answer)
    (notAside : ¬ IsAside request) :
    ∃ key earlier, event.key = some key ∧ earlier <+: system.trace ∧
      discipline.allows key (earlier.filter
        fun past => past.key = some key) request := by
  obtain ⟨earlier, later, split⟩ := List.append_of_mem member
  have isPrefix : earlier ++ [event] <+: system.trace :=
    ⟨later, by simp [split]⟩
  have admitted := coherent.admitted earlier event isPrefix
  simp only [Discipline.Admits, act] at admitted
  cases found : event.key with
  | none =>
      rw [found] at admitted
      exact absurd admitted notAside
  | some key =>
      rw [found] at admitted
      exact ⟨key, earlier, rfl,
        (List.prefix_append earlier [event]).trans isPrefix, admitted⟩

theorem enters_of_entered (coherent : Coherent discipline system)
    {event : Event}
    (member : event ∈ system.trace) (act : event.act = .entered) :
    ∃ key, event.key = some key ∧ discipline.enters event.call key := by
  obtain ⟨earlier, later, split⟩ := List.append_of_mem member
  have admitted := coherent.admitted earlier event ⟨later, by simp [split]⟩
  simpa only [Discipline.Admits, act] using admitted

theorem ends_of_result? (coherent : Coherent discipline system)
    {result : Result} (come : system.result? call = some result) :
    discipline.ends call (system.own call) result := by
  have abides :=
    (ready_outside_iff (System.phase_of_result? come)).mp (coherent.ready call)
  cases abides with
  | done ends => exact ends

theorem idle_of_outside (coherent : Coherent discipline system)
    (free : ∀ call ticket rest, system.phase call ≠ .inside key ticket rest) :
    discipline.idle key (system.view key) := by
  apply coherent.idle key
  intro ticket keeps stands
  obtain ⟨call, rest, phase⟩ := coherent.inside_of_stands stands
  exact free call ticket rest phase

theorem unclaimed_of_free (coherent : Coherent discipline system)
    (free : ∀ call, (system.phase call).ticket? = none) (ticket : Nat)
    (key : Key) (stage : Claim.Stage) :
    ¬ system.locks.Stands ticket key stage := by
  intro stands
  obtain ⟨call, found⟩ := coherent.claimed ticket key stage stands
  simp [free call] at found

theorem contains_of_free (coherent : Coherent discipline system)
    (free : ∀ call, (system.phase call).ticket? = none) (key : Key) :
    system.locks.contains key = entryStays (system.under key) :=
  coherent.entry key fun ticket stage =>
    coherent.unclaimed_of_free free ticket key stage

end Coherent

structure Turn (system after : System) (event : Event) : Prop where
  trace : after.trace = system.trace ++ [event]
  phase : ∀ other, other ≠ event.call → after.phase other = system.phase other
  unfinished :
    ∀ result, system.phase event.call ≠ .outside (Program.done result)
  get? : ∀ name, event.key ≠ some name →
    after.store.get? name = system.store.get? name
  capacity : after.store.capacity = system.store.capacity
  subscribers : after.store.subscribers = system.store.subscribers
  stands : ∀ other ticket name stage, other ≠ event.call →
    (system.phase other).ticket? = some ticket →
    (after.locks.Stands ticket name stage ↔
      system.locks.Stands ticket name stage)
  guards : ∀ name, event.key ≠ some name → ∀ ticket keeps,
    after.locks.Stands ticket name (.guard keeps) ↔
      system.locks.Stands ticket name (.guard keeps)
  alone : ∀ other name ticket rest, other ≠ event.call →
    system.phase other = .inside name ticket rest → event.key ≠ some name
  ticket : ∀ ticket, (after.phase event.call).ticket? = some ticket →
    (system.phase event.call).ticket? = some ticket ∨
    ticket = system.locks.nextTicket
  claimed : ∀ ticket name stage, after.locks.Stands ticket name stage →
    (after.phase event.call).ticket? = some ticket ∨
      ∃ other, other ≠ event.call ∧ (system.phase other).ticket? = some ticket

namespace Turn

variable {event : Event}

theorem view_of_ne (turn : Turn system after event)
    (different : event.key ≠ some name) :
    after.view name = system.view name := by
  unfold System.view
  rw [turn.get? name different,
    System.under_eq_of_ne turn.trace different, LockTable.keepsEntry_congr
      fun ticket => turn.guards name different ticket true]

theorem ready_of_ne (turn : Turn system after event)
    (different : other ≠ event.call) (ready : Ready discipline system other) :
    Ready discipline after other := by
  have samePhase := turn.phase other different
  cases phase : system.phase other with
  | outside rest =>
      rw [ready_outside_iff (samePhase.trans phase),
        System.own_eq_of_ne turn.trace different]
      exact (ready_outside_iff phase).mp ready
  | waiting key ticket next =>
      rw [ready_waiting_iff (samePhase.trans phase),
        System.own_eq_of_ne turn.trace different]
      obtain ⟨enters, pending, abides⟩ := (ready_waiting_iff phase).mp ready
      refine ⟨enters, ?_, abides⟩
      exact (turn.stands other ticket key _ different
        (by simp [phase, Phase.ticket?])).mpr pending
  | inside key ticket rest =>
      rw [ready_inside_iff (samePhase.trans phase),
        System.own_eq_of_ne turn.trace different]
      obtain ⟨enters, ⟨keeps, stands⟩, abides⟩ :=
        (ready_inside_iff phase).mp ready
      have elsewhere := turn.alone other key ticket rest different phase
      rw [turn.view_of_ne elsewhere]
      exact ⟨enters,
        ⟨keeps, (turn.guards key elsewhere ticket keeps).mpr stands⟩, abides⟩

theorem coherent (turn : Turn system after event)
    (coherent : Coherent discipline system)
    (sound : after.locks.Sound) (ready : Ready discipline after event.call)
    (idle : ∀ key, event.key = some key →
      (∀ ticket keeps, ¬ after.locks.Stands ticket key (.guard keeps)) →
      discipline.idle key (after.view key))
    (entry : ∀ key, (∀ ticket stage, ¬ after.locks.Stands ticket key stage) →
      after.locks.contains key = entryStays (after.under key))
    (admitted : discipline.Admits system.trace event)
    (settled : ∀ keepsEntry result, event.act = .left keepsEntry (some result) →
      after.phase event.call = .outside (Program.done result)) :
    Coherent discipline after where
  sound := sound
  capacity := turn.capacity.trans coherent.capacity
  subscribers := turn.subscribers.trans coherent.subscribers
  ready := by
    intro call
    by_cases same : call = event.call
    · subst same
      exact ready
    · exact turn.ready_of_ne same (coherent.ready call)
  claimed := by
    intro ticket key stage stands
    rcases turn.claimed ticket key stage stands with
      mine | ⟨other, different, found⟩
    · exact ⟨event.call, mine⟩
    · exact ⟨other, by rw [turn.phase other different]; exact found⟩
  distinct := by
    have apart : ∀ other ticket, other ≠ event.call →
        (system.phase other).ticket? = some ticket →
        (after.phase event.call).ticket? ≠ some ticket := by
      intro other ticket different found mine
      rcases turn.ticket ticket mine with held | new
      · exact different (coherent.distinct other event.call ticket found held)
      · exact Nat.ne_of_lt (coherent.ticket_issued found) new
    intro left right ticket leftFound rightFound
    by_cases leftSame : left = event.call
    · by_cases rightSame : right = event.call
      · rw [leftSame, rightSame]
      · rw [turn.phase right rightSame] at rightFound
        rw [leftSame] at leftFound
        exact absurd leftFound (apart right ticket rightSame rightFound)
    · rw [turn.phase left leftSame] at leftFound
      by_cases rightSame : right = event.call
      · rw [rightSame] at rightFound
        exact absurd rightFound (apart left ticket leftSame leftFound)
      · rw [turn.phase right rightSame] at rightFound
        exact coherent.distinct left right ticket leftFound rightFound
  idle := by
    intro key free
    by_cases same : event.key = some key
    · exact idle key same free
    · rw [turn.view_of_ne same]
      apply coherent.idle key
      intro ticket keeps
      rw [← turn.guards key same]
      exact free ticket keeps
  entry := entry
  admitted := by
    intro earlier past isPrefix
    rw [turn.trace] at isPrefix
    rcases List.prefix_concat_iff.mp isPrefix with new | old
    · obtain ⟨rfl, last⟩ := List.append_inj' new rfl
      obtain rfl : past = event := by simpa using last
      exact admitted
    · exact coherent.admitted earlier past old
  settled := by
    intro past member keepsEntry result left
    rw [turn.trace] at member
    rcases List.mem_append.mp member with old | new
    · have finished := coherent.settled past old keepsEntry result left
      by_cases same : past.call = event.call
      · rw [same] at finished
        exact absurd finished (turn.unfinished result)
      · rw [turn.phase past.call same]
        exact finished
    · rw [List.mem_singleton.mp new] at left ⊢
      exact settled keepsEntry result left

end Turn

end Collate.Interleaving
