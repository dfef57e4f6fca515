import Collate.Proofs.Interleaving.Coherence

namespace Collate.Interleaving

variable {discipline : Discipline} {environment : Environment} {system : System}
  {call : Nat} {key : Key} {ticket : Nat}

namespace System

def ask (system : System) (call : Nat) (key : Key)
    (next : Nat → Call Result) : System :=
  { system with locks := (system.locks.join key).1 }.go ⟨call, none, .asked key⟩
    (.waiting key (system.locks.join key).2 next)

def enter (system : System) (call : Nat) (key : Key) (ticket : Nat)
    (next : Nat → Call Result) :
    System :=
  { system with locks := system.locks.enter ticket }.go
    ⟨call, some key, .entered⟩ (.inside key ticket (next ticket))

def leave (system : System) (call : Nat) (key : Key) (ticket : Nat)
    (rest : Call Result) : System :=
  { system with locks := system.locks.release ticket }.go ⟨call, some key, .left
    (system.locks.keepsEntry key) (Interleaving.result? rest)⟩ (.outside rest)

theorem advance_ask {next : Nat → Call Result}
    (phase : system.phase call = .outside (Program.ask (.lock key) next)) :
    advance environment system call = system.ask call key next := by
  simp only [advance, phase]
  rfl

theorem advance_aside {request : Engine.Request}
    {next : request.Answer → Call Result}
    (phase : system.phase call = .outside (Program.ask request next))
    (isAside : IsAside request) :
    advance environment system call = system.respond (environment call
      (system.own call).length) call none request fun answer =>
        .outside (next answer) := by
  cases request with
  | survey timeout => simp only [advance, phase]
  | log event => simp only [advance, phase]
  | _ => exact isAside.elim

theorem advance_waiting {next : Nat → Call Result}
    (phase : system.phase call = .waiting key ticket next) :
    advance environment system call =
      if system.locks.isOwner ticket then system.enter call key ticket next
      else system := by
  simp only [advance, phase]
  rfl

theorem advance_leave {given : Nat} {next : Unit → Call Result}
    (phase : system.phase call =
      .inside key ticket (Program.ask (.unlock given) next)) :
    advance environment system call =
      system.leave call key given (next ()) := by
  simp only [advance, phase]
  rfl

theorem advance_about {request : Engine.Request}
    {next : request.Answer → Call Result}
    (phase : system.phase call = .inside key ticket (Program.ask request next))
    (isAbout : IsAbout key ticket request) :
    advance environment system call =
      system.respond (environment call (system.own call).length) call (some key)
        request fun answer => .inside key ticket (next answer) := by
  cases request with
  | unlock => exact isAbout.elim
  | _ => simp only [advance, phase]

theorem respond_eq (system : System) (circumstances : Circumstances)
    (call : Nat) (place : Option Key) (request : Engine.Request)
    (phase : request.Answer → Phase) :
    system.respond circumstances call place request phase =
      { system with
        store := (circumstances.answer system.store request).1
        locks := settle system.locks request }.go
        ⟨call, place,
          .answered request (circumstances.answer system.store request).2⟩
        (phase (circumstances.answer system.store request).2) := rfl

theorem phase_advance_of_ne {other : Nat} (different : other ≠ call) :
    (advance environment system call).phase other = system.phase other := by
  unfold advance
  split
  · rfl
  · exact phase_go_of_ne _ _ different
  · exact phase_go_of_ne _ _ different
  · split
    · exact phase_go_of_ne _ _ different
    · rfl
  · rfl
  · exact phase_go_of_ne _ _ different
  · exact phase_go_of_ne _ _ different

theorem phase_run_of_not_mem {schedule : List Nat} (absent : call ∉ schedule) :
    (run environment system schedule).phase call = system.phase call := by
  induction schedule generalizing system with
  | nil => rfl
  | cons first rest induction =>
      rw [List.mem_cons, not_or] at absent
      exact (induction absent.2).trans (phase_advance_of_ne absent.1)

end System

/-! Getting in, and asking under a lock: the claim of the call comes to a stage,
and the claims of all others stay. -/

theorem System.settle_eq {locks : LockTable} (sound : locks.Sound)
    {keeps : Bool} (stands : locks.Stands ticket key (.guard keeps))
    {request : Engine.Request} (isAbout : IsAbout key ticket request) :
    settle locks request =
      locks.setStage ticket (.guard (keepsAfter keeps request)) := by
  cases request with
  | retain given =>
      obtain rfl : given = ticket := isAbout
      exact sound.retain_eq stands
  | retire given =>
      obtain rfl : given = ticket := isAbout
      exact sound.retire_eq stands
  | _ => exact (sound.setStage_same stands).symm

namespace Coherent

theorem alone_of_inside (coherent : Coherent discipline system)
    {rest : Call Result} (phase : system.phase call = .inside key ticket rest)
    {other claimed : Nat} {otherRest : Call Result}
    (otherPhase : system.phase other = .inside key claimed otherRest) :
    other = call := by
  obtain ⟨keeps, stands⟩ := coherent.stands_of_inside phase
  obtain ⟨otherKeeps, otherStands⟩ := coherent.stands_of_inside otherPhase
  obtain rfl := coherent.sound.guard_ticket_unique stands otherStands
  exact coherent.distinct other call ticket
    (by simp [otherPhase, Phase.ticket?]) (by simp [phase, Phase.ticket?])

theorem turn_setStage (coherent : Coherent discipline system)
    {earlier stage : Claim.Stage} {act : Act} {rest : Call Result}
    {store : Store} (found : (system.phase call).ticket? = some ticket)
    (stands : system.locks.Stands ticket key earlier)
    (alone : ∀ other claimed otherRest, other ≠ call →
      system.phase other ≠ .inside key claimed otherRest)
    (get? : ∀ name, name ≠ key → store.get? name = system.store.get? name)
    (frame : store.capacity = system.store.capacity ∧
      store.subscribers = system.store.subscribers) :
    Turn system ({ system with
      store, locks := system.locks.setStage ticket stage }.go ⟨call, some key,
        act⟩ (.inside key ticket rest)) ⟨call, some key, act⟩ where
  trace := rfl
  phase := fun other different => System.phase_go_of_ne _ _ different
  unfinished := by
    intro result finished
    simp [finished, Phase.ticket?] at found
  get? := fun name different => get? name fun same => different (by rw [same])
  capacity := frame.1
  subscribers := frame.2
  stands := by
    intro other claimed name otherStage different otherFound
    have apart : claimed ≠ ticket := by
      rintro rfl
      exact different (coherent.distinct other call claimed otherFound found)
    simp [coherent.sound.stands_setStage stands, apart]
  guards := by
    intro name different claimed keeps
    rw [System.locks_go, coherent.sound.stands_setStage stands]
    constructor
    · rintro (⟨_, same⟩ | ⟨_, rfl, _⟩)
      · exact same
      · exact absurd rfl different
    · intro same
      refine .inl ⟨?_, same⟩
      rintro rfl
      obtain ⟨rfl, -⟩ := coherent.sound.stage_unique stands same
      exact different rfl
  alone := by
    rintro other name claimed otherRest different phase ⟨rfl⟩
    exact alone other claimed otherRest different phase
  ticket := by
    intro claimed mine
    rw [System.phase_go_self] at mine
    obtain rfl : ticket = claimed := by simpa [Phase.ticket?] using mine
    exact .inl found
  claimed := by
    intro claimed name otherStage claim
    rw [System.locks_go, coherent.sound.stands_setStage stands] at claim
    rw [System.phase_go_self]
    rcases claim with ⟨apart, past⟩ | ⟨rfl, _, _⟩
    · refine .inr (coherent.claimed_by_other past ?_)
      rw [found]
      exact fun same => apart (Option.some.inj same).symm
    · exact .inl (by simp [Phase.ticket?])

theorem entry_setStage (coherent : Coherent discipline system) {after : System}
    {event : Event} {earlier stage : Claim.Stage}
    (stands : system.locks.Stands ticket key earlier)
    (locks : after.locks = system.locks.setStage ticket stage)
    (trace : after.trace = system.trace ++ [event])
    (same : event.key = some key) (name : Key)
    (unclaimed : ∀ other stage, ¬ after.locks.Stands other name stage) :
    after.locks.contains name = entryStays (after.under name) := by
  rw [locks] at unclaimed ⊢
  by_cases sameName : name = key
  · subst sameName
    exact absurd ((coherent.sound.stands_setStage stands).mpr
      (.inr ⟨rfl, rfl, rfl⟩)) (unclaimed ticket stage)
  · rw [System.under_eq_of_ne trace (by simp [same, Ne.symm sameName])]
    apply coherent.entry name
    intro other stage past
    refine unclaimed other stage
      ((coherent.sound.stands_setStage stands).mpr (.inl ⟨?_, past⟩))
    rintro rfl
    exact sameName (coherent.sound.stage_unique past stands).1

theorem enter (coherent : Coherent discipline system) {next : Nat → Call Result}
    (phase : system.phase call = .waiting key ticket next)
    (owning : system.locks.isOwner ticket = true) :
    Coherent discipline (system.enter call key ticket next) := by
  obtain ⟨enters, stands, abides⟩ :=
    (ready_waiting_iff phase).mp (coherent.ready call)
  have free : ∀ other keeps, ¬ system.locks.Stands other key (.guard keeps) :=
    fun other keeps => coherent.sound.no_guard_of_isOwner stands owning keeps
  have idle := coherent.idle key free
  have noEntry := LockTable.keepsEntry_of_no_guard free
  have turn : Turn system (system.enter call key ticket next)
        ⟨call, some key, .entered⟩ := by
    unfold System.enter
    rw [coherent.sound.enter_eq stands owning]
    refine coherent.turn_setStage (by simp [phase, Phase.ticket?]) stands ?_
      (fun _ _ => rfl) ⟨rfl, rfl⟩
    intro other claimed otherRest _ inside
    obtain ⟨keeps, otherStands⟩ := coherent.stands_of_inside inside
    exact free claimed keeps otherStands
  have guarding : (system.enter call key ticket next).locks.Stands ticket key
        (.guard false) := by
    rw [System.enter, System.locks_go, coherent.sound.enter_eq stands owning,
      coherent.sound.stands_setStage stands]
    exact .inr ⟨rfl, rfl, rfl⟩
  have sound : (system.enter call key ticket next).locks.Sound :=
    coherent.sound.enter ticket
  have view : (system.enter call key ticket next).view key =
        (system.view key).enter call key := by
    unfold System.view View.enter
    rw [sound.keepsEntry_of_stands guarding, noEntry,
      System.under_eq turn.trace rfl]
    rfl
  refine turn.coherent coherent sound ?_ ?_ ?_ ⟨key, rfl, enters⟩ (by simp)
  · have entered : (system.enter call key ticket next).phase call =
          .inside key ticket (next ticket) :=
      System.phase_go_self _ _ _
    refine (ready_inside_iff entered).mpr ⟨enters, ⟨false, guarding⟩, ?_⟩
    have following :=
      abides (system.view key) idle noEntry (system.under_filter_call key call)
    rw [← view, ← System.own_eq turn.trace] at following
    exact following
  · rintro name ⟨rfl⟩ unguarded
    exact absurd guarding (unguarded ticket false)
  · exact coherent.entry_setStage stands (coherent.sound.enter_eq stands owning)
      turn.trace rfl

theorem view_respond {after : System} {keeps : Bool}
    {circumstances : Circumstances} {request : Engine.Request}
    (isAbout : IsAbout key ticket request)
    (sameStore : after.store = (circumstances.answer system.store request).1)
    (keepsEntry : after.locks.keepsEntry key = keepsAfter keeps request)
    (was : system.locks.keepsEntry key = keeps)
    (trace : after.trace = system.trace ++ [⟨call, some key,
      .answered request (circumstances.answer system.store request).2⟩]) :
    (after.view key, (circumstances.answer system.store request).2) =
      (system.view key).respond circumstances system.store.refusal? call
        key request := by
  obtain ⟨sameAnswer, sameGroup⟩ :=
    answer_of_isAbout circumstances system.store isAbout
  unfold View.respond System.view
  simp only [sameStore, sameGroup, keepsEntry, was, sameAnswer,
    System.under_eq trace rfl]

theorem about (coherent : Coherent discipline system) {request : Engine.Request}
    {next : request.Answer → Call Result}
    (phase : system.phase call = .inside key ticket (Program.ask request next))
    (isAbout : IsAbout key ticket request)
    (allowed : discipline.allows key (system.under key) request)
    (going : ∀ refusal, MayRefuse discipline.capacity refusal → ∀ visit answer,
      (visit, answer) = Visit.respond ⟨system.own call,
        system.view key⟩ (discipline.environment call (system.own call).length)
          refusal call key request →
        discipline.Abides call
          (.inside key ticket visit.view) visit.own (next answer)) :
    Coherent discipline (system.respond
      (discipline.environment call (system.own call).length) call (some key)
      request fun answer => .inside key ticket (next answer)) := by
  obtain ⟨keeps, stands⟩ := coherent.stands_of_inside phase
  generalize discipline.environment call (system.own call).length =
    circumstances at going ⊢
  have settled := System.settle_eq coherent.sound stands isAbout
  rw [System.respond_eq, settled]
  set after := System.go _ _ _ with afterEquality
  have turn : Turn system after ⟨call, some key,
      .answered request (circumstances.answer system.store request).2⟩ := by
    refine coherent.turn_setStage (by simp [phase, Phase.ticket?]) stands ?_
      (fun name different => get?_answer_of_ne isAbout different)
      (answer_frame isAbout)
    intro other claimed otherRest different otherPhase
    exact different (coherent.alone_of_inside phase otherPhase)
  have sound : after.locks.Sound :=
    coherent.sound.setStage_guard (coherent.sound.isGuard_of_stands stands)
  have guarding :
      after.locks.Stands ticket key (.guard (keepsAfter keeps request)) :=
    (coherent.sound.stands_setStage stands).mpr (.inr ⟨rfl, rfl, rfl⟩)
  have view := view_respond isAbout rfl (sound.keepsEntry_of_stands guarding)
    (coherent.sound.keepsEntry_of_stands stands) turn.trace
  refine turn.coherent coherent sound ?_ ?_ ?_ allowed (by simp)
  · have enters := coherent.enters_of_inside phase
    refine (ready_inside_iff (System.phase_go_self _ _ _)).mpr
      ⟨enters, ⟨_, guarding⟩, ?_⟩
    refine going system.store.refusal? ?_ ⟨after.own call, after.view key⟩ _ ?_
    · rw [← coherent.capacity]
      exact mayRefuse_refusal? system.store
    · unfold Visit.respond
      rw [← view]
      simp only [System.own_eq turn.trace]
  · rintro name ⟨rfl⟩ unguarded
    exact absurd guarding (unguarded ticket _)
  · exact coherent.entry_setStage stands rfl turn.trace rfl

theorem entryStays_append (events : List Event) (event : Event) :
    entryStays (events ++ [event]) =
      match event.act with
      | .left keepsEntry _ => keepsEntry
      | _ => entryStays events := by
  cases act : event.act <;> simp [entryStays, act]

theorem turn_leave (coherent : Coherent discipline system) {keeps : Bool}
    {next : Unit → Call Result}
    (phase : system.phase call =
      .inside key ticket (Program.ask (.unlock ticket) next))
    (stands : system.locks.Stands ticket key (.guard keeps)) :
    Turn system (system.leave call key ticket (next ())) ⟨call,
      some key, .left (system.locks.keepsEntry key) (result? (next ()))⟩ := by
  have found : (system.phase call).ticket? = some ticket := by
    simp [phase, Phase.ticket?]
  have releases : ∀ other name stage,
      (system.locks.release ticket).Stands other name stage ↔
        other ≠ ticket ∧ system.locks.Stands other name stage :=
    fun other name stage => coherent.sound.stands_release stands
  exact
    { trace := rfl
      phase := fun other different => System.phase_go_of_ne _ _ different
      unfinished := by simp [phase]
      get? := fun name different => rfl
      capacity := rfl
      subscribers := rfl
      stands := by
        intro other claimed name stage different otherFound
        refine (releases claimed name stage).trans (and_iff_right ?_)
        rintro rfl
        exact different (coherent.distinct other call claimed otherFound found)
      guards := by
        intro name different claimed otherKeeps
        refine (releases claimed name _).trans (and_iff_right_of_imp ?_)
        rintro otherStands rfl
        obtain ⟨rfl, -⟩ := coherent.sound.stage_unique stands otherStands
        exact different rfl
      alone := by
        rintro other name claimed otherRest different otherPhase ⟨rfl⟩
        exact different (coherent.alone_of_inside phase otherPhase)
      ticket := by
        intro claimed mine
        simp [System.leave, System.go, Phase.ticket?] at mine
      claimed := by
        intro claimed name stage otherStands
        obtain ⟨different, past⟩ := (releases _ _ _).mp otherStands
        refine .inr (coherent.claimed_by_other past ?_)
        rw [found]
        exact fun same => different (Option.some.inj same).symm }

theorem leave (coherent : Coherent discipline system)
    {next : Unit → Call Result}
    (phase : system.phase call =
      .inside key ticket (Program.ask (.unlock ticket) next))
    (left : discipline.idle
      key ((system.view key).leave call key (result? (next ()))))
    (going :
      discipline.Abides call .outside (system.own call ++ [⟨call, some key,
        .left (system.view key).keepsEntry (result? (next ()))⟩]) (next ())) :
    Coherent discipline (system.leave call key ticket (next ())) := by
  obtain ⟨keeps, stands⟩ := coherent.stands_of_inside phase
  have releases : ∀ other name stage,
      (system.locks.release ticket).Stands other name stage ↔
        other ≠ ticket ∧ system.locks.Stands other name stage :=
    fun other name stage => coherent.sound.stands_release stands
  have unguarded : ∀ other otherKeeps,
      ¬ (system.locks.release ticket).Stands other key (.guard otherKeeps) := by
    intro other otherKeeps otherStands
    obtain ⟨different, past⟩ := (releases _ _ _).mp otherStands
    exact different (coherent.sound.guard_ticket_unique past stands)
  have turn := coherent.turn_leave phase stands
  have view : (system.leave call key ticket (next ())).view key =
      (system.view key).leave call key (result? (next ())) := by
    unfold System.view View.leave
    rw [System.under_eq turn.trace rfl]
    simp only [View.mk.injEq, and_true]
    exact ⟨rfl, LockTable.keepsEntry_of_no_guard unguarded⟩
  refine turn.coherent coherent (coherent.sound.release ticket) ?_
    ?_ ?_ trivial ?_
  · have outside : (system.leave call key ticket (next ())).phase call =
          .outside (next ()) :=
      System.phase_go_self _ _ _
    apply (ready_outside_iff outside).mpr
    have own := System.own_eq turn.trace
    simp only at own
    rw [own]
    exact going
  · rintro name ⟨rfl⟩ _
    rw [view]
    exact left
  · intro name unclaimed
    by_cases same : name = key
    · subst same
      rw [System.under_eq turn.trace rfl, entryStays_append]
      simp only [coherent.sound.keepsEntry_of_stands stands]
      exact coherent.sound.contains_release_self stands unclaimed
    · rw [System.under_eq_of_ne turn.trace (by simp [Ne.symm same])]
      refine (coherent.sound.contains_release_of_ne stands same).trans
        (coherent.entry name ?_)
      intro other stage past
      refine unclaimed other stage ((releases other name stage).mpr ⟨?_, past⟩)
      rintro rfl
      exact same (coherent.sound.stage_unique past stands).1
  · intro keepsEntry result leaves
    have come : result? (next ()) = some result := (Act.left.inj leaves).2
    rw [← eq_done_of_result? come]
    exact System.phase_go_self _ _ _

theorem turn_ask (coherent : Coherent discipline system)
    {next : Nat → Call Result}
    (phase : system.phase call = .outside (Program.ask (.lock key) next)) :
    Turn system (system.ask call key next) ⟨call, none, .asked key⟩ where
  trace := rfl
  phase := fun other different => System.phase_go_of_ne _ _ different
  unfinished := by simp [phase]
  get? := fun name different => rfl
  capacity := rfl
  subscribers := rfl
  stands := by
    intro other claimed name stage different otherFound
    refine LockTable.stands_join.trans (or_iff_left ?_)
    rintro ⟨rfl, -⟩
    exact Nat.lt_irrefl _ (coherent.ticket_issued otherFound)
  guards := by
    intro name different claimed keeps
    refine LockTable.stands_join.trans (or_iff_left ?_)
    rintro ⟨-, -, stage⟩
    simp at stage
  alone := by
    intro other name claimed otherRest different otherPhase
    simp
  ticket := by
    intro claimed mine
    refine .inr ?_
    simpa [System.ask, System.go, Phase.ticket?] using mine.symm
  claimed := by
    intro claimed name stage stands
    rcases LockTable.stands_join.mp stands with past | ⟨rfl, -, -⟩
    · refine .inr (coherent.claimed_by_other past ?_)
      simp [phase, Phase.ticket?]
    · exact .inl (by simp [System.ask, System.go, Phase.ticket?])

theorem ask (coherent : Coherent discipline system) {next : Nat → Call Result}
    (phase : system.phase call = .outside (Program.ask (.lock key) next))
    (enters : discipline.enters call key)
    (entering : ∀ ticket view, discipline.idle key view →
      view.keepsEntry = false →
      (view.events.filter fun event => event.call = call) =
        ((system.own call).filter fun event => event.key = some key) →
      discipline.Abides call (.inside key ticket (view.enter call key))
        (system.own call ++ [⟨call, none, .asked key⟩] ++
          [⟨call, some key, .entered⟩]) (next ticket)) :
    Coherent discipline (system.ask call key next) := by
  have turn := coherent.turn_ask phase
  refine turn.coherent coherent (coherent.sound.join key) ?_ (by simp) ?_
    trivial (by simp)
  · have waiting : (system.ask call key next).phase call = .waiting key
        (system.locks.join key).2 next := System.phase_go_self _ _ _
    refine (ready_waiting_iff waiting).mpr ⟨enters, ?_, ?_⟩
    · exact LockTable.stands_join.mpr
        (.inr ⟨system.locks.ticket_join key, rfl, rfl⟩)
    · intro view idle free same
      have own := System.own_eq turn.trace
      simp only at own
      rw [own] at same ⊢
      apply entering _ view idle free
      simpa [List.filter_append] using same
  · intro name unclaimed
    rw [System.under_eq_of_ne turn.trace (by simp)]
    have apart : name ≠ key := by
      rintro rfl
      exact unclaimed _ _ (LockTable.stands_join.mpr (.inr ⟨rfl, rfl, rfl⟩))
    apply LockTable.contains_join.trans
    simp only [apart, decide_false, Bool.false_or]
    exact coherent.entry name fun other stage past =>
      unclaimed other stage (LockTable.stands_join.mpr (.inl past))

theorem answer_of_isAside {circumstances : Circumstances} {store : Store}
    {request : Engine.Request} (isAside : IsAside request) :
    (circumstances.answer store request).1 = store := by
  cases request with
  | survey timeout => rfl
  | log event => rfl
  | _ => exact isAside.elim

theorem settle_of_isAside {locks : LockTable} {request : Engine.Request}
    (isAside : IsAside request) : System.settle locks request = locks := by
  cases request with
  | survey timeout => rfl
  | log event => rfl
  | _ => exact isAside.elim

theorem turn_aside (coherent : Coherent discipline system)
    {request : Engine.Request} {next : request.Answer → Call Result}
    (circumstances : Circumstances)
    (phase : system.phase call = .outside (Program.ask request next))
    (isAside : IsAside request) :
    Turn system (system.respond circumstances call none request
      fun answer => .outside (next answer)) ⟨call, none,
        .answered request (circumstances.answer system.store request).2⟩ := by
  rw [System.respond_eq, answer_of_isAside isAside, settle_of_isAside isAside]
  exact
    { trace := rfl
      phase := fun other different => System.phase_go_of_ne _ _ different
      unfinished := by simp [phase]
      get? := fun name different => rfl
      capacity := rfl
      subscribers := rfl
      stands := fun other claimed name stage different otherFound => Iff.rfl
      guards := fun name different claimed keeps => Iff.rfl
      alone := by
        intro other name claimed otherRest different otherPhase
        simp
      ticket := by
        intro claimed mine
        simp [System.go, Phase.ticket?] at mine
      claimed := by
        intro claimed name stage stands
        refine .inr (coherent.claimed_by_other stands ?_)
        simp [phase, Phase.ticket?] }

theorem aside (coherent : Coherent discipline system) {request : Engine.Request}
    {next : request.Answer → Call Result} {circumstances : Circumstances}
    (phase : system.phase call = .outside (Program.ask request next))
    (isAside : IsAside request)
    (going : discipline.Abides call .outside (system.own call ++ [⟨call,
      none, .answered request (circumstances.answer system.store request).2⟩])
        (next (circumstances.answer system.store request).2)) :
    Coherent discipline (system.respond circumstances call none request
      fun answer => .outside (next answer)) := by
  have turn := coherent.turn_aside circumstances phase isAside
  rw [System.respond_eq, answer_of_isAside isAside,
    settle_of_isAside isAside] at turn ⊢
  refine turn.coherent coherent coherent.sound ?_ (by simp) ?_ isAside (by simp)
  · apply (ready_outside_iff (System.phase_go_self _ _ _)).mpr
    have own := System.own_eq turn.trace
    simp only at own
    rw [own]
    exact going
  · intro name unclaimed
    rw [System.under_eq_of_ne turn.trace (by simp)]
    exact coherent.entry name unclaimed

theorem advance (coherent : Coherent discipline system) (call : Nat) :
    Coherent discipline (system.advance discipline.environment call) := by
  have ready := coherent.ready call
  cases phase : system.phase call with
  | outside rest =>
      have abides := (ready_outside_iff phase).mp ready
      cases abides with
      | done ends => simpa only [System.advance, phase] using coherent
      | lock enters entering =>
          rw [System.advance_ask phase]
          exact coherent.ask phase enters entering
      | aside isAside going =>
          rw [System.advance_aside phase isAside]
          exact coherent.aside phase isAside
            (going system.store coherent.subscribers _ rfl)
  | waiting key ticket next =>
      rw [System.advance_waiting phase]
      split
      · exact coherent.enter phase ‹_›
      · exact coherent
  | inside key ticket rest =>
      have abides := ((ready_inside_iff phase).mp ready).2.2
      cases abides with
      | unlock left going =>
          rw [System.advance_leave phase]
          exact coherent.leave phase left going
      | about isAbout allowed going =>
          rw [System.advance_about phase isAbout]
          exact coherent.about phase isAbout allowed going

theorem run (coherent : Coherent discipline system) (schedule : List Nat) :
    Coherent discipline (system.run discipline.environment schedule) := by
  induction schedule generalizing system with
  | nil => exact coherent
  | cons call rest induction => exact induction (coherent.advance call)

/-- A system is coherent at the start if every program abides by the discipline,
which holds of a key of which there is nothing yet. -/
theorem start {program : Nat → Call Result}
    (idle : ∀ key, discipline.idle key .start)
    (abides : ∀ call, discipline.Abides call .outside [] (program call)) :
    Coherent discipline (System.start discipline.capacity program) where
  sound := LockTable.empty_sound
  capacity := rfl
  subscribers := rfl
  ready := fun call => (ready_outside_iff rfl).mpr (abides call)
  claimed := by
    rintro ticket key stage ⟨mutex, member⟩
    simp [System.start, LockTable.empty] at member
  distinct := by
    intro left right ticket found
    simp [System.start, Phase.ticket?] at found
  idle := fun key _ => idle key
  entry := fun key _ => rfl
  admitted := by simp [System.start]
  settled := by simp [System.start]

end Coherent

end Collate.Interleaving
