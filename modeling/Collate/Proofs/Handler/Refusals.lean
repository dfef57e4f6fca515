import Collate.Proofs.Handler.Tidiness

namespace Collate

theorem Store.canAdd_load_iff {store : Store} {key : Key} {message : Message}
    {generation : Nat} {time : Int} :
    (store.load key generation time).canAdd message = true ↔
    ∀ group, store.get? key = some group → group.canAdd message = true := by
  unfold load
  cases store.get? key with
  | none => simp [Group.canAdd, Group.empty, Group.isEmpty]
  | some stored => simp

theorem Store.Sound.hasRoom_eq_false_iff {store : Store} (sound : store.Sound) :
    store.hasRoom = false ↔
    store.capacity ≠ 0 ∧ store.held = store.capacity := by
  have counted := sound.counted
  have bounded := sound.bounded
  simp only [hasRoom, Bool.or_eq_false_iff, decide_eq_false_iff_not, not_lt]
  refine and_congr_right fun finite => ?_
  have within := bounded finite
  omega

namespace LockTable

variable {table : LockTable}

theorem claims_eq_nil
    (unclaimed : ∀ ticket key stage, ¬ table.Stands ticket key stage) :
    table.claims = [] :=
  List.eq_nil_iff_forall_not_mem.mpr fun claim member =>
    unclaimed claim.ticket claim.key claim.stage ⟨claim.mutex, member⟩

theorem entries_release_join (key : Key) (unclaimed : table.claims = []) :
    let entered := (table.join key).1.enter (table.join key).2
    ((if table.contains key then entered.retain (table.join key).2
      else entered).release (table.join key).2).entries = table.entries := by
  intro entered
  have entered_eq : entered = { (table.join key).1 with
      claims := [{ table.newClaim key with stage := .guard false }] } := by
    simp [entered, enter, isOwner, isGuard, claim?, owner?, setStage,
      unclaimed, newClaim]
  have ticket : (table.join key).2 = (table.newClaim key).ticket :=
    ticket_join table key
  rw [entered_eq, ticket]
  cases found : Assoc.get? key table.entries with
  | some mutex =>
      have held : table.contains key = true := by simp [contains, found]
      have same : (table.mutexFor key).1 = table := by simp [mutexFor, found]
      simp [held, retain, isGuard, claim?, setStage, release, withdraw, same]
  | none =>
      have absent : table.contains key = false := by simp [contains, found]
      have made : (table.mutexFor key).1.entries =
            table.entries ++ [(key, table.nextMutex)] := by
        simp [mutexFor, found]
      have erased : Assoc.erase key
            (table.entries ++ [(key, table.nextMutex)]) = table.entries := by
        refine Eq.trans ?_
          (Assoc.erase_of_not_mem (Assoc.get?_eq_none_iff.mp found))
        simp [Assoc.erase]
      simp [absent, claim?, release, withdraw, reclaim, isReclaimable,
        isClaimed, newClaim, made, Assoc.get?_append, found, Assoc.get?, erased]

end LockTable

namespace Interleaving

/-- Whether a question is for the store, the locks or the log, and takes nothing
away. -/
def IsModest : Engine.Request → Prop
  | .load _ => True
  | .add _ _ => True
  | .retain _ => True
  | .log _ => True
  | _ => False

def overfull (capacity : Nat) (key : Key) (message : Message) : Inquiry :=
  ⟨.add key message, .error (.storeFull capacity)⟩

namespace Calm

variable {circumstances : Nat → Circumstances} {calm : Calm} {handler : Handler}
  {ticket : Nat} {key : Key} {message : Message} {group : Group}

/-- A program declines a message for want of room, and all that it has done is
to settle what is to become of an entry. -/
structure Declines (circumstances : Nat → Circumstances)
    (program : Call (Except Error Unit)) (calm : Calm) (key : Key)
    (message : Message) (locks : LockTable) : Prop where
  result :
    (run circumstances program calm).1 = .error (.storeFull calm.store.capacity)
  store : (run circumstances program calm).2.store = calm.store
  locks : (run circumstances program calm).2.locks = locks
  refused : overfull calm.store.capacity key message ∈
      inquiries circumstances program calm
  modest :
    ∀ inquiry ∈ inquiries circumstances program calm, IsModest inquiry.request

theorem Declines.ask {request : Engine.Request}
    {next : request.Answer → Call (Except Error Unit)}
    {locks : LockTable} (modest : IsModest request)
    (store : (answer circumstances request calm).2.store = calm.store)
    (declines : Declines circumstances (next (answer circumstances request
      calm).1) (answer circumstances request calm).2 key message locks) :
    Declines circumstances (Program.ask request next) calm key
      message locks where
  result := by rw [run_ask, declines.result, store]
  store := by rw [run_ask, declines.store, store]
  locks := declines.locks
  refused := by
    have refused := declines.refused
    rw [store] at refused
    exact List.mem_append_right _ refused
  modest := by
    intro inquiry member
    rcases List.mem_append.mp member with now | later
    · cases request <;> first
        | exact modest.elim
        | exact List.mem_singleton.mp now ▸ trivial
    · exact declines.modest inquiry later

section Working

variable (works : ∀ turn, (circumstances turn).fault = none)

include works

theorem answer_load (key : Key) :
    answer circumstances (.load key) calm = (.ok (calm.store.load
      key (circumstances calm.turn).generation (circumstances calm.turn).time),
      { calm with turn := calm.turn + 1 }) := by
  simp [answer, Circumstances.answer, Circumstances.unlessFault,
    works, System.settle]

theorem declines_enroll (full : calm.store.hasRoom = false) :
    Declines circumstances (handler.enroll ticket key message) calm key message
      calm.locks := by
  have answered : answer circumstances (.add key message) calm =
        (.error (.storeFull calm.store.capacity),
          { calm with turn := calm.turn + 1 }) := by
    simp [answer, Circumstances.answer, Circumstances.unlessFault, works,
      Store.add, full, System.settle]
  have ran : run circumstances (handler.enroll ticket key message) calm =
        (.error (.storeFull calm.store.capacity),
          { calm with turn := calm.turn + 1 }) := by
    rw [Handler.enroll_eq, Call.ask, Program.bind_ask, run_ask, answered]
    rfl
  have told : inquiries circumstances (handler.enroll ticket key message) calm =
      [overfull calm.store.capacity key message] := by
    rw [Handler.enroll_eq, Call.ask, Program.bind_ask, inquiries, answered]
    rfl
  constructor
  · rw [ran]
  · rw [ran]
  · rw [ran]
  · rw [told]
    exact List.mem_singleton_self _
  · rw [told]
    exact fun inquiry member => List.mem_singleton.mp member ▸ trivial

theorem declines_place (admits : group.canAdd message = true)
    (full : calm.store.hasRoom = false) :
    Declines circumstances
      (handler.place ticket key message group) calm key message
      (if group.isEmpty then calm.locks else calm.locks.retain ticket) := by
  unfold Handler.place
  cases group.isEmpty with
  | true => simpa [admits] using declines_enroll works full
  | false =>
      simp only [admits, Bool.not_false, if_true, Call.ask, Program.bind_eq,
        Program.bind_ask]
      exact .ask trivial rfl (declines_enroll works full)

theorem declines_receive (admits : ∀ group, calm.store.get? key = some group →
      group.canAdd message = true) (proper : IsProper key (calm.store.get? key))
    (full : calm.store.hasRoom = false) :
    Declines circumstances (handler.receive ticket key message) calm
      key message (if (calm.store.get? key).isSome then calm.locks.retain ticket
        else calm.locks) := by
  set loaded := { calm with turn := calm.turn + 1 }
  set group := calm.store.load key (circumstances calm.turn).generation
      (circumstances calm.turn).time
  have answered : answer circumstances (.load key) calm = (.ok group, loaded) :=
    answer_load works key
  have isEmpty : group.isEmpty = !(calm.store.get? key).isSome :=
    proper.isEmpty_getD _ _
  have placed : Declines circumstances (handler.place ticket key message group)
        loaded key message
        (if group.isEmpty then calm.locks else calm.locks.retain ticket) :=
    declines_place works (Store.canAdd_load_iff.mpr admits) full
  rw [Handler.receive_eq, Call.ask, Program.bind_ask]
  refine .ask trivial (by rw [answered]) ?_
  rw [answered]
  rw [isEmpty] at placed
  cases held : (calm.store.get? key).isSome with
  | true => simpa [held] using placed
  | false => simpa [held] using placed

omit works in
theorem not_mem_of_addsNothing {α : Type} {capacity : Nat} {name : Key}
    {other : Message} {program : Call α} (asks : Asks AddsNothing program) :
    overfull capacity name other ∉ inquiries circumstances program calm :=
  fun member => kind_of_mem_inquiries circumstances calm asks _ member

theorem full_of_refused_enroll {capacity : Nat} {name : Key} {other : Message}
    (refused : overfull capacity name other ∈
      inquiries circumstances (handler.enroll ticket key message) calm) :
    calm.store.hasRoom = false := by
  by_contra room
  rw [Bool.not_eq_false] at room
  have answered : ∃ group,
      (answer circumstances (.add key message) calm).1 = .ok group := by
    simp [answer, Circumstances.answer, Circumstances.unlessFault, works,
      Store.add, room]
  obtain ⟨group, answered⟩ := answered
  rw [Handler.enroll_eq, Call.ask, Program.bind_ask, inquiries, answered]
    at refused
  rcases List.mem_append.mp refused with now | later
  · cases List.mem_singleton.mp now
  · refine not_mem_of_addsNothing ?_ later
    exact (Discipline.asks_settle handler ticket key message group).mono
      addsNothing_of_isSettling

theorem full_of_refused_place {capacity : Nat} {name : Key} {other : Message}
    (refused : overfull capacity name other ∈
      inquiries circumstances (handler.place ticket key message group) calm) :
    group.canAdd message = true ∧ calm.store.hasRoom = false := by
  cases admits : group.canAdd message with
  | false =>
      refine absurd refused (not_mem_of_addsNothing ?_)
      have rejects : Asks AddsNothing (do
          Call.log (.rejected key message)
          handler.discard key message) :=
        asks_ask_bind.mpr ⟨trivial, fun _ =>
          (Discipline.asks_discard handler key message).mono
            fun request apart =>
              addsNothing_of_isSettling request
                (isSettling_of_isApart request apart)⟩
      unfold Handler.place
      cases group.isEmpty with
      | true => simpa [admits] using rejects
      | false =>
          simpa [admits] using asks_ask_bind.mpr ⟨trivial, fun _ => rejects⟩
  | true =>
      refine ⟨rfl, ?_⟩
      unfold Handler.place at refused
      cases empty : group.isEmpty with
      | true =>
          simp only [empty, admits, Bool.not_true, Bool.false_eq_true, if_false,
            if_true, Program.bind_eq] at refused
          exact full_of_refused_enroll works refused
      | false =>
          simp only [empty, admits, Bool.not_false, if_true, Call.ask,
            Program.bind_eq, Program.bind_ask, Program.bind_done] at refused
          rcases List.mem_append.mp refused with now | later
          · cases List.mem_singleton.mp now
          · have room : (answer circumstances (.retain ticket)
                calm).2.store.hasRoom = false :=
              full_of_refused_enroll works later
            exact room

theorem full_of_refused_receive {capacity : Nat} {name : Key} {other : Message}
    (refused : overfull capacity name other ∈
      inquiries circumstances (handler.receive ticket key message) calm) :
    (∀ group, calm.store.get? key = some group → group.canAdd message = true) ∧
      calm.store.hasRoom = false := by
  rw [Handler.receive_eq, Call.ask, Program.bind_ask, inquiries,
    answer_load works] at refused
  rcases List.mem_append.mp refused with now | later
  · cases List.mem_singleton.mp now
  · obtain ⟨admits, full⟩ := full_of_refused_place works later
    exact ⟨Store.canAdd_load_iff.mp admits, full⟩

structure Passes (circumstances : Nat → Circumstances) (program : Call Result)
    (calm : Calm) (result : Result) : Prop where
  result : (run circumstances program calm).1 = result
  store : (run circumstances program calm).2.store = calm.store
  entries :
    (run circumstances program calm).2.locks.entries = calm.locks.entries
  modest :
    ∀ inquiry ∈ inquiries circumstances program calm, IsModest inquiry.request

omit works in
theorem passes_without_key (uncorrelated : handler.correlation message = none) :
    Passes circumstances ((Invocation.handle message).program handler) calm
      (.handled (.error (.missingKey message.id.text))) := by
  rw [program_handle_none uncorrelated]
  refine ⟨rfl, rfl, rfl, fun inquiry member => ?_⟩
  exact List.mem_singleton.mp member ▸ trivial

omit works in
theorem inquiries_handle (correlated : handler.correlation message = some key) :
    inquiries circumstances ((Invocation.handle message).program handler) calm =
      inquiries circumstances (handler.receive (calm.locks.join key).2 key
        message) (answer circumstances (.lock key) calm).2 := by
  rw [program_handle_some correlated, inquiries_bind, inquiries_locked]
  exact List.append_nil _

theorem passes_without_room (tidy : Tidy calm.store calm.locks)
    (correlated : handler.correlation message = some key)
    (admits : ∀ group, calm.store.get? key = some group →
      group.canAdd message = true) (full : calm.store.hasRoom = false) :
    overfull calm.store.capacity key message ∈ inquiries circumstances
      ((Invocation.handle message).program handler) calm ∧
    Passes circumstances ((Invocation.handle message).program handler) calm
      (.handled (.error (.storeFull calm.store.capacity))) := by
  set ticket := (calm.locks.join key).2
  set entered := (answer circumstances (.lock key) calm).2
  have declines : Declines circumstances (handler.receive ticket key message)
        entered key message
        (if (calm.store.get? key).isSome then entered.locks.retain ticket
        else entered.locks) :=
    declines_receive works admits (tidy.isProper key) full
  have entries :=
    LockTable.entries_release_join key (LockTable.claims_eq_nil tidy.unclaimed)
  rw [tidy.agrees] at entries
  refine ⟨?_, ?_, ?_, ?_, ?_⟩
  · rw [inquiries_handle correlated]
    exact declines.refused
  · rw [program_handle_some correlated, run_bind, run_locked, declines.result]
    rfl
  · rw [program_handle_some correlated, run_bind, run_locked]
    exact declines.store
  · rw [program_handle_some correlated, run_bind, run_locked, ← entries]
    show ((run circumstances _ _).2.locks.release ticket).entries = _
    rw [declines.locks]
    rfl
  · rw [inquiries_handle correlated]
    exact declines.modest

theorem refused_iff (tidy : Tidy calm.store calm.locks) :
    (∃ name,
      overfull calm.store.capacity name message ∈ inquiries circumstances
        ((Invocation.handle message).program handler) calm) ↔
    ∃ key, handler.correlation message = some key ∧
      (∀ group, calm.store.get? key = some group →
        group.canAdd message = true) ∧
      calm.store.hasRoom = false := by
  cases correlated : handler.correlation message with
  | none =>
      have asks :
          Asks AddsNothing ((Invocation.handle message).program handler) := by
        rw [program_handle_none correlated]
        exact ⟨trivial, fun _ => trivial⟩
      refine iff_of_false ?_ (by simp)
      rintro ⟨name, refused⟩
      exact not_mem_of_addsNothing asks refused
  | some key =>
      constructor
      · rintro ⟨name, refused⟩
        rw [inquiries_handle correlated] at refused
        have full := full_of_refused_receive works refused
        exact ⟨key, rfl, full⟩
      · rintro ⟨name, same, admits, full⟩
        obtain rfl := Option.some.inj same
        exact ⟨key, (passes_without_room works tidy correlated admits full).1⟩

theorem passes_of_refused (tidy : Tidy calm.store calm.locks)
    (refused : ∃ name,
      overfull calm.store.capacity name message ∈ inquiries
        circumstances ((Invocation.handle message).program handler) calm) :
    Passes circumstances ((Invocation.handle message).program handler) calm
      (.handled (.error (.storeFull calm.store.capacity))) := by
  obtain ⟨key, correlated, admits, full⟩ := (refused_iff works tidy).mp refused
  exact (passes_without_room works tidy correlated admits full).2

end Working

end Calm

/-- Whether a call has left the store and the entries of the locks as they were,
and has asked nobody but these and the log. -/
structure Unmoved (before after : System) (call : Nat) : Prop where
  store : after.store = before.store
  entries : after.locks.entries = before.locks.entries
  modest : ∀ inquiry ∈ after.inquiries call, IsModest inquiry.request

theorem Coherent.comes_to_calm {discipline : Discipline} {before : System}
    {call : Nat} {program : Call Result} (coherent : Coherent discipline before)
    (free : ∀ other, (before.phase other).ticket? = none)
    (phase : before.phase call = .outside program)
    (unheard : before.inquiries call = []) : ∃ enough, ∀ turns, enough ≤ turns →
      let after := before.run discipline.environment (List.replicate turns call)
      let ran :=
        Calm.run (discipline.environment call) program (before.calm call)
      after.result? call = some ran.1 ∧ after.calm call = ran.2 ∧
        after.inquiries call = Calm.inquiries (discipline.environment call)
          program (before.calm call) := by
  obtain ⟨enough, ended, calm, inquired⟩ :=
    coherent.run_calm (fun other _ => free other) (.inl phase)
  refine ⟨enough, fun turns late => ?_⟩
  obtain ⟨more, rfl⟩ := Nat.exists_eq_add_of_le late
  rw [List.replicate_add, System.run_append, System.run_replicate_done ended]
  rw [unheard] at inquired
  exact ⟨System.result?_of_phase ended, calm, inquired⟩

theorem Calm.Passes.unmoved {circumstances : Nat → Circumstances}
    {before after : System}
    {call : Nat} {program : Call Result} {result : Result}
    (passes : Passes circumstances program (before.calm call) result)
    (calm : after.calm call = (run circumstances program (before.calm call)).2)
    (told : after.inquiries call = inquiries circumstances program
      (before.calm call)) : Unmoved before after call where
  store := (congrArg Calm.store calm).trans passes.store
  entries :=
    (congrArg (fun calm : Calm => calm.locks.entries) calm).trans passes.entries
  modest := by
    rw [told]
    exact passes.modest

/-- A message that comes to a handler with which no call is busy is refused for
want of room exactly if it has a key, its group would have it, and the stored
groups hold as many messages as the store may. A message that is refused, and
one without a key, leaves the store and the locks as they were; neither the
policy nor the processor has been asked, and nothing has been sent. -/
theorem refused_leaves_all (handler : Handler) (capacity : Nat)
    (environment : Environment) (calls : Nat → Invocation)
    (works : ∀ call turn, (environment call turn).fault = none)
    (past : List Nat) (call : Nat) (unbegun : call ∉ past) (message : Message)
    (brings : calls call = .handle message) :
    let before :=
      (System.start capacity fun call => (calls call).program handler).run
        environment past
    (∀ other ∈ past, (before.result? other).isSome) →
      ∃ enough, ∀ turns, enough ≤ turns →
        let after := before.run environment (List.replicate turns call)
        let refused :=
          ∃ key, overfull capacity key message ∈ after.inquiries call
        (after.result? call).isSome ∧
          (handler.correlation message = none →
            after.result? call =
              some (.handled (.error (.missingKey message.id.text))) ∧
            Unmoved before after call) ∧
          (refused → after.result? call =
            some (.handled (.error (.storeFull capacity))) ∧
            Unmoved before after call) ∧
          (refused ↔ ∃ key, handler.correlation message = some key ∧
            (∀ group, before.store.get? key = some group →
              group.canAdd message = true) ∧
            capacity ≠ 0 ∧ before.store.held = capacity) := by
  intro before rested
  have coherent : Coherent (agreeing capacity environment) before :=
    coherent_agreeing works past
  have free := System.free_of_finished rested
  have tidy : Tidy before.store before.locks :=
    tidy_run handler capacity environment calls works past free
  have phase : before.phase call =
        .outside ((Invocation.handle message).program handler) := by
    rw [← brings]
    exact System.phase_run_of_not_mem unbegun
  have unheard : before.inquiries call = [] := by
    unfold System.inquiries
    rw [System.own_run_of_not_mem unbegun]
    rfl
  have full_iff : before.store.hasRoom = false ↔
      capacity ≠ 0 ∧ before.store.held = capacity := by
    rw [tidy.proper.hasRoom_eq_false_iff, coherent.capacity]
    rfl
  obtain ⟨enough, comes⟩ := coherent.comes_to_calm free phase unheard
  refine ⟨enough, fun turns late => ?_⟩
  intro after refused
  set program := (Invocation.handle message).program handler
  obtain ⟨come, calm, told⟩ : after.result? call =
        some (Calm.run (environment call) program (before.calm call)).1 ∧
      after.calm call =
        (Calm.run (environment call) program (before.calm call)).2 ∧
      after.inquiries call =
        Calm.inquiries (environment call) program (before.calm call) :=
    comes turns late
  have passing : ∀ {result},
      Calm.Passes (environment call) program (before.calm call) result →
        after.result? call = some result ∧ Unmoved before after call :=
    fun passes =>
      ⟨come.trans (congrArg some passes.result), passes.unmoved calm told⟩
  have capacity_eq : (before.calm call).store.capacity = capacity :=
    coherent.capacity
  have heard : refused ↔
      ∃ key, overfull (before.calm call).store.capacity key message ∈
        Calm.inquiries (environment call) program (before.calm call) := by
    rw [capacity_eq, ← told]
  refine ⟨Option.isSome_iff_exists.mpr ⟨_, come⟩, fun uncorrelated => ?_,
    fun isRefused => ?_, ?_⟩
  · exact passing (Calm.passes_without_key uncorrelated)
  · have passes := Calm.passes_of_refused (works call) tidy (heard.mp isRefused)
    rw [capacity_eq] at passes
    exact passing passes
  · rw [heard, Calm.refused_iff (works call) tidy, ← full_iff]
    rfl

/-! Two messages of one key, where the store has room for one. -/

def occupied : System :=
  (System.start 1 fun call => (crowding call).program gatherer).run
    (fun _ _ => faltering) (List.replicate 8 0)

def refusing (turns : Nat) : System :=
  occupied.run (fun _ _ => faltering) (List.replicate turns 1)

theorem occupied_refuses :
    (∀ other ∈ List.replicate 8 0, (occupied.result? other).isSome) ∧
    occupied.store.held = 1 ∧ ∃ enough, ∀ turns, enough ≤ turns →
      (refusing turns).result? 1 = some (.handled (.error (.storeFull 1))) ∧
      Unmoved occupied (refusing turns) 1 := by
  have rested :
      ∀ other ∈ List.replicate 8 0, (occupied.result? other).isSome := by
    intro other member
    rw [List.eq_of_mem_replicate member]
    rfl
  have admits : ∀ group, occupied.store.get? ⟨"all"⟩ = some group →
      group.canAdd (numbered 1) = true := by
    rintro group ⟨rfl⟩
    rfl
  obtain ⟨enough, comes⟩ := refused_leaves_all gatherer 1 (fun _ _ => faltering)
      crowding (fun _ _ => rfl) (List.replicate 8 0) 1 (by decide)
      (numbered 1) rfl rested
  refine ⟨rested, rfl, enough, fun turns late => ?_⟩
  obtain ⟨-, -, unmoved, refused⟩ := comes turns late
  exact unmoved (refused.mpr ⟨⟨"all"⟩, rfl, admits, by decide, rfl⟩)

end Interleaving

end Collate
