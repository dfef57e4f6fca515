import Collate.Proofs.Handler.Agreement
import Collate.Proofs.Handler.Sight
import Collate.Proofs.Interleaving.Interruption

namespace Collate.Interleaving

variable {handler : Handler} {capacity : Nat} {environment : Environment}
  {system : System} {call : Nat} {key : Key}

section Withstanding

variable (works : ∀ call turn, (environment call turn).fault = none)

include works

theorem agreeing_withstands_forceComplete (seen : Group) (own : List Event)
    (rest : Except Error Bool → Call Result)
    (going : ∀ result own,
      (agreeing capacity environment).Withstands
        call .outside own (rest result)) :
    (agreeing capacity environment).Withstands call .outside own
      ((handler.forceComplete seen).bind rest) := by
  refine Discipline.withstands_locked trivial (fun _ => trivial)
    (fun visit (tied : Tied seen.key visit.view) => tied.leave _ _)
    fun ticket view idle unkept => ?_
  refine (Discipline.staysTied_finishSeen (fun _ _ => trivial) works idle.proper
    unkept rfl).imp fun result after tied => ?_
  exact ⟨tied.leave _ _, going result _⟩

theorem agreeing_withstands (invocation : Invocation) :
    (agreeing capacity environment).Withstands call .outside []
      (invocation.program handler) := by
  cases invocation with
  | handle message =>
      cases correlated : handler.correlation message with
      | none =>
          rw [program_handle_none correlated]
          exact Discipline.withstands_log (Discipline.withstands_done trivial)
      | some key =>
          rw [program_handle_some correlated]
          refine Discipline.withstands_locked trivial (fun _ => trivial)
            (fun visit (tied : Tied key visit.view) => tied.leave _ _)
            fun ticket view idle unkept => ?_
          refine (Discipline.staysTied_receive (fun _ _ => trivial) works
            idle.proper unkept message).imp fun result after tied => ?_
          exact ⟨tied.leave _ _, Discipline.withstands_done trivial⟩
  | forceComplete seen =>
      exact agreeing_withstands_forceComplete works seen [] _ fun result own =>
        Discipline.withstands_done trivial
  | expire timeout =>
      have rules : SweepRules environment call
          ((agreeing capacity environment).Withstands call .outside) :=
        { aside := fun _ _ _ isAside going =>
            Discipline.withstands_aside isAside going
          swept := fun _ _ => Discipline.withstands_done trivial }
      exact rules.sweep (agreeing_withstands_forceComplete works) timeout []

end Withstanding

theorem resilient_agreeing (handler : Handler) (capacity : Nat)
    (environment : Environment) (calls : Nat → Invocation)
    (works : ∀ call turn, (environment call turn).fault = none)
    (moves : List Move) :
    Resilient (agreeing capacity environment) ((System.start capacity
      fun call => (calls call).program handler).undergo environment moves) :=
  have start := Resilient.start (fun _ => agrees_start) fun call =>
    agreeing_withstands works (calls call)
  start.undergo moves

theorem Phase.key?_truncate (phase : Phase) (count : Nat) :
    (phase.truncate count).key? = phase.key? := by
  cases phase <;> rfl

/-- Whether a key is left as it has to be by all who had its lock: it has an
entry exactly if it has a group, its mutex is free, and whoever asks for the
lock next has it at once. -/
structure IsInOrder (system : System) (key : Key) : Prop where
  entry : system.locks.contains key = (system.store.get? key).isSome
  free : ∀ mutex, Assoc.get? key system.locks.entries = some mutex →
    system.locks.isClaimed mutex = false
  atOnce : (system.locks.join key).1.isOwner (system.locks.join key).2 = true

theorem Resilient.unclaimed {discipline : Discipline}
    (resilient : Resilient discipline system)
    (away : ∀ call, (system.phase call).key? ≠ some key) (ticket : Nat)
    (stage : Claim.Stage) : ¬ system.locks.Stands ticket key stage := by
  intro stands
  obtain ⟨call, busy⟩ := (resilient fun _ => 0).key?_of_stands stands
  rw [System.phase_truncate, Phase.key?_truncate] at busy
  exact away call busy

theorem Resilient.isInOrder
    (resilient : Resilient (agreeing capacity environment) system)
    (away : ∀ call, (system.phase call).key? ≠ some key) :
    IsInOrder system key := by
  have coherent :
      Coherent (agreeing capacity environment) (system.truncate fun _ => 0) :=
    resilient fun _ => 0
  have sound : system.locks.Sound := coherent.sound
  have unclaimed := resilient.unclaimed away
  constructor
  · exact coherent.contains_of_unclaimed unclaimed
  · intro mutex found
    apply Bool.eq_false_iff.mpr
    intro claimed
    obtain ⟨ticket, stage, stands⟩ := (sound.isClaimed_iff found).mp claimed
    exact unclaimed ticket stage stands
  · exact sound.isOwner_join unclaimed

theorem System.sound_undergo (sound : system.store.Sound) (moves : List Move) :
    (system.undergo environment moves).store.Sound := by
  induction moves generalizing system with
  | nil => exact sound
  | cons first rest induction =>
      apply induction
      cases first with
      | turn call => exact sound_advance sound call
      | drop call =>
          rw [move, store_drop]
          exact sound

def IsAdmission (request : Engine.Request) (answer : request.Answer) : Prop :=
  (⟨0, none, .answered request answer⟩ : Event).admits = true

def KeepsStore (request : Engine.Request) : Prop :=
  ∀ (circumstances : Circumstances) store,
    (circumstances.answer store request).1 = store

theorem IsApart.keepsStore {request : Engine.Request}
    (apart : IsApart request) :
    KeepsStore request := by
  intro circumstances store
  cases request <;> first | rfl | exact apart.elim

theorem keepsStore_load (key : Key) : KeepsStore (.load key) := by
  intro circumstances store
  cases fault : circumstances.fault <;>
    simp [Circumstances.answer, Circumstances.unlessFault, fault]

theorem keepsStore_retain (ticket : Nat) :
    KeepsStore (.retain ticket) := fun _ _ => rfl

/-- Whether a program leaves the store as it is as long as no message of it has
been stored. -/
def AdmitsFirst {α : Type} : Call α → Prop
  | Program.done _ => True
  | Program.ask request next =>
      (∀ (circumstances : Circumstances) store,
        ¬ IsAdmission request (circumstances.answer store request).2 →
        (circumstances.answer store request).1 = store) ∧
        ∀ answer, ¬ IsAdmission request answer → AdmitsFirst (next answer)

namespace AdmitsFirst

variable {α β : Type} {message : Message}

theorem bind {program : Call α} {next : α → Call β}
    (first : AdmitsFirst program) (second : ∀ value, AdmitsFirst (next value)) :
    AdmitsFirst (program.bind next) := by
  induction program with
  | done value => exact second value
  | ask request rest induction =>
      exact ⟨first.1,
        fun answer refused => induction answer (first.2 answer refused)⟩

theorem ask {request : Engine.Request} (keeps : KeepsStore request)
    {next : request.Answer → Call β}
    (going : ∀ answer, AdmitsFirst (next answer)) :
    AdmitsFirst ((Call.ask request).bind next) :=
  ⟨fun circumstances store _ => keeps circumstances store,
    fun answer _ => going answer⟩

theorem of_asks {program : Call α} (asks : Asks IsApart program) :
    AdmitsFirst program := by
  induction program with
  | done value => trivial
  | ask request next induction =>
      obtain ⟨apart, asks⟩ := asks
      exact ask apart.keepsStore fun answer => induction answer (asks answer)

theorem add (key : Key) (message : Message) {next : Except Error Group → Call β}
    (failing : ∀ error, AdmitsFirst (next (.error error))) :
    AdmitsFirst ((Call.ask (.add key message)).bind next) := by
  constructor
  · intro circumstances store refused
    simp only [Circumstances.answer, Circumstances.unlessFault] at refused ⊢
    cases fault : circumstances.fault with
    | some error => rfl
    | none =>
        simp only [fault] at refused ⊢
        cases added : store.add key message circumstances.generation
          circumstances.time with
        | error error => rfl
        | ok stored =>
            rw [added] at refused
            exact absurd rfl refused
  · intro answer refused
    cases answer with
    | error error => exact failing error
    | ok group => exact absurd rfl refused

theorem enroll (handler : Handler) (ticket : Nat) (key : Key)
    (message : Message) : AdmitsFirst (handler.enroll ticket key message) :=
  add key message fun _ => trivial

theorem place (handler : Handler) (ticket : Nat) (key : Key) (message : Message)
    (group : Group) : AdmitsFirst (handler.place ticket key message group) := by
  have going :
    AdmitsFirst (if group.canAdd message then handler.enroll ticket key message
      else do
        Call.log (.rejected key message)
        handler.discard key message) := by
    split
    · exact enroll handler ticket key message
    · exact of_asks (asks_ask_bind.mpr
        ⟨trivial, fun _ => Discipline.asks_discard handler key message⟩)
  unfold Handler.place
  dsimp only
  split
  · exact ask (keepsStore_retain ticket) fun _ => going
  · exact going

theorem receive (handler : Handler) (ticket : Nat) (key : Key)
    (message : Message) : AdmitsFirst (handler.receive ticket key message) := by
  rw [Handler.receive_eq]
  refine ask (keepsStore_load key) fun answer => ?_
  cases answer with
  | error error => trivial
  | ok group => exact place handler ticket key message group

theorem handle (correlated : handler.correlation message = some key) :
    AdmitsFirst ((Invocation.handle message).program handler) := by
  rw [program_handle_some correlated, Handler.locked]
  refine bind (ask (fun _ _ => rfl) fun ticket => ?_) fun _ => trivial
  refine bind (receive handler ticket key message) fun result => ?_
  exact ask (fun _ _ => rfl) fun _ => trivial

end AdmitsFirst

def Phase.AdmitsFirst : Phase → Prop
  | .outside rest => Interleaving.AdmitsFirst rest
  | .waiting _ _ next => ∀ ticket, Interleaving.AdmitsFirst (next ticket)
  | .inside _ _ rest => Interleaving.AdmitsFirst rest

def System.NoneAdmitted (system : System) (call : Nat) : Prop :=
  ∀ event ∈ system.own call, event.admits = false

namespace System

variable {after : System}

theorem NoneAdmitted.of_prefix (none : after.NoneAdmitted call)
    (extended : system.trace <+: after.trace) : system.NoneAdmitted call :=
  fun event member => none event ((extended.filter _).subset member)

theorem admitsFirst_respond {circumstances : Circumstances} {place : Option Key}
    {request : Engine.Request}
    {next : request.Answer → Call Result} {phase : Call Result → Phase}
    (admitsFirst : AdmitsFirst (Program.ask request next))
    (going : ∀ rest, AdmitsFirst rest → (phase rest).AdmitsFirst)
    (none : (system.respond circumstances call place request fun answer =>
      phase (next answer)).NoneAdmitted call) :
    ((system.respond circumstances call place request fun answer =>
      phase (next answer)).phase call).AdmitsFirst ∧
      (system.respond circumstances call place request fun answer =>
        phase (next answer)).store = system.store := by
  obtain ⟨keeps, later⟩ := admitsFirst
  have refused :
      ¬ IsAdmission request (circumstances.answer system.store request).2 := by
    have last := none ⟨call, place, .answered request (circumstances.answer
        system.store request).2⟩ (by simp [own, respond_eq, go])
    exact Bool.eq_false_iff.mp last
  rw [respond_eq]
  refine ⟨?_, keeps circumstances system.store refused⟩
  rw [phase_go_self _ ⟨call, place, _⟩]
  exact going _ (later _ refused)

theorem admitsFirst_advance (admitsFirst : (system.phase call).AdmitsFirst)
    (none : (system.advance environment call).NoneAdmitted call) :
    ((system.advance environment call).phase call).AdmitsFirst ∧
      (system.advance environment call).store = system.store := by
  have turns := turns_advance environment system call
  generalize system.advance environment call = after at turns none ⊢
  cases turns with
  | stays => exact ⟨admitsFirst, rfl⟩
  | asks phase =>
      rw [phase] at admitsFirst
      refine ⟨?_, rfl⟩
      rw [ask, phase_go_self _ ⟨call, _, _⟩]
      exact fun ticket =>
        admitsFirst.2 ticket (by simp [IsAdmission, Event.admits])
  | enters phase =>
      rw [phase] at admitsFirst
      refine ⟨?_, rfl⟩
      rw [enter, phase_go_self _ ⟨call, _, _⟩]
      exact admitsFirst _
  | leaves phase =>
      rw [phase] at admitsFirst
      refine ⟨?_, rfl⟩
      rw [leave, phase_go_self _ ⟨call, _, _⟩]
      exact admitsFirst.2 () (by simp [IsAdmission, Event.admits])
  | outside phase _ =>
      rw [phase] at admitsFirst
      exact admitsFirst_respond admitsFirst (fun rest going => going) none
  | inside phase _ =>
      rw [phase] at admitsFirst
      exact admitsFirst_respond admitsFirst (fun rest going => going) none

theorem admitsFirst_drop (admitsFirst : (system.phase call).AdmitsFirst) :
    ((system.drop call).phase call).AdmitsFirst := by
  rcases system.drop_cases call with same | ⟨key, ticket, left⟩
  · rwa [same]
  · rw [left, leave, phase_go_self _ ⟨call, _, _⟩]
    trivial

end System

theorem Resilient.admitsFirst_move {discipline : Discipline}
    (resilient : Resilient discipline system)
    (admitsFirst : (system.phase call).AdmitsFirst) (move : Move)
    (away : move.call ≠ call → (system.phase move.call).key? ≠ some key)
    (none : (system.move discipline.environment move).NoneAdmitted call) :
    ((system.move discipline.environment move).phase call).AdmitsFirst ∧
    (system.move discipline.environment move).store.get? key =
      system.store.get? key := by
  by_cases mine : move.call = call
  · subst mine
    cases move with
    | turn call =>
        have step := System.admitsFirst_advance admitsFirst none
        exact ⟨step.1, congrArg (fun store => store.get? key) step.2⟩
    | drop call =>
        exact ⟨System.admitsFirst_drop admitsFirst,
          congrArg (fun store => store.get? key) (system.store_drop call)⟩
  · rw [System.phase_move_of_ne (Ne.symm mine)]
    refine ⟨admitsFirst,
      resilient.get?_move_of_apart fun claimed rest inside => away mine ?_⟩
    rw [inside]
    rfl

theorem Resilient.get?_undergo {discipline : Discipline}
    (resilient : Resilient discipline system)
    (admitsFirst : (system.phase call).AdmitsFirst) (moves : List Move)
    (away : ∀ count other, other ≠ call →
      ((system.undergo discipline.environment (moves.take count)).phase
        other).key? ≠ some key)
    (none : (system.undergo discipline.environment moves).NoneAdmitted call) :
    (system.undergo discipline.environment moves).store.get? key =
      system.store.get? key := by
  induction moves generalizing system with
  | nil => rfl
  | cons first rest induction =>
      have step := resilient.admitsFirst_move admitsFirst first
          (away 0 first.call) (none.of_prefix (System.trace_undergo _ rest))
      exact (induction (resilient.move first) step.1
        (fun count => away (count + 1)) none).trans step.2

/-- Whatever calls a handler has and whichever of them are cut off, a key that
no call is busy with is in order, and the store counts the messages that it
holds. A call that brings a message leaves the group of its key as it was, or
the key without one, if the message has not been stored. -/
theorem cut_off_leaves_order (handler : Handler) (capacity : Nat)
    (environment : Environment) (calls : Nat → Invocation)
    (works : ∀ call turn, (environment call turn).fault = none)
    (before : List Move) :
    let system :=
      (System.start capacity fun call => (calls call).program handler).undergo
        environment before
    (∀ key, (∀ call, (system.phase call).key? ≠ some key) →
      IsInOrder system key) ∧
    system.store.messageCount = system.store.held ∧
    ∀ call message key (since : List Move), calls call = .handle message →
      handler.correlation message = some key → call ∉ before.map Move.call →
      (∀ count other, other ≠ call →
        ((system.undergo environment (since.take count)).phase other).key? ≠
          some key) →
      (system.undergo environment since).NoneAdmitted call →
      (system.undergo environment since).store.get? key =
        system.store.get? key := by
  intro system
  have resilient : Resilient (agreeing capacity environment) system :=
    resilient_agreeing handler capacity environment calls works before
  refine ⟨fun key away => resilient.isInOrder away, ?_, ?_⟩
  · have sound : system.store.Sound :=
      System.sound_undergo ((Store.empty_sound capacity).subscribe _) before
    exact sound.counted
  · intro call message key since brings correlated unbegun away none
    refine resilient.get?_undergo ?_ since away none
    rw [System.phase_undergo_of_not_mem unbegun]
    show AdmitsFirst ((calls call).program handler)
    rw [brings]
    exact AdmitsFirst.handle correlated

/-! Three messages of one key. The second is cut off while its group is
processed, and the group stays. The third is cut off before it is stored. -/

def untilProcessed : List Move :=
  List.replicate 8 (.turn 0) ++ List.replicate 8 (.turn 1) ++ [.drop 1]

def untilStored : List Move := List.replicate 4 (.turn 2) ++ [.drop 2]

def cutShort : System :=
  (System.start 0 fun call => (crowding call).program gatherer).undergo
    (fun _ _ => faltering) untilProcessed

theorem cutShort_away (call : Nat) :
    (cutShort.phase call).key? ≠ some ⟨"all"⟩ := by
  match call with
  | 0 => exact (Option.some_ne_none _).symm
  | 1 => exact (Option.some_ne_none _).symm
  | call + 2 =>
      have absent : call + 2 ∉ untilProcessed.map Move.call := by
        simp [untilProcessed, Move.call]
      rw [cutShort, System.phase_undergo_of_not_mem absent]
      exact (Option.some_ne_none _).symm

theorem cutShort_leaves_order :
    cutShort.result? 1 = some cutOff ∧ cutShort.locks.contains ⟨"all"⟩ = true ∧
    IsInOrder cutShort ⟨"all"⟩ ∧ cutShort.store.messageCount = 2 ∧
    (cutShort.undergo (fun _ _ => faltering) untilStored).result? 2 =
      some cutOff ∧
    (cutShort.undergo (fun _ _ => faltering) untilStored).store.get? ⟨"all"⟩ =
      cutShort.store.get? ⟨"all"⟩ := by
  have order := cut_off_leaves_order gatherer 0 (fun _ _ => faltering) crowding
      (fun _ _ => rfl) untilProcessed
  refine ⟨rfl, rfl, order.1 _ cutShort_away, rfl, rfl, ?_⟩
  refine order.2.2 2 (numbered 2) ⟨"all"⟩ untilStored rfl rfl (by decide) ?_ ?_
  · intro count other different
    have absent : other ∉ (untilStored.take count).map Move.call := by
      intro member
      obtain ⟨move, taken, rfl⟩ := List.mem_map.mp member
      have moved := List.mem_of_mem_take taken
      simp only [untilStored, List.mem_append, List.mem_replicate,
        List.mem_singleton] at moved
      rcases moved with ⟨-, rfl⟩ | rfl <;> exact different rfl
    rw [System.phase_undergo_of_not_mem absent]
    exact cutShort_away other
  · have refused : ((cutShort.undergo (fun _ _ => faltering) untilStored).own
        2).all (fun event => !event.admits) = true := rfl
    exact fun event member =>
      by simpa using List.all_eq_true.mp refused event member

end Collate.Interleaving
