import Collate.Proofs.Queue.Passage
import Mathlib.Data.List.TakeWhile

namespace Collate.Simulation

namespace Use

/-- Whether a call takes what there is and does not wait for more. -/
def isTaking : Use → Bool
  | .tryReceive => true
  | .drain => true
  | _ => false

variable {use : Use}

theorem message?_of_isTaking (takes : use.isTaking = true) :
    use.message? = none := by
  cases use <;> first | rfl | cases takes

theorem isLimited_of_isTaking (takes : use.isTaking = true) :
    use.isLimited = false := by
  cases use <;> first | rfl | cases takes

theorem isServed_of_isTaking (takes : use.isTaking = true) (queue : Queue) :
    use.isServed queue = true := by
  cases use <;> first | rfl | cases takes

theorem grab_approach (use : Use) (queue : Queue) :
    (use.grab queue.approach.1).2 = (use.grab queue).2 := by
  have same : queue.approach.1.take.2 = queue.take.2 := by
    unfold Queue.take
    cases messages : queue.messages <;> simp [Queue.approach, messages]
  cases use with
  | drain => rfl
  | _ => exact congrArg Answer.received same

theorem tryReceive_grab (queue : Queue) :
    (Use.tryReceive.grab queue).2 = .received queue.messages.head? := by
  cases messages : queue.messages <;> simp [grab, Queue.take, messages]

end Use

/-- A call that goes on until it has to wait comes to an answer at once if it is
served, and has to wait otherwise. -/
structure ComesTo (answer : Answer) (served : Prop) (world : World)
    (cleanUps : List (World → World)) (rest : Activity Answer) : Prop where
  atOnce : served → (Task.proceed world cleanUps rest).2 = .finished answer
  waits : ¬ served →
    ∃ later, (Task.proceed world cleanUps rest).2 = .waiting later cleanUps

variable {channel : Channel} {use : Use} {here : Place} {rest : Activity Answer}
  {world : World} {queue : Queue} {ticket : Nat}
  {cleanUps : List (World → World)}

namespace Conducts

theorem receiver?_iff (conducts : Conducts channel use here rest)
    (begun : here ≠ .fresh) : here.receiver?.isSome ↔ use.message? = none := by
  induction conducts with
  | look => exact absurd rfl begun
  | clock limited stands changes going induction =>
      exact induction (.empty 0 0) begun
  | offer sends => simp [Place.receiver?, sends]
  | awaitPlace sends => simp [Place.receiver?, sends]
  | accept sends => simp [Place.receiver?, sends]
  | approach => exact absurd rfl begun
  | awaitTurn receives => simp [Place.receiver?, receives]
  | grab receives => simp [Place.receiver?, receives]

variable (takes : use.isTaking = true)

include takes

theorem proceed_atFront (conducts : Conducts channel use (.atFront ticket) rest)
    (held : world.channelState channel = .queue queue) :
    (Task.proceed world cleanUps rest).2 = .finished (use.grab queue).2 := by
  have unlimited := Use.isLimited_of_isTaking takes
  cases conducts with
  | clock limited => simp [unlimited] at limited
  | grab receives changes ended =>
      rw [Task.proceed,
        ended world queue held (Use.isServed_of_isTaking takes queue)]
      rfl

theorem comesTo_inLine (conducts : Conducts channel use (.inLine ticket) rest)
    (held : world.channelState channel = .queue queue) :
    ComesTo (use.grab queue).2 (queue.isTurn ticket = true) world
      cleanUps rest := by
  have unlimited := Use.isLimited_of_isTaking takes
  cases conducts with
  | clock limited => simp [unlimited] at limited
  | awaitTurn receives ready changes going late =>
      rename_i isReady deadline giveUp next
      have isReady_eq : isReady world = queue.isTurn ticket := by
        rw [ready world queue held,
          Use.isServed_of_isTaking takes, Bool.and_true]
      constructor
      · intro isTurn
        rw [Task.proceed, isReady_eq, if_pos isTurn]
        exact going.proceed_atFront takes held
      · intro notTurn
        have patient : deadline = none := by
          cases deadline with
          | none => rfl
          | some time => simp [unlimited] at late
        subst patient
        rw [Task.proceed, isReady_eq, if_neg notTurn]
        exact ⟨_, rfl⟩

omit takes in
theorem isTurn_approach
    (issued : ∀ receiver ∈ queue.receivers, receiver < queue.nextTicket) :
    queue.approach.1.isTurn queue.nextTicket = queue.receivers.isEmpty := by
  cases receivers : queue.receivers with
  | nil => simp [Queue.isTurn, Queue.approach, receivers]
  | cons first others =>
      have earlier := issued first (by simp [receivers])
      simp [Queue.isTurn, Queue.approach, receivers, Nat.ne_of_lt earlier]

theorem comesTo_fresh (conducts : Conducts channel use .fresh rest)
    (held : world.channelState channel = .queue queue)
    (issued : ∀ receiver ∈ queue.receivers, receiver < queue.nextTicket) :
    ComesTo (use.grab queue).2 (queue.receivers.isEmpty = true) world
      cleanUps rest := by
  have receives := Use.message?_of_isTaking takes
  cases conducts with
  | look sends => simp [receives] at sends
  | clock limited stands => cases stands
  | approach _ changes going =>
      rename_i change next _
      rw [← isTurn_approach issued, ← Use.grab_approach]
      have inLine : ComesTo _ _ (change world) cleanUps (next world) :=
        (going world queue held).comesTo_inLine takes (changes world queue held)
      exact ⟨inLine.atOnce, inLine.waits⟩

end Conducts

namespace Crowd

/-- Whether somebody who receives and has begun before a call still goes on. -/
def IsBehind (uses : Nat → Use) (crowd : Crowd) (call : Nat) : Prop :=
  ∃ other ∈ crowd.before call, (uses other).message? = none ∧
    (crowd.task other).isSome

theorem takeWhile_ne_parts {call : Nat} {list : List Nat}
    (member : call ∈ list) :
    ∃ later,
      list = list.takeWhile (fun other => other ≠ call) ++ call :: later := by
  induction list with
  | nil => cases member
  | cons first rest induction =>
      by_cases same : first = call
      · exact ⟨rest, by simp [same]⟩
      · obtain ⟨later, parts⟩ :=
          induction ((List.mem_cons.mp member).resolve_left (Ne.symm same))
        refine ⟨later, ?_⟩
        rw [List.takeWhile_cons_of_pos (by simpa using same),
          List.cons_append, ← parts]

end Crowd

namespace Crowd.Ordered

variable {capacity : Nat} {uses : Nat → Use} {crowd : Crowd}
  {place : Nat → Place} {call : Nat} {task : Task}
  (ordered : Ordered channel capacity uses crowd queue place)

include ordered

theorem receivers_issued :
    ∀ receiver ∈ queue.receivers, receiver < queue.nextTicket := by
  intro receiver member
  rw [ordered.lined.line] at member
  obtain ⟨call, -, found⟩ := List.mem_filterMap.mp member
  exact ordered.lined.issued call receiver (Lined.ticket?_of_receiver? found)

theorem receiver?_iff (begun : call ∈ crowd.begun) :
    (place call).receiver?.isSome ↔
    (uses call).message? = none ∧ (crowd.task call).isSome := by
  have isAt := ordered.isAt call
  cases found : crowd.task call with
  | none =>
      rw [found] at isAt
      have none : (place call).receiver? = none := by
        cases received : (place call).receiver? with
        | none => rfl
        | some ticket =>
            simp [IsAt, Lined.ticket?_of_receiver? received] at isAt
      simp [none]
  | some task =>
      rw [found] at isAt
      have notFresh : place call ≠ .fresh :=
        fun isFresh => isAt.2.2.mp isFresh begun
      simpa using isAt.1.receiver?_iff notFresh

theorem ahead_eq_nil_iff (call : Nat) :
    (crowd.before call).filterMap (fun other => (place other).receiver?) = [] ↔
      ¬ crowd.IsBehind uses call := by
  simp only [List.filterMap_eq_nil_iff, IsBehind, not_exists, not_and]
  refine forall₂_congr fun other isBefore => ?_
  have begun : other ∈ crowd.begun := (List.takeWhile_sublist _).mem isBefore
  rw [← Option.not_isSome_iff_eq_none, ordered.receiver?_iff begun, not_and]

theorem isEmpty_receivers_iff (unbegun : call ∉ crowd.begun) :
    queue.receivers.isEmpty = true ↔ ¬ crowd.IsBehind uses call := by
  have all : crowd.before call = crowd.begun :=
    List.takeWhile_eq_self_iff.mpr
      fun other begun => decide_eq_true fun same => unbegun (same ▸ begun)
  rw [← ordered.ahead_eq_nil_iff call, all, ← ordered.lined.line,
    List.isEmpty_iff]

theorem isTurn_iff (begun : call ∈ crowd.begun)
    (here : (place call).receiver? = some ticket) :
    queue.isTurn ticket = true ↔ ¬ crowd.IsBehind uses call := by
  obtain ⟨later, parts⟩ := takeWhile_ne_parts begun
  have line : queue.receivers =
        (crowd.before call).filterMap (fun other => (place other).receiver?) ++
          ticket :: later.filterMap fun other => (place other).receiver? := by
    have parted :=
      congrArg (List.filterMap fun other => (place other).receiver?) parts
    rw [← ordered.lined.line, List.filterMap_append, List.filterMap_cons, here]
      at parted
    exact parted
  rw [← ordered.ahead_eq_nil_iff call, Queue.isTurn, decide_eq_true_eq, line]
  cases ahead : (crowd.before call).filterMap
    fun other => (place other).receiver? with
  | nil => simp
  | cons first others =>
      have member : first ∈ (crowd.before call).filterMap
          fun other => (place other).receiver? := by
        simp [ahead]
      obtain ⟨other, isBefore, found⟩ := List.mem_filterMap.mp member
      have differ : other ≠ call := by
        simpa using List.mem_takeWhile_imp isBefore
      have apart : first ≠ ticket := by
        rintro rfl
        exact differ (ordered.lined.distinct other call first
          (Lined.ticket?_of_receiver? found) (Lined.ticket?_of_receiver? here))
      simp [apart]

theorem comesTo_of_isTaking (found : crowd.task call = some task)
    (takes : (uses call).isTaking = true) :
    ComesTo ((uses call).grab queue).2 (¬ crowd.IsBehind uses call)
      crowd.world task.cleanUps
      task.rest := by
  have isAt := ordered.isAt call
  rw [found] at isAt
  obtain ⟨conducts, -, fresh_iff⟩ := isAt
  by_cases begun : call ∈ crowd.begun
  · have notFresh : place call ≠ .fresh :=
      fun isFresh => fresh_iff.mp isFresh begun
    have received :=
      (conducts.receiver?_iff notFresh).mpr (Use.message?_of_isTaking takes)
    generalize placed : place call = here at conducts received
    cases here with
    | inLine ticket =>
        rw [← ordered.isTurn_iff begun (by rw [placed]; rfl)]
        exact conducts.comesTo_inLine takes ordered.held
    | atFront ticket =>
        have stands := ordered.lined.stands call
        rw [placed] at stands
        rw [← ordered.isTurn_iff begun (by rw [placed]; rfl)]
        exact ⟨fun _ => conducts.proceed_atFront takes ordered.held,
          (absurd stands.1 ·)⟩
    | _ => cases received
  · rw [fresh_iff.mpr begun] at conducts
    rw [← ordered.isEmpty_receivers_iff begun]
    exact conducts.comesTo_fresh takes ordered.held ordered.receivers_issued

end Crowd.Ordered

/-- For every capacity, whichever calls use a queue that is empty at first, in
whatever order they take their turns and are dropped, and for every call that
takes what there is and goes on: when it runs, it comes to the first message, or
to all that are queued, without a wait, unless somebody who is to receive has
begun before it and still goes on; else it has to wait. -/
theorem takes_at_once_unless_behind (channel : Channel) (capacity : Nat)
    (world : World)
    (isEmpty : world.channelState channel = .queue (.empty capacity))
    (uses : Nat → Use) (moves : List Crowd.Move) :
    let crowd := (Crowd.ofUses world channel uses).play moves
    ∃ queue, crowd.world.channelState channel = .queue queue ∧
      ∀ call task, crowd.task call = some task →
        (uses call = .tryReceive → ComesTo (.received queue.messages.head?)
          (¬ crowd.IsBehind uses call) crowd.world task.cleanUps task.rest) ∧
        (uses call = .drain →
          ComesTo (.messages queue.messages) (¬ crowd.IsBehind uses call)
            crowd.world task.cleanUps task.rest) := by
  intro crowd
  obtain ⟨queue, place, ordered⟩ :=
    (Crowd.ordered_ofUses uses isEmpty).play moves
  refine ⟨queue, ordered.held,
    fun call task found => ⟨fun takes => ?_, fun takes => ?_⟩⟩
  · have comes := ordered.comesTo_of_isTaking found (by rw [takes]; rfl)
    rwa [takes, Use.tryReceive_grab] at comes
  · have comes := ordered.comesTo_of_isTaking found (by rw [takes]; rfl)
    rwa [takes] at comes

/-! Somebody waits for a message of an empty queue; somebody else only looks for
one. -/

def narrow : Channel := ⟨0, "narrow"⟩

def narrowWorld : World :=
  (World.empty 1 0).setChannelState narrow (.queue (.empty 2))

def waitAndLook : Nat → Use
  | 0 => .receive none
  | _ => .tryReceive

theorem look_behind_receiver_waits :
    let crowd :=
      (Crowd.ofUses narrowWorld narrow waitAndLook).play [.turn 0, .turn 0]
    waitAndLook 1 = .tryReceive ∧
      (∃ queue, crowd.world.channelState narrow = .queue queue ∧
        queue.messages = []) ∧
      ∃ task later, crowd.task 1 = some task ∧
        (Task.proceed crowd.world task.cleanUps task.rest).2 =
          .waiting later [] :=
  ⟨rfl, ⟨_, rfl, rfl⟩, _, _, rfl, rfl⟩

theorem look_after_drop_served :
    narrowWorld.channelState narrow = .queue (.empty 2) ∧
      let crowd := (Crowd.ofUses narrowWorld narrow waitAndLook).play
          [.turn 0, .turn 1, .drop 0]
      ∃ task, crowd.task 1 = some task ∧
        (Task.proceed crowd.world task.cleanUps task.rest).2 =
          .finished (.received none) := by
  have isEmpty : narrowWorld.channelState narrow = .queue (.empty 2) := rfl
  refine ⟨isEmpty, ?_⟩
  intro crowd
  obtain ⟨queue, held, comes⟩ := takes_at_once_unless_behind narrow 2
      narrowWorld isEmpty waitAndLook [.turn 0, .turn 1, .drop 0]
  obtain ⟨task, found⟩ : ∃ task, crowd.task 1 = some task := ⟨_, rfl⟩
  have empty : queue.messages = [] := by
    obtain rfl : _ = queue := ChannelState.queue.inj held
    rfl
  have alone : ¬ crowd.IsBehind waitAndLook 1 := by
    rintro ⟨other, earlier, -, goesOn⟩
    obtain rfl : other = 0 := List.mem_singleton.mp earlier
    cases goesOn
  have served := ((comes 1 task found).1 rfl).atOnce alone
  rw [empty] at served
  exact ⟨task, found, served⟩

end Collate.Simulation
