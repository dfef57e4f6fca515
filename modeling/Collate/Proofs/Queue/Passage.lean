import Collate.Proofs.Queue.Places

namespace Collate.Simulation

open Function (update)

namespace Use

variable {use : Use} {message : Message}

theorem sent_of_sends (sends : use.message? = some message) :
    use.sent .done = [message] := by
  cases use <;> cases sends
  rfl

theorem sent_timeout (use : Use) : use.sent .timeout = [] := by
  cases use <;> rfl

theorem sent_of_receives (receives : use.message? = none) (answer : Answer) :
    use.sent answer = [] := by
  cases use <;> first | rfl | cases receives

end Use

namespace Crowd

def IsAt (channel : Channel) (use : Use) (hasBegun : Prop) (here : Place) :
    Option Task → Prop
  | none => here.ticket? = none
  | some task =>
      Conducts channel use here task.rest ∧ task.cleanUps = [] ∧
        (here = .fresh ↔ ¬ hasBegun)

/-- What holds of calls that use a queue in company. -/
structure Ordered (channel : Channel) (capacity : Nat) (uses : Nat → Use)
    (crowd : Crowd) (queue : Queue) (place : Nat → Place) : Prop where
  held : crowd.world.channelState channel = .queue queue
  capacity : queue.capacity = capacity
  lined : Lined uses queue place crowd.begun
  isAt : ∀ call,
    IsAt channel (uses call) (call ∈ crowd.begun) (place call) (crowd.task call)
  passed : crowd.handedOut ++ queue.messages = crowd.sent uses
  once : (crowd.finished.map Prod.fst ++ crowd.dropped).Nodup
  gone : ∀ call ∈ crowd.finished.map Prod.fst ++ crowd.dropped,
    crowd.task call = none

variable {channel : Channel} {capacity : Nat} {uses : Nat → Use} {crowd : Crowd}
  {queue after : Queue} {place : Nat → Place} {call : Nat} {task later : Task}
  {next : Place} {world : World} {answer : Answer}

theorem mem_begunWith {other : Nat} :
    other ∈ crowd.begunWith call ↔ other = call ∨ other ∈ crowd.begun := by
  unfold begunWith
  split
  · exact ⟨.inr, fun either => either.elim (fun same => same ▸ ‹_›) id⟩
  · rw [List.mem_append, List.mem_singleton, or_comm]

theorem begunWith_of_mem (begun : call ∈ crowd.begun) :
    crowd.begunWith call = crowd.begun :=
  if_pos begun

theorem begunWith_of_not_mem (unbegun : call ∉ crowd.begun) :
    crowd.begunWith call = crowd.begun ++ [call] :=
  if_neg unbegun

theorem settle_of_conducts {use : Use}
    (conducts : Conducts channel use next later.rest) :
    crowd.settle call later = crowd.put call (some later) := by
  cases rest : later.rest with
  | done answer =>
      rw [rest] at conducts
      cases conducts
  | ask step going => exact settle_of_ask rest

namespace Ordered

variable (ordered : Ordered channel capacity uses crowd queue place)

include ordered

theorem isAt_put {begun : List Nat} {task : Option Task}
    (here : IsAt channel (uses call) (call ∈ begun) next task)
    (same : ∀ other, other ≠ call → (other ∈ begun ↔ other ∈ crowd.begun))
    (other : Nat) :
    IsAt channel (uses other) (other ∈ begun) (update place call next other)
      ((crowd.put call task).task other) := by
  by_cases mine : other = call
  · subst mine
    rw [Function.update_self]
    simpa [put] using here
  · rw [Function.update_of_ne mine, same other mine]
    simpa [put, mine] using ordered.isAt other

omit ordered in
theorem mem_begunWith_of_ne (other : Nat) (differ : other ≠ call) :
    other ∈ crowd.begunWith call ↔ other ∈ crowd.begun := by
  rw [mem_begunWith]
  exact or_iff_right differ

theorem ne_of_gone (found : crowd.task call = some task) :
    call ∉ crowd.finished.map Prod.fst ++ crowd.dropped := by
  intro isGone
  rw [ordered.gone call isGone] at found
  cases found

theorem gone_put (task : Option Task) (found : crowd.task call = some later)
    {other : Nat}
    (isGone : other ∈ crowd.finished.map Prod.fst ++ crowd.dropped) :
    (crowd.put call task).task other = none := by
  have differ : other ≠ call :=
    fun same => ordered.ne_of_gone found (same ▸ isGone)
  simpa [put, differ] using ordered.gone other isGone

theorem goOn (found : crowd.task call = some task)
    (held : world.channelState channel = .queue after)
    (lined : Lined uses after (update place call next) (crowd.begunWith call))
    (messages : after.messages = queue.messages)
    (same : after.capacity = queue.capacity)
    (conducts : Conducts channel (uses call) next later.rest)
    (bare : later.cleanUps = []) (begun : next ≠ .fresh) :
    Ordered channel capacity uses
      ({ crowd with world, begun := crowd.begunWith call }.settle call later)
      after (update place call next) := by
  rw [settle_of_conducts conducts]
  have here : IsAt channel (uses call) (call ∈ crowd.begunWith call) next
        (some later) :=
    ⟨conducts, bare,
      iff_of_false begun (not_not_intro (mem_begunWith.mpr (.inl rfl)))⟩
  refine ⟨held, same.trans ordered.capacity, lined,
    ordered.isAt_put here mem_begunWith_of_ne, ?_, ordered.once,
    fun other => ordered.gone_put _ found⟩
  rw [messages]
  exact ordered.passed

theorem finish (found : crowd.task call = some task)
    (held : world.channelState channel = .queue after)
    (lined : Lined uses after (update place call .apart) (crowd.begunWith call))
    (messages : answer.handedOut ++ after.messages = queue.messages ++
      (uses call).sent answer) (same : after.capacity = queue.capacity)
    (ended : later.rest = Program.done answer) :
    Ordered channel capacity uses
      ({ crowd with world, begun := crowd.begunWith call }.settle call later)
      after (update place call .apart) := by
  rw [settle_of_done ended]
  have here :
      IsAt channel (uses call) (call ∈ crowd.begunWith call) .apart none := rfl
  have fresh := ordered.ne_of_gone found
  refine ⟨held, same.trans ordered.capacity, lined,
    ordered.isAt_put here mem_begunWith_of_ne, ?_, ?_, fun other isGone => ?_⟩
  · simp only [handedOut, sent, List.flatMap_append, List.flatMap_cons,
      List.flatMap_nil, List.append_nil]
    rw [List.append_assoc, messages, ← List.append_assoc]
    exact congrArg (· ++ _) ordered.passed
  · rw [List.map_append, List.append_assoc]
    exact List.nodup_middle.mpr (List.nodup_cons.mpr ⟨fresh, ordered.once⟩)
  · rw [List.map_append, List.append_assoc] at isGone
    rcases List.mem_cons.mp (List.perm_middle.mem_iff.mp isGone)
      with rfl | earlier
    · exact if_pos rfl
    · exact ordered.gone_put none found earlier

theorem depart (found : crowd.task call = some task)
    (held : world.channelState channel = .queue after)
    (lined : Lined uses after (update place call .apart) crowd.begun)
    (messages : after.messages = queue.messages)
    (same : after.capacity = queue.capacity) :
    Ordered channel capacity uses
      { crowd.put call none with world, dropped := crowd.dropped ++ [call] }
      after (update place call .apart) := by
  have here : IsAt channel (uses call) (call ∈ crowd.begun) .apart none := rfl
  have fresh := ordered.ne_of_gone found
  refine ⟨held, same.trans ordered.capacity, lined,
    ordered.isAt_put here fun _ _ => Iff.rfl, ?_, ?_, fun other isGone => ?_⟩
  · rw [messages]
    exact ordered.passed
  · rw [← List.append_assoc]
    refine List.nodup_append.mpr ⟨ordered.once, List.nodup_singleton call, ?_⟩
    rintro other isGone now isNow rfl
    exact fresh (List.mem_singleton.mp isNow ▸ isGone)
  · rw [← List.append_assoc] at isGone
    rcases List.mem_append.mp isGone with earlier | now
    · exact ordered.gone_put none found earlier
    · exact if_pos (List.mem_singleton.mp now)

theorem stay (found : crowd.task call = some task)
    (begun : call ∈ crowd.begun) :
    Ordered channel capacity uses
      ({ crowd with world := crowd.world, begun := crowd.begunWith call }.settle
        call task) queue
      place := by
  have here := ordered.isAt call
  rw [found] at here
  obtain ⟨conducts, bare, fresh_iff⟩ := here
  have lined : Lined uses queue (update place call (place call))
        (crowd.begunWith call) := by
    rw [begunWith_of_mem begun, Function.update_eq_self]
    exact ordered.lined
  have stays :=
    ordered.goOn found ordered.held lined rfl rfl conducts bare fun isFresh =>
      fresh_iff.mp isFresh begun
  rwa [Function.update_eq_self] at stays

theorem wait (found : crowd.task call = some task) (begun : call ∈ crowd.begun)
    {isReady : World → Bool} {deadline : Option Nat} {giveUp : World → World}
    {going : Bool → Activity Answer}
    (rest : task.rest = Program.ask (Step.await isReady deadline giveUp) going)
    (onReady : isReady crowd.world = true →
      Lined uses queue (update place call next) crowd.begun ∧
      Conducts channel (uses call) next (going true) ∧ next ≠ .fresh)
    (onLate : deadline.isSome →
      (giveUp crowd.world).channelState channel = .queue after ∧
      Lined uses after (update place call .apart) crowd.begun ∧
      after.messages = queue.messages ∧ after.capacity = queue.capacity ∧
      going false = Program.done .timeout) :
    ∃ after next, Ordered channel capacity uses
      ({ crowd with
          world := (task.step crowd.world).1
          begun := crowd.begunWith call }.settle call
        (task.step crowd.world).2) after next := by
  have here := ordered.isAt call
  rw [found] at here
  simp only [Task.step, rest]
  by_cases isNow : isReady crowd.world = true
  · obtain ⟨lined, conducts, notFresh⟩ := onReady isNow
    rw [if_pos isNow]
    rw [← begunWith_of_mem begun] at lined
    exact ⟨_, _,
      ordered.goOn found ordered.held lined rfl rfl conducts here.2.1 notFresh⟩
  · rw [if_neg isNow]
    by_cases isLate : (deadline.any fun time => time ≤ crowd.world.now) = true
    · rw [if_pos isLate]
      have limited : deadline.isSome = true := by
        cases deadline <;> first | rfl | cases isLate
      obtain ⟨held, lined, messages, same, ended⟩ := onLate limited
      rw [← begunWith_of_mem begun] at lined
      refine ⟨_, _, ordered.finish found held lined ?_ same ended⟩
      rw [messages, Use.sent_timeout, List.append_nil]
      rfl
    · rw [if_neg isLate]
      exact ⟨queue, place, ordered.stay found begun⟩

theorem turn (call : Nat) :
    ∃ after next,
      Ordered channel capacity uses (crowd.turn call) after next := by
  unfold Crowd.turn
  cases found : crowd.task call with
  | none => exact ⟨queue, place, ordered⟩
  | some task =>
      have here := ordered.isAt call
      rw [found] at here
      obtain ⟨conducts, bare, fresh_iff⟩ := here
      obtain ⟨number, rest, cutOff, cleanUps⟩ := task
      have lined := ordered.lined
      have held := ordered.held
      have stands := lined.stands call
      generalize placed : place call = here at conducts fresh_iff stands
      have begun : here ≠ .fresh → call ∈ crowd.begun := fun hasBegun =>
        not_not.mp (mt fresh_iff.mpr hasBegun)
      cases conducts with
      | look sends changes going =>
          have unbegun := fresh_iff.mp rfl
          refine ⟨_, _, ordered.goOn found (changes _ _ held) ?_ rfl rfl
            (going _ _ held) bare nofun⟩
          rw [begunWith_of_not_mem unbegun]
          exact lined.begin unbegun
      | clock limited isIn changes going =>
          have notFresh : here ≠ .fresh := by
            rintro rfl
            cases isIn
          refine ⟨_, _, ordered.goOn found (changes _ _ held) ?_ rfl rfl
            (going _) bare notFresh⟩
          rw [begunWith_of_mem (begun notFresh), ← placed,
            Function.update_eq_self]
          exact lined
      | offer sends changes going =>
          refine ⟨_, _, ordered.goOn found (changes _ _ held) ?_ rfl rfl
            (going _ _ held) bare nofun⟩
          rw [begunWith_of_mem (begun nofun)]
          exact lined.offer sends placed
      | awaitPlace sends ready changes going late =>
          refine ordered.wait found (begun nofun) rfl
            (fun isNow => ⟨?_, going, nofun⟩) fun limited =>
              ⟨changes _ _ held, lined.withdraw placed, rfl, rfl, late limited⟩
          rw [ready _ _ held] at isNow
          exact lined.proceed (by rw [placed]; rfl)
            (by rw [placed]; rfl) ⟨stands, isNow⟩
      | accept sends changes ended =>
          obtain ⟨accepted, same, message, sendsToo, messages⟩ :=
            lined.accept placed
          rw [← begunWith_of_mem (begun nofun)] at accepted
          refine ⟨_, _,
            ordered.finish found (changes _ _ held) accepted ?_ same (ended _)⟩
          rw [messages, Use.sent_of_sends sendsToo]
          rfl
      | approach receives changes going =>
          have unbegun := fresh_iff.mp rfl
          refine ⟨_, _, ordered.goOn found (changes _ _ held) ?_ rfl rfl
            (going _ _ held) bare nofun⟩
          rw [begunWith_of_not_mem unbegun]
          exact lined.approach unbegun
      | awaitTurn receives ready changes going late =>
          refine ordered.wait found (begun nofun) rfl
            (fun isNow => ⟨?_, going, nofun⟩) fun limited =>
              ⟨changes _ _ held, lined.leave (by rw [placed]; rfl), rfl, rfl,
                (late limited).2⟩
          rw [ready _ _ held, Bool.and_eq_true] at isNow
          exact lined.proceed (by rw [placed]; rfl) (by rw [placed]; rfl) isNow
      | grab receives changes ended =>
          have grabbed := lined.grab placed
          rw [← begunWith_of_mem (begun nofun)] at grabbed
          refine ⟨_, _, ordered.finish found (changes _ _ held) grabbed ?_
            (Use.grab_frame _ queue).2.2.2 (ended _ _ held stands.2)⟩
          rw [Use.sent_of_receives receives, List.append_nil]
          exact Use.grab_messages _ queue

theorem drop (call : Nat) :
    ∃ after next,
      Ordered channel capacity uses (crowd.drop call) after next := by
  unfold Crowd.drop
  cases found : crowd.task call with
  | none => exact ⟨queue, place, ordered⟩
  | some task =>
      have here := ordered.isAt call
      rw [found] at here
      obtain ⟨conducts, bare, fresh_iff⟩ := here
      have lined := ordered.lined
      have held := ordered.held
      by_cases unbegun : call ∉ crowd.begun
      · simp only [if_pos unbegun]
        have isFresh := fresh_iff.mpr unbegun
        refine ⟨_, _, ordered.depart found held ?_ rfl rfl⟩
        exact lined.proceed (by rw [isFresh]; rfl)
          (by rw [isFresh]; rfl) trivial
      · simp only [if_neg unbegun]
        by_cases pauses : task.isPausing = true
        · simp only [if_pos pauses]
          obtain ⟨number, rest, cutOff, cleanUps⟩ := task
          obtain rfl : cleanUps = [] := bare
          generalize placed : place call = here at conducts
          cases conducts with
          | awaitPlace sends ready changes going late =>
              exact ⟨_, _, ordered.depart found (changes _ _ held)
                (lined.withdraw placed) rfl rfl⟩
          | awaitTurn receives ready changes going late =>
              exact ⟨_, _, ordered.depart found (changes _ _ held)
                (lined.leave (by rw [placed]; rfl)) rfl rfl⟩
          | _ => cases pauses
        · simp only [if_neg pauses]
          exact ⟨queue, place, ordered⟩

theorem pass (milliseconds : Nat) :
    Ordered channel capacity uses (crowd.pass milliseconds) queue place :=
  ⟨ordered.held, ordered.capacity, ordered.lined, ordered.isAt, ordered.passed,
    ordered.once, ordered.gone⟩

theorem move (move : Move) :
    ∃ after next,
      Ordered channel capacity uses (crowd.move move) after next := by
  cases move with
  | turn call => exact ordered.turn call
  | drop call => exact ordered.drop call
  | pass milliseconds => exact ⟨queue, place, ordered.pass milliseconds⟩

theorem play (moves : List Move) :
    ∃ after next,
      Ordered channel capacity uses (crowd.play moves) after next := by
  induction moves generalizing crowd queue place with
  | nil => exact ⟨queue, place, ordered⟩
  | cons move rest induction =>
      obtain ⟨after, next, moved⟩ := ordered.move move
      exact induction moved

theorem exists_sender {message : Message}
    (passed : message ∈ crowd.handedOut ++ queue.messages) :
    ∃ call, (uses call).message? = some message ∧
      (call, .done) ∈ crowd.finished := by
  rw [ordered.passed] at passed
  obtain ⟨⟨call, answer⟩, finished, among⟩ := List.mem_flatMap.mp passed
  have isSent : message ∈ (uses call).sent answer := among
  refine ⟨call, ?_⟩
  cases use : uses call with
  | send limit sent =>
      cases answer with
      | done =>
          rw [use] at isSent
          obtain rfl : message = sent := List.mem_singleton.mp isSent
          exact ⟨rfl, finished⟩
      | _ => simp [use, Use.sent] at isSent
  | _ => simp [use, Use.sent] at isSent

theorem answer_unique {other : Answer}
    (finished : (call, answer) ∈ crowd.finished)
    (finishedToo : (call, other) ∈ crowd.finished) : answer = other := by
  have once := (List.nodup_append.mp ordered.once).1
  exact congrArg Prod.snd
    (List.inj_on_of_nodup_map once finished finishedToo rfl)

theorem not_dropped (finished : (call, answer) ∈ crowd.finished) :
    call ∉ crowd.dropped := by
  have apart := (List.nodup_append.mp ordered.once).2.2
  exact fun dropped =>
    apart call (List.mem_map_of_mem finished) call dropped rfl

theorem not_passed {message : Message}
    (sends : (uses call).message? = some message)
    (givesUp : call ∈ crowd.dropped ∨ (call, .timeout) ∈ crowd.finished)
    (noOther : ∀ other, other ≠ call → (uses other).message? ≠ some message) :
    message ∉ crowd.handedOut ++ queue.messages := by
  intro passed
  obtain ⟨sender, sendsIt, finished⟩ := ordered.exists_sender passed
  obtain rfl : sender = call :=
    by_contra fun differ => noOther sender differ sendsIt
  rcases givesUp with dropped | late
  · exact ordered.not_dropped finished dropped
  · cases ordered.answer_unique finished late

end Ordered

def ofUses (world : World) (channel : Channel) (uses : Nat → Use) : Crowd :=
  start world fun call => (uses call).activity channel

theorem ordered_ofUses (uses : Nat → Use)
    (held : world.channelState channel = .queue (.empty capacity)) :
    Ordered channel (max capacity 1) uses (ofUses world channel uses)
      (.empty capacity) fun _ => .fresh where
  held := held
  capacity := rfl
  lined := {
    sound := .empty capacity
    stands := fun _ => trivial
    issued := nofun
    distinct := nofun
    line := rfl }
  isAt call :=
    ⟨conducts_activity (uses call), rfl, iff_of_true rfl List.not_mem_nil⟩
  passed := rfl
  once := List.nodup_nil
  gone := nofun

end Crowd

end Collate.Simulation
