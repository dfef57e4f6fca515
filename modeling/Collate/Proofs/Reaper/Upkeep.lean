import Collate.Proofs.Handler.Clearing
import Collate.Proofs.Handler.Errands
import Collate.Proofs.Reaper.Freshness
import Collate.Proofs.Reaper.Loops

namespace Collate.Interleaving

structure PastSweep where
  sweepLoop : SweepLoop
  time : Int
  before : Store
  after : Store

/-- The store of a handler and what is done with it over time. -/
structure Upkeep where
  now : Nat
  /-- How far the wall clock is ahead of the time. -/
  skew : Int
  store : Store
  locks : LockTable
  reaping : Reaping
  sweeps : List PastSweep

/-- What can happen to a store that is kept up. -/
inductive Happening where
  | call (errand : Errand) (circumstances : Nat → Circumstances)
  | pass (milliseconds : Nat)
  /-- A loop's turn, which is of no effect until a sweep is due. -/
  | turn (number : Nat) (surroundings : Nat → Nat → Circumstances)
  | make (reaper : Reaper)
  | start
  | stop
  | drop

def Circumstances.at (circumstances : Circumstances) (time : Int) :
    Circumstances :=
  { circumstances with time, fault := none }

namespace Upkeep

def begin (capacity : Nat) (skew : Int) : Upkeep where
  now := 0
  skew := skew
  store := (Store.empty capacity).subscribe System.subscriber
  locks := .empty
  reaping := .empty
  sweeps := []

def wallTime (upkeep : Upkeep) : Int := upkeep.now + upkeep.skew

def call (upkeep : Upkeep) (handler : Handler) (errand : Errand)
    (circumstances : Nat → Circumstances) : Upkeep :=
  let calm := (Calm.run (fun turn => (circumstances turn).at upkeep.wallTime)
    (errand.invocation.program handler) ⟨0, upkeep.store, upkeep.locks⟩).2
  { upkeep with store := calm.store, locks := calm.locks }

def sweep (upkeep : Upkeep) (handler : Handler) (sweepLoop : SweepLoop)
    (surroundings : Nat → Nat → Circumstances) : Upkeep :=
  let scene :=
    ((attended handler
      fun turn inner => (surroundings turn inner).at upkeep.wallTime).sweep
      sweepLoop.reaper.timeout ⟨upkeep.store, upkeep.locks⟩).2.scene
  { upkeep with
    store := scene.store
    locks := scene.rest
    reaping := upkeep.reaping.proceed sweepLoop.number upkeep.now
    sweeps := upkeep.sweeps ++
      [⟨sweepLoop, upkeep.wallTime, upkeep.store, scene.store⟩] }

def turn (upkeep : Upkeep) (handler : Handler) (number : Nat)
    (surroundings : Nat → Nat → Circumstances) : Upkeep :=
  match upkeep.reaping.loop? number with
  | some sweepLoop =>
      if sweepLoop.due ≤ upkeep.now then
        upkeep.sweep handler sweepLoop surroundings
      else upkeep
  | none => upkeep

def apply (handler : Handler) (upkeep : Upkeep) : Happening → Upkeep
  | .call errand circumstances => upkeep.call handler errand circumstances
  | .pass milliseconds => { upkeep with now := upkeep.now + milliseconds }
  | .turn number surroundings => upkeep.turn handler number surroundings
  | .make reaper => { upkeep with reaping := upkeep.reaping.make reaper }
  | .start => { upkeep with reaping := upkeep.reaping.start upkeep.now }
  | .stop => { upkeep with reaping := upkeep.reaping.stop }
  | .drop => { upkeep with reaping := upkeep.reaping.drop }

def run (handler : Handler) (upkeep : Upkeep)
    (happenings : List Happening) : Upkeep :=
  happenings.foldl (apply handler) upkeep

/-- Whether all sweeps that are due have been carried out. -/
def IsCaughtUp (upkeep : Upkeep) : Prop :=
  ∀ sweepLoop ∈ upkeep.reaping.loops, upkeep.now < sweepLoop.due

end Upkeep

def PastSweep.LeavesYounger (past : PastSweep) : Prop :=
  ∀ key, past.after.get? key = (past.before.get? key).filter fun group =>
    group.age past.time < (past.sweepLoop.reaper.timeout : Int)

/-- Whether a happening leaves a reaper alone that is running. -/
def Happening.SparesReaper : Happening → Prop
  | .make _ => False
  | .stop => False
  | .drop => False
  | _ => True

namespace Upkeep

variable {handler : Handler} {upkeep begun : Upkeep} {sweepLoop : SweepLoop}
  {reaper : Reaper}

structure IsKept (upkeep : Upkeep) : Prop where
  tidy : Tidy upkeep.store upkeep.locks
  attended : IsAttended upkeep.store
  reaping : upkeep.reaping.Sound
  leavesYounger : ∀ past ∈ upkeep.sweeps, past.LeavesYounger

theorem begin_isKept (capacity : Nat) (skew : Int) :
    (begin capacity skew).IsKept where
  tidy := tidy_start capacity
  attended := ⟨[], [], by simp, rfl⟩
  reaping := Reaping.empty_sound
  leavesYounger := by simp [begin]

theorem call_tidy (tidy : Tidy upkeep.store upkeep.locks) (handler : Handler)
    (errand : Errand) (circumstances : Nat → Circumstances) :
    Tidy (upkeep.call handler errand circumstances).store
      (upkeep.call handler errand circumstances).locks ∧
    (upkeep.call handler errand circumstances).store.subscribers =
      upkeep.store.subscribers := by
  have calm : Tidy (Calm.store ⟨0, upkeep.store, upkeep.locks⟩)
      (Calm.locks ⟨0, upkeep.store, upkeep.locks⟩) := tidy
  cases errand with
  | handle message =>
      simp only [call, Errand.invocation, Invocation.program,
        Calm.run_bind, Calm.run_done]
      exact calm.handle (fun _ => rfl) handler message
  | forceComplete seen =>
      simp only [call, Errand.invocation, Invocation.program,
        Calm.run_bind, Calm.run_done]
      let stilled (turn : Nat) : Circumstances :=
        (circumstances turn).at upkeep.wallTime
      have works : ∀ turn, (stilled turn).fault = none := fun _ => rfl
      obtain ⟨after, spares⟩ := calm.forceComplete works handler seen
      exact ⟨after, spares.subscribers⟩

theorem sweep_cleared (kept : upkeep.IsKept) (handler : Handler)
    (sweepLoop : SweepLoop) (surroundings : Nat → Nat → Circumstances) :
    ∃ result account,
      Cleared ⟨upkeep.store,
        upkeep.locks⟩ upkeep.wallTime sweepLoop.reaper.timeout result account ∧
        (upkeep.sweep handler sweepLoop surroundings).store =
          account.scene.store ∧
        (upkeep.sweep handler sweepLoop surroundings).locks =
          account.scene.rest := by
  obtain ⟨first, last, absent, subscribers⟩ := kept.attended
  have works : ∀ turn inner,
      ((surroundings turn inner).at upkeep.wallTime).fault = none :=
    fun _ _ => rfl
  have tidy : Tidy (Sweep.Scene.store ⟨upkeep.store, upkeep.locks⟩)
        upkeep.locks := kept.tidy
  exact ⟨_, _, attended_sweep works handler first last absent tidy subscribers
    sweepLoop.reaper.timeout, rfl, rfl⟩

theorem turn_cases (upkeep : Upkeep) (handler : Handler) (number : Nat)
    (surroundings : Nat → Nat → Circumstances) :
    upkeep.turn handler number surroundings = upkeep ∨
    ∃ sweepLoop, upkeep.reaping.loop? number = some sweepLoop ∧
      sweepLoop.due ≤ upkeep.now ∧
      upkeep.turn handler number surroundings =
        upkeep.sweep handler sweepLoop surroundings := by
  unfold turn
  cases found : upkeep.reaping.loop? number with
  | none => exact .inl rfl
  | some sweepLoop =>
      by_cases due : sweepLoop.due ≤ upkeep.now
      · exact .inr ⟨sweepLoop, rfl, due, if_pos due⟩
      · exact .inl (if_neg due)

namespace IsKept

theorem sweep (kept : upkeep.IsKept) (handler : Handler) (sweepLoop : SweepLoop)
    (surroundings : Nat → Nat → Circumstances) :
    (upkeep.sweep handler sweepLoop surroundings).IsKept := by
  obtain ⟨result, account, cleared, store, locks⟩ :=
    sweep_cleared kept handler sweepLoop surroundings
  refine ⟨?_, ?_, kept.reaping.proceed _ _, ?_⟩
  · rw [store, locks]
    exact cleared.tidy
  · rw [store]
    exact cleared.attended
  · intro past member
    rcases List.mem_append.mp member with earlier | now
    · exact kept.leavesYounger past earlier
    · obtain rfl := List.mem_singleton.mp now
      intro key
      exact (congrArg (fun store : Store => store.get? key) store).trans
        (cleared.stored key)

theorem turn (kept : upkeep.IsKept) (handler : Handler) (number : Nat)
    (surroundings : Nat → Nat → Circumstances) :
    (upkeep.turn handler number surroundings).IsKept := by
  obtain same | ⟨sweepLoop, -, -, swept⟩ :=
    turn_cases upkeep handler number surroundings
  · rwa [same]
  · rw [swept]
    exact kept.sweep handler sweepLoop surroundings

theorem apply (kept : upkeep.IsKept) (handler : Handler)
    (happening : Happening) : (upkeep.apply handler happening).IsKept := by
  obtain ⟨tidy, attended, reaping, leavesYounger⟩ := kept
  cases happening with
  | call errand circumstances =>
      obtain ⟨after, subscribers⟩ := call_tidy tidy handler errand circumstances
      exact ⟨after, attended.of_subscribers subscribers, reaping, leavesYounger⟩
  | pass milliseconds => exact ⟨tidy, attended, reaping, leavesYounger⟩
  | turn number surroundings =>
      exact turn ⟨tidy, attended, reaping, leavesYounger⟩ handler
        number surroundings
  | make reaper =>
      exact ⟨tidy, attended, .of_loops_eq_nil reaping.stop_loops, leavesYounger⟩
  | start => exact ⟨tidy, attended, reaping.start _, leavesYounger⟩
  | stop =>
      exact ⟨tidy, attended, .of_loops_eq_nil reaping.stop_loops, leavesYounger⟩
  | drop =>
      exact ⟨tidy, attended, .of_loops_eq_nil reaping.stop_loops, leavesYounger⟩

theorem run (kept : upkeep.IsKept) (handler : Handler)
    (happenings : List Happening) : (upkeep.run handler happenings).IsKept := by
  induction happenings generalizing upkeep with
  | nil => exact kept
  | cons happening rest induction =>
      exact induction (kept.apply handler happening)

end IsKept

/-- Whether a reaper that has begun to sweep goes on with it, and has left no
group that will be older than the timeout and the interval when the next sweep
is due. -/
structure Reaps (begun : Upkeep) (reaper : Reaper) (upkeep : Upkeep)
    (sweepLoop : SweepLoop) : Prop where
  kept : upkeep.IsKept
  loops : upkeep.reaping.loops = [sweepLoop]
  sameReaper : sweepLoop.reaper = reaper
  regular : ∃ count, sweepLoop.due = begun.now + count * reaper.interval
  soon : sweepLoop.due ≤ upkeep.now + reaper.interval
  young : upkeep.now < sweepLoop.due →
    upkeep.store.Since (sweepLoop.due + upkeep.skew - reaper.timeout -
      reaper.interval)
  swept : ∃ swept, upkeep.sweeps = begun.sweeps ++ swept ∧
    swept.Pairwise (fun earlier later =>
      earlier.sweepLoop.due < later.sweepLoop.due) ∧
    ∀ past ∈ swept, past.sweepLoop.reaper = reaper ∧
      past.sweepLoop.due < sweepLoop.due ∧
      ∃ count, past.sweepLoop.due = begun.now + count * reaper.interval

theorem reaps_start (kept : upkeep.IsKept)
    (found : upkeep.reaping.reaper = some reaper)
    (enabled : reaper.enabled = true)
    (idle : upkeep.reaping.handle = none) (positive : 0 < reaper.interval) :
    Reaps upkeep reaper (upkeep.apply handler .start)
      ⟨upkeep.reaping.started, reaper, upkeep.now⟩ where
  kept := kept.apply handler .start
  loops := by
    rw [apply, Reaping.start_eq found enabled idle positive,
      kept.reaping.loops_of_idle idle]
    rfl
  sameReaper := rfl
  regular := ⟨0, by rw [Nat.zero_mul, Nat.add_zero]⟩
  soon := Nat.le_add_right _ _
  young early := absurd early (Nat.lt_irrefl _)
  swept := ⟨[], (List.append_nil _).symm, .nil, by simp⟩

namespace Reaps

theorem isRunning (reaps : Reaps begun reaper upkeep sweepLoop) :
    upkeep.reaping.isRunning = true := by
  rw [Reaping.isRunning,
    reaps.kept.reaping.held sweepLoop (by simp [reaps.loops])]
  rfl

theorem start (reaps : Reaps begun reaper upkeep sweepLoop)
    (handler : Handler) : upkeep.apply handler .start = upkeep := by
  rw [apply, Reaping.start_of_isRunning reaps.isRunning]

theorem call (reaps : Reaps begun reaper upkeep sweepLoop) (handler : Handler)
    (errand : Errand) (circumstances : Nat → Circumstances) :
    Reaps begun reaper
      (upkeep.call handler errand circumstances) sweepLoop where
  kept := reaps.kept.apply handler (.call errand circumstances)
  loops := reaps.loops
  sameReaper := reaps.sameReaper
  regular := reaps.regular
  soon := reaps.soon
  young early := by
    have soon := reaps.soon
    refine (reaps.young early).run (fun turn => ?_) _
    show (sweepLoop.due : Int) + upkeep.skew - _ - _ ≤ upkeep.now + upkeep.skew
    omega
  swept := reaps.swept

theorem pass (reaps : Reaps begun reaper upkeep sweepLoop)
    (milliseconds : Nat) :
    Reaps begun reaper { upkeep with now := upkeep.now + milliseconds }
      sweepLoop where
  kept := ⟨reaps.kept.tidy, reaps.kept.attended, reaps.kept.reaping,
    reaps.kept.leavesYounger⟩
  loops := reaps.loops
  sameReaper := reaps.sameReaper
  regular := reaps.regular
  soon := reaps.soon.trans (Nat.add_le_add_right (Nat.le_add_right _ _) _)
  young early := reaps.young (Nat.lt_of_le_of_lt (Nat.le_add_right _ _) early)
  swept := reaps.swept

theorem sweep (reaps : Reaps begun reaper upkeep sweepLoop)
    (positive : 0 < reaper.interval)
    (handler : Handler) (late : sweepLoop.due ≤ upkeep.now)
    (surroundings : Nat → Nat → Circumstances) :
    Reaps begun reaper (upkeep.sweep handler sweepLoop surroundings)
      (sweepLoop.next upkeep.now) := by
  obtain rfl := reaps.sameReaper
  have next : sweepLoop.reaper.nextDue sweepLoop.due upkeep.now ≤
      upkeep.now + sweepLoop.reaper.interval := Reaper.nextDue_le late
  have forward :
      sweepLoop.due < sweepLoop.reaper.nextDue sweepLoop.due upkeep.now :=
    Reaper.lt_nextDue positive _ _
  refine ⟨reaps.kept.sweep handler sweepLoop surroundings, Reaping.proceed_loops
    reaps.loops upkeep.now, rfl, ?_, next, fun _ => ?_, ?_⟩
  · obtain ⟨count, due⟩ := reaps.regular
    obtain ⟨more, later⟩ := sweepLoop.reaper.exists_nextDue_eq late
    refine ⟨count + more, later.trans ?_⟩
    rw [due, Nat.add_mul, Nat.add_assoc]
  · obtain ⟨result, account, cleared, store, -⟩ :=
      sweep_cleared reaps.kept handler sweepLoop surroundings
    intro key group found
    rw [store, cleared.stored, Option.filter_eq_some_iff, decide_eq_true_eq,
      Group.age] at found
    show ((sweepLoop.reaper.nextDue sweepLoop.due upkeep.now : Nat) : Int) +
      upkeep.skew - _ - _ ≤ _
    have young : (upkeep.now : Int) + upkeep.skew - group.createdAt < _ :=
      found.2
    omega
  · obtain ⟨swept, sweeps, order, each⟩ := reaps.swept
    obtain ⟨past, appended, rfl⟩ : ∃ past : PastSweep,
        (upkeep.sweep handler sweepLoop surroundings).sweeps =
          upkeep.sweeps ++ [past] ∧
          past.sweepLoop = sweepLoop := ⟨_, rfl, rfl⟩
    refine ⟨swept ++ [past], ?_, ?_, ?_⟩
    · rw [appended, sweeps, List.append_assoc]
    · refine List.pairwise_append.mpr ⟨order, List.pairwise_singleton _ _, ?_⟩
      intro earlier member later same
      rw [List.mem_singleton.mp same]
      exact (each earlier member).2.1
    · intro other member
      rcases List.mem_append.mp member with earlier | same
      · obtain ⟨reaper, due, count⟩ := each other earlier
        exact ⟨reaper, due.trans forward, count⟩
      · rw [List.mem_singleton.mp same]
        exact ⟨rfl, forward, reaps.regular⟩

theorem turn (reaps : Reaps begun reaper upkeep sweepLoop)
    (positive : 0 < reaper.interval) (handler : Handler) (number : Nat)
    (surroundings : Nat → Nat → Circumstances) :
    ∃ sweepLoop, Reaps begun reaper
      (upkeep.turn handler number surroundings) sweepLoop := by
  obtain same | ⟨found, sought, late, swept⟩ :=
    turn_cases upkeep handler number surroundings
  · rw [same]
    exact ⟨sweepLoop, reaps⟩
  · obtain rfl : sweepLoop = found := by
      rw [Reaping.loop?_of_loops reaps.loops] at sought
      split at sought
      · exact Option.some.inj sought
      · cases sought
    rw [swept]
    exact ⟨_, reaps.sweep positive handler late surroundings⟩

theorem apply (reaps : Reaps begun reaper upkeep sweepLoop)
    (positive : 0 < reaper.interval) (handler : Handler)
    {happening : Happening} (spares : happening.SparesReaper) :
    ∃ sweepLoop,
      Reaps begun reaper (upkeep.apply handler happening) sweepLoop := by
  cases happening with
  | call errand circumstances =>
      exact ⟨sweepLoop, reaps.call handler errand circumstances⟩
  | pass milliseconds => exact ⟨sweepLoop, reaps.pass milliseconds⟩
  | turn number surroundings =>
      exact reaps.turn positive handler number surroundings
  | start => exact ⟨sweepLoop, (reaps.start handler).symm ▸ reaps⟩
  | make reaper => exact spares.elim
  | stop => exact spares.elim
  | drop => exact spares.elim

theorem run (reaps : Reaps begun reaper upkeep sweepLoop)
    (positive : 0 < reaper.interval)
    (handler : Handler) {since : List Happening}
    (spare : ∀ happening ∈ since, happening.SparesReaper) :
    ∃ sweepLoop, Reaps begun reaper (upkeep.run handler since) sweepLoop := by
  induction since generalizing upkeep sweepLoop with
  | nil => exact ⟨sweepLoop, reaps⟩
  | cons happening rest induction =>
      obtain ⟨first, others⟩ := List.forall_mem_cons.mp spare
      obtain ⟨after, reapsStill⟩ := reaps.apply positive handler first
      exact induction reapsStill others

theorem age_lt (reaps : Reaps begun reaper upkeep sweepLoop)
    (caughtUp : upkeep.IsCaughtUp)
    {key : Key} {group : Group} (found : upkeep.store.get? key = some group) :
    group.age upkeep.wallTime < (reaper.timeout : Int) + reaper.interval := by
  have early := caughtUp sweepLoop (by simp [reaps.loops])
  have made := reaps.young early key group found
  rw [Group.age, wallTime]
  omega

theorem turn_eq (reaps : Reaps begun reaper upkeep sweepLoop)
    (handler : Handler) (surroundings : Nat → Nat → Circumstances) :
    upkeep.turn handler sweepLoop.number surroundings =
      if sweepLoop.due ≤ upkeep.now then
        upkeep.sweep handler sweepLoop surroundings
      else upkeep := by
  have found := Reaping.loop?_of_loops reaps.loops sweepLoop.number
  rw [if_pos rfl] at found
  rw [Upkeep.turn, found]

theorem caughtUp_of_turns (reaps : Reaps begun reaper upkeep sweepLoop)
    (positive : 0 < reaper.interval)
    (handler : Handler) {turns : List Happening}
    (own : ∀ happening ∈ turns,
      ∃ surroundings, happening = .turn sweepLoop.number surroundings)
    (enough : upkeep.now < sweepLoop.due + turns.length) :
    (upkeep.run handler turns).IsCaughtUp := by
  induction turns generalizing upkeep sweepLoop with
  | nil =>
      intro found member
      rw [Upkeep.run, List.foldl_nil, reaps.loops, List.mem_singleton] at member
      rw [member]
      exact enough
  | cons happening rest induction =>
      obtain ⟨⟨surroundings, rfl⟩, others⟩ := List.forall_mem_cons.mp own
      rw [List.length_cons] at enough
      show ((upkeep.turn handler sweepLoop.number surroundings).run handler
        rest).IsCaughtUp
      rw [reaps.turn_eq]
      by_cases late : sweepLoop.due ≤ upkeep.now
      · have forward : sweepLoop.due < (sweepLoop.next upkeep.now).due :=
          Reaper.lt_nextDue (reaps.sameReaper ▸ positive) _ _
        rw [if_pos late]
        refine induction (reaps.sweep positive handler late surroundings)
          others ?_
        show upkeep.now < _
        omega
      · rw [if_neg late]
        exact induction reaps others (by omega)

end Reaps

theorem halted_apply (halted : upkeep.reaping.loops = []) (handler : Handler)
    {happening : Happening} (unstarted : happening ≠ .start) :
    (upkeep.apply handler happening).reaping.loops = [] ∧
      (upkeep.apply handler happening).sweeps = upkeep.sweeps := by
  have stopped := (Reaping.Sound.of_loops_eq_nil halted).stop_loops
  cases happening with
  | call errand circumstances => exact ⟨halted, rfl⟩
  | pass milliseconds => exact ⟨halted, rfl⟩
  | turn number surroundings =>
      obtain same | ⟨found, sought, -, -⟩ :=
        turn_cases upkeep handler number surroundings
      · rw [apply, same]
        exact ⟨halted, rfl⟩
      · simp [Reaping.loop?, halted] at sought
  | make reaper => exact ⟨stopped, rfl⟩
  | start => exact absurd rfl unstarted
  | stop => exact ⟨stopped, rfl⟩
  | drop => exact ⟨stopped, rfl⟩

theorem halted_run (halted : upkeep.reaping.loops = []) (handler : Handler)
    {later : List Happening}
    (unstarted : ∀ happening ∈ later, happening ≠ .start) :
    (upkeep.run handler later).sweeps = upkeep.sweeps := by
  induction later generalizing upkeep with
  | nil => rfl
  | cons happening rest induction =>
      obtain ⟨first, others⟩ := List.forall_mem_cons.mp unstarted
      obtain ⟨haltedStill, same⟩ := halted_apply halted handler first
      exact (induction haltedStill others).trans same

end Upkeep

/-- While a reaper goes on that has been started, no group is as old as the
timeout and the interval together once the sweeps that are due have been carried
out, and sweeps remove no group that is younger than the timeout. They are
carried out by one loop at the times that it has from its start; another start
is of no effect, and when the reaper is stopped or dropped the sweeps end. -/
theorem reaper_bounds_ages (handler : Handler) (capacity : Nat) (skew : Int)
    (before since : List Happening) (reaper : Reaper)
    (enabled : reaper.enabled = true) (positive : 0 < reaper.interval)
    (spare : ∀ happening ∈ since, happening.SparesReaper) :
    let idle := (Upkeep.begin capacity skew).run handler before
    let upkeep := (idle.apply handler .start).run handler since
    idle.reaping.reaper = some reaper → idle.reaping.handle = none →
    (upkeep.IsCaughtUp → ∀ key group, upkeep.store.get? key = some group →
      group.age upkeep.wallTime < (reaper.timeout : Int) + reaper.interval) ∧
    (∃ number, ∀ turns : List Happening,
      (∀ happening ∈ turns,
        ∃ surroundings, happening = .turn number surroundings) →
        upkeep.now < turns.length → (upkeep.run handler turns).IsCaughtUp) ∧
    (∃ swept, upkeep.sweeps = idle.sweeps ++ swept ∧
      swept.Pairwise (fun earlier later =>
        earlier.sweepLoop.due < later.sweepLoop.due) ∧
      ∀ past ∈ swept,
        (∃ count, past.sweepLoop.due = idle.now + count * reaper.interval) ∧
          ∀ key group, past.before.get? key = some group →
            past.after.get? key ≠ some group →
            (reaper.timeout : Int) ≤ group.age past.time) ∧
    upkeep.apply handler .start = upkeep ∧ upkeep.reaping.loops.length = 1 ∧
    ∀ halt, halt = .stop ∨ halt = .drop → ∀ later : List Happening,
      (∀ happening ∈ later, happening ≠ .start) →
        ((upkeep.apply handler halt).run handler later).sweeps =
          upkeep.sweeps := by
  intro idle upkeep found unstarted
  have kept : idle.IsKept :=
    (Upkeep.begin_isKept capacity skew).run handler before
  obtain ⟨sweepLoop, reaps⟩ :=
    (Upkeep.reaps_start kept found enabled unstarted positive).run
      positive handler spare
  have reaps : Upkeep.Reaps idle reaper upkeep sweepLoop := reaps
  refine ⟨fun caughtUp key group => reaps.age_lt caughtUp, ⟨sweepLoop.number,
    ?_⟩, ?_, reaps.start handler, by rw [reaps.loops]; rfl, ?_⟩
  · intro turns own enough
    exact reaps.caughtUp_of_turns positive handler own
      (Nat.lt_add_left _ enough)
  · obtain ⟨swept, sweeps, order, each⟩ := reaps.swept
    refine ⟨swept, sweeps, order, fun past member => ?_⟩
    obtain ⟨same, -, regular⟩ := each past member
    refine ⟨regular, fun key group held gone => ?_⟩
    have younger := reaps.kept.leavesYounger past
      (sweeps ▸ List.mem_append_right _ member) key
    rw [held, same] at younger
    by_contra! young
    exact gone (younger.trans (by simp [Option.filter, young]))
  · rintro halt halts later unstartedLater
    have halted : (upkeep.apply handler halt).reaping.loops = [] ∧
        (upkeep.apply handler halt).sweeps = upkeep.sweeps := by
      obtain rfl | rfl := halts
      · exact ⟨reaps.kept.reaping.stop_loops, rfl⟩
      · exact ⟨reaps.kept.reaping.stop_loops, rfl⟩
    exact (Upkeep.halted_run halted.1 handler unstartedLater).trans halted.2

/-! Two messages with keys of their own, the second half an interval after the
first. When the third sweep is due, only the first has lived for the timeout. -/

def halfway : List Happening :=
  [.call (.handle (numbered 0)) (fun _ => faltering), .turn 0 shut, .pass 10,
    .turn 0 shut, .pass 5, .call (.handle (numbered 1)) (fun _ => faltering),
    .pass 5, .turn 0 shut]

def keptUp : Upkeep :=
  ((Upkeep.begin 0 7).run byName [.make ⟨true, 10, 20⟩]).apply byName .start
    |>.run byName halfway

theorem keptUp_bounds_ages :
    keptUp.sweeps.length = 3 ∧
    keptUp.store.groups.map (fun entry => entry.2.createdAt) = [22] ∧
    ∀ key group, keptUp.store.get? key = some group → group.age 27 < 30 := by
  refine ⟨rfl, by decide +kernel, ?_⟩
  refine
    (reaper_bounds_ages byName 0 7 [.make ⟨true, 10, 20⟩] halfway ⟨true, 10, 20⟩
      rfl (by decide) (by simp [halfway, Happening.SparesReaper]) rfl rfl).1 ?_
  intro sweepLoop member
  have loops : keptUp.reaping.loops = [⟨0, ⟨true, 10, 20⟩, 30⟩] := rfl
  obtain rfl := List.mem_singleton.mp (loops ▸ member)
  decide

end Collate.Interleaving
