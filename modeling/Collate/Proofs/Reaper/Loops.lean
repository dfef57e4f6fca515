import Collate.Reaper
import Mathlib.Algebra.Order.Group.Nat

namespace Collate

namespace Reaper

variable {reaper : Reaper} {due now : Nat}

theorem lt_nextDue (positive : 0 < reaper.interval) (due now : Nat) :
    due < reaper.nextDue due now := by
  have rest := Nat.mod_lt (now - due) positive
  unfold nextDue
  split <;> omega

theorem nextDue_le (late : due ≤ now) :
    reaper.nextDue due now ≤ now + reaper.interval := by
  unfold nextDue
  split <;> omega

theorem exists_nextDue_eq (reaper : Reaper) (late : due ≤ now) :
    ∃ count, reaper.nextDue due now = due + count * reaper.interval := by
  unfold nextDue
  split
  · refine ⟨(now - due) / reaper.interval + 1, ?_⟩
    have parts := Nat.div_add_mod (now - due) reaper.interval
    rw [Nat.mul_comm] at parts
    rw [Nat.add_mul, Nat.one_mul]
    omega
  · exact ⟨1, by rw [Nat.one_mul]⟩

end Reaper

namespace Reaping

/-- Whether no loop goes on but the one that the reaper has started and not
stopped. -/
structure Sound (reaping : Reaping) : Prop where
  alone : reaping.loops.length ≤ 1
  held : ∀ sweepLoop ∈ reaping.loops, reaping.handle = some sweepLoop.number

variable {reaping : Reaping} {reaper : Reaper}

theorem empty_sound : Sound .empty where
  alone := Nat.zero_le _
  held := by simp [empty]

namespace Sound

theorem of_loops_eq_nil (none : reaping.loops = []) : reaping.Sound where
  alone := by simp [none]
  held := by simp [none]

theorem loops_of_idle (sound : reaping.Sound) (idle : reaping.handle = none) :
    reaping.loops = [] := by
  apply List.eq_nil_iff_forall_not_mem.mpr
  intro sweepLoop member
  simp [sound.held sweepLoop member] at idle

theorem stop_loops (sound : reaping.Sound) : reaping.stop.loops = [] := by
  unfold Reaping.stop
  cases handle : reaping.handle with
  | none => exact sound.loops_of_idle handle
  | some number =>
      apply List.filter_eq_nil_iff.mpr
      intro sweepLoop member
      have held := sound.held sweepLoop member
      rw [handle, Option.some_inj] at held
      simp [held]

theorem start (sound : reaping.Sound) (now : Nat) :
    (reaping.start now).Sound := by
  unfold Reaping.start
  split
  · rename_i reaper _
    split
    · exact sound
    · rename_i idle
      have handle : reaping.handle = none := by
        simp only [isRunning, Bool.or_eq_true, not_or,
          Option.not_isSome_iff_eq_none] at idle
        exact idle.2
      constructor
      · rw [sound.loops_of_idle handle]
        split <;> simp
      · rw [sound.loops_of_idle handle]
        split <;> simp
  · exact sound

theorem proceed (sound : reaping.Sound) (number now : Nat) :
    (reaping.proceed number now).Sound where
  alone := by
    rw [Reaping.proceed, List.length_map]
    exact sound.alone
  held sweepLoop member := by
    obtain ⟨before, earlier, rfl⟩ := List.mem_map.mp member
    rw [apply_ite SweepLoop.number, SweepLoop.next, ite_self]
    exact sound.held before earlier

end Sound

theorem start_of_isRunning (running : reaping.isRunning = true) (now : Nat) :
    reaping.start now = reaping := by
  unfold start
  cases reaping.reaper <;> simp [running]

theorem start_eq (found : reaping.reaper = some reaper)
    (enabled : reaper.enabled = true) (idle : reaping.handle = none)
    (positive : 0 < reaper.interval) (now : Nat) :
    reaping.start now =
      { reaping with
        handle := some reaping.started
        loops :=
          reaping.loops ++ [{ number := reaping.started, reaper, due := now }]
        started := reaping.started + 1 } := by
  simp [start, found, enabled, isRunning, idle, Nat.ne_of_gt positive]

theorem loop?_of_loops {sweepLoop : SweepLoop}
    (loops : reaping.loops = [sweepLoop]) (number : Nat) :
    reaping.loop? number =
      if sweepLoop.number = number then some sweepLoop else none := by
  simp [loop?, loops, List.find?_singleton]

theorem proceed_loops {sweepLoop : SweepLoop}
    (loops : reaping.loops = [sweepLoop]) (now : Nat) :
    (reaping.proceed sweepLoop.number now).loops = [sweepLoop.next now] := by
  simp [proceed, loops]

end Reaping

end Collate
