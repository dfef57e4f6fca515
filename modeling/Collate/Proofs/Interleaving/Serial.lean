import Collate.Proofs.Interleaving.Advance
import Mathlib.Logic.Function.Basic

namespace Collate.Interleaving

variable {discipline : Discipline} {environment : Environment} {system : System}
  {call : Nat} {key : Key} {ticket : Nat}

namespace System

theorem run_cons (environment : Environment) (system : System) (call : Nat)
    (schedule : List Nat) :
    run environment system (call :: schedule) =
      run environment (advance environment system call) schedule := rfl

theorem run_append (environment : Environment) (system : System)
    (first second : List Nat) :
    run environment system (first ++ second) =
      run environment (run environment system first) second := List.foldl_append

theorem trace_advance (environment : Environment) (system : System)
    (call : Nat) :
    ∃ new, (advance environment system call).trace = system.trace ++ new ∧
      ∀ event ∈ new, event.call = call := by
  have unchanged : ∃ new, system.trace = system.trace ++ new ∧
      ∀ event ∈ new, event.call = call := ⟨[], by simp, by simp⟩
  have added : ∀ event : Event, event.call = call →
      ∃ new, system.trace ++ [event] = system.trace ++ new ∧
        ∀ event ∈ new, event.call = call :=
    fun event mine => ⟨[event], rfl, by simpa using mine⟩
  unfold advance
  split
  · exact unchanged
  · exact added _ rfl
  · exact added _ rfl
  · split
    · exact added _ rfl
    · exact unchanged
  · exact unchanged
  · exact added _ rfl
  · exact added _ rfl

theorem trace_run (environment : Environment) (system : System)
    (schedule : List Nat) :
    ∃ new, (run environment system schedule).trace = system.trace ++ new ∧
      ∀ event ∈ new, event.call ∈ schedule := by
  induction schedule generalizing system with
  | nil => exact ⟨[], (List.append_nil _).symm, by simp⟩
  | cons call rest induction =>
      obtain ⟨first, firstTrace, mine⟩ := trace_advance environment system call
      obtain ⟨later, laterTrace, others⟩ :=
        induction (advance environment system call)
      refine ⟨first ++ later, ?_, fun event member => ?_⟩
      · rw [run_cons, laterTrace, firstTrace, List.append_assoc]
      · rcases List.mem_append.mp member with early | late
        · exact mine event early ▸ List.mem_cons_self
        · exact List.mem_cons_of_mem _ (others event late)

theorem own_run_of_not_mem {schedule : List Nat} (absent : call ∉ schedule) :
    (run environment system schedule).own call = system.own call := by
  obtain ⟨new, trace, members⟩ := trace_run environment system schedule
  have none : (new.filter fun event => event.call = call) = [] := by
    refine List.filter_eq_nil_iff.mpr fun event member same => absent ?_
    rw [← of_decide_eq_true same]
    exact members event member
  rw [own, trace, List.filter_append, none, List.append_nil, own]

theorem trace_run_replicate (environment : Environment) (system : System)
    (turns call : Nat) :
    ∃ new, (run environment system (List.replicate turns call)).trace =
      system.trace ++ new ∧
      (run environment system (List.replicate turns call)).own call =
        system.own call ++ new := by
  obtain ⟨new, trace, members⟩ :=
    trace_run environment system (List.replicate turns call)
  have mine : new.filter (fun event => event.call = call) = new :=
    List.filter_eq_self.mpr fun event member =>
      decide_eq_true (List.eq_of_mem_replicate (members event member))
  refine ⟨new, trace, ?_⟩
  rw [own, trace, List.filter_append, mine, own]

theorem alone_advance
    (alone : ∀ other, other ≠ call → (system.phase other).ticket? = none) :
    ∀ other, other ≠ call →
      ((system.advance environment call).phase other).ticket? = none := by
  intro other different
  rw [phase_advance_of_ne different]
  exact alone other different

end System

namespace Coherent

theorem advance_of_alone (coherent : Coherent discipline system)
    {next : Nat → Call Result}
    (alone : ∀ other, other ≠ call → (system.phase other).ticket? = none)
    (phase : system.phase call = .waiting key ticket next) :
    System.advance environment system call =
      system.enter call key ticket next := by
  obtain ⟨-, stands, -⟩ := (ready_waiting_iff phase).mp (coherent.ready call)
  have owning : system.locks.isOwner ticket = true := by
    apply coherent.sound.isOwner_of_alone stands
    intro claimed name stage claim
    obtain ⟨other, found⟩ := coherent.claimed claimed name stage claim
    by_cases same : other = call
    · subst same
      simpa [phase, Phase.ticket?] using found.symm
    · simp [alone other same] at found
  rw [System.advance_waiting phase, if_pos owning]

theorem advance_lock_of_alone (coherent : Coherent discipline system)
    {next : Nat → Call Result}
    (alone : ∀ other, other ≠ call → (system.phase other).ticket? = none)
    (phase : system.phase call = .outside (Program.ask (.lock key) next)) :
    (system.advance discipline.environment call).advance discipline.environment
      call = (system.ask call key next).enter call key
        (system.locks.join key).2 next := by
  have asks : system.advance discipline.environment call = _ :=
    System.advance_ask phase
  have waits : (system.ask call key next).phase call =
      .waiting key (system.locks.join key).2 next := System.phase_go_self _ _ _
  rw [← asks] at waits ⊢
  exact (coherent.advance call).advance_of_alone
    (System.alone_advance alone) waits

theorem comes_to_end (coherent : Coherent discipline system)
    (alone : ∀ other, other ≠ call → (system.phase other).ticket? = none)
    {rest : Call Result}
    (phase : system.phase call = .outside rest ∨
      ∃ key ticket, system.phase call = .inside key ticket rest) :
    ∃ turns, ((system.run discipline.environment
      (List.replicate turns call)).result? call).isSome := by
  induction rest generalizing system with
  | done result =>
      rcases phase with phase | ⟨key, ticket, phase⟩
      · exact ⟨0, by simp [System.run, System.result?_of_phase phase]⟩
      · have abides := ((ready_inside_iff phase).mp (coherent.ready call)).2.2
        cases abides
  | ask request next induction =>
      have going : ∀ answer,
          ((system.advance discipline.environment call).phase call =
            .outside (next answer) ∨
            ∃ key ticket, (system.advance discipline.environment call).phase
              call = .inside key ticket (next answer)) →
            ∃ turns, ((system.run discipline.environment
              (List.replicate turns call)).result? call).isSome := by
        intro answer phase
        obtain ⟨turns, come⟩ := induction answer (coherent.advance call)
          (System.alone_advance alone) phase
        exact ⟨turns + 1, come⟩
      rcases phase with phase | ⟨key, ticket, phase⟩
      · have abides := (ready_outside_iff phase).mp (coherent.ready call)
        cases abides with
        | @lock _ key next enters entering =>
            have entered := congrArg (System.phase · call)
              (coherent.advance_lock_of_alone alone phase)
            obtain ⟨turns, come⟩ :=
              induction _ ((coherent.advance call).advance call)
                (System.alone_advance (System.alone_advance alone))
                (.inr ⟨key, _, entered.trans (System.phase_go_self _ _ _)⟩)
            exact ⟨turns + 2, come⟩
        | aside isAside _ =>
            have gone := congrArg (System.phase · call) (System.advance_aside
                phase isAside : system.advance discipline.environment call = _)
            exact going _ (.inl (gone.trans (System.phase_go_self _ _ _)))
      · have abides := ((ready_inside_iff phase).mp (coherent.ready call)).2.2
        cases abides with
        | unlock left _ =>
            refine going () (.inl ?_)
            rw [System.advance_leave phase]
            exact System.phase_go_self _ _ _
        | about isAbout _ _ =>
            have gone := congrArg (System.phase · call) (System.advance_about
                phase isAbout : system.advance discipline.environment call = _)
            exact going _
              (.inr ⟨key, ticket, gone.trans (System.phase_go_self _ _ _)⟩)

theorem comes_to_end_of_free (coherent : Coherent discipline system)
    (free : ∀ other, (system.phase other).ticket? = none) (call : Nat) :
    ∃ turns, ((system.run discipline.environment
      (List.replicate turns call)).result? call).isSome := by
  have mine := free call
  cases phase : system.phase call with
  | outside rest =>
      exact coherent.comes_to_end (fun other _ => free other) (.inl phase)
  | waiting key ticket next => simp [phase, Phase.ticket?] at mine
  | inside key ticket rest => simp [phase, Phase.ticket?] at mine

end Coherent

/-- A schedule in which calls take all their turns one after another. -/
def oneByOne (turns : Nat → Nat) (order : List Nat) : List Nat :=
  order.flatMap fun call => List.replicate (turns call) call

theorem mem_of_mem_oneByOne {turns : Nat → Nat} {order : List Nat}
    (member : call ∈ oneByOne turns order) : call ∈ order := by
  obtain ⟨other, otherMember, same⟩ := List.mem_flatMap.mp member
  rw [List.eq_of_mem_replicate same]
  exact otherMember

theorem System.free_of_finished {capacity : Nat} {program : Nat → Call Result}
    {schedule : List Nat}
    (finished : ∀ call ∈ schedule,
      (((start capacity program).run environment schedule).result? call).isSome)
    (call : Nat) :
    (((start capacity program).run environment schedule).phase call).ticket? =
      none := by
  by_cases member : call ∈ schedule
  · obtain ⟨result, come⟩ := Option.isSome_iff_exists.mp (finished call member)
    rw [phase_of_result? come]
    rfl
  · rw [phase_run_of_not_mem member]
    rfl

theorem Coherent.exists_oneByOne (coherent : Coherent discipline system)
    (free : ∀ call, (system.phase call).ticket? = none)
    {order : List Nat} (once : order.Nodup) :
    ∃ turns, ∀ call ∈ order,
      ((system.run discipline.environment (oneByOne turns order)).result?
        call).isSome := by
  induction order generalizing system with
  | nil => exact ⟨fun _ => 0, by simp⟩
  | cons first rest induction =>
      obtain ⟨absent, restOnce⟩ := List.nodup_cons.mp once
      obtain ⟨count, come⟩ := coherent.comes_to_end_of_free free first
      set middle :=
        system.run discipline.environment (List.replicate count first)
      have freeStill : ∀ call, (middle.phase call).ticket? = none := by
        intro call
        by_cases same : call = first
        · obtain ⟨result, found⟩ := Option.isSome_iff_exists.mp come
          rw [same, System.phase_of_result? found]
          rfl
        · rw [System.phase_run_of_not_mem
            fun member => same (List.eq_of_mem_replicate member)]
          exact free call
      obtain ⟨turns, ends⟩ :=
        induction (coherent.run (List.replicate count first)) freeStill restOnce
      refine ⟨Function.update turns first count, ?_⟩
      have parts : oneByOne (Function.update turns first count) (first ::
          rest) = List.replicate count first ++ oneByOne turns rest := by
        unfold oneByOne
        rw [List.flatMap_cons, Function.update_self]
        refine congrArg _ (List.flatMap_congr fun call member => ?_)
        have different : call ≠ first := fun same => absent (same ▸ member)
        rw [Function.update_of_ne different]
      rw [parts, System.run_append]
      intro call member
      rcases List.mem_cons.mp member with rfl | later
      · rw [System.result?, System.phase_run_of_not_mem
          fun turn => absent (mem_of_mem_oneByOne turn)]
        exact come
      · exact ends call later

theorem System.trace_oneByOne {turns : Nat → Nat} {order : List Nat}
    (once : order.Nodup) (fresh : ∀ call ∈ order, system.own call = []) :
    (system.run environment (oneByOne turns order)).trace =
      system.trace ++ order.flatMap fun call =>
        (system.run environment (oneByOne turns order)).own call := by
  induction order generalizing system with
  | nil => simp [oneByOne, System.run]
  | cons first rest induction =>
      obtain ⟨absent, restOnce⟩ := List.nodup_cons.mp once
      have parts : oneByOne turns (first :: rest) = List.replicate (turns first)
          first ++ oneByOne turns rest := List.flatMap_cons
      rw [parts, System.run_append]
      obtain ⟨new, trace, mine⟩ :=
        trace_run_replicate environment system (turns first) first
      set middle := run environment system (List.replicate (turns first) first)
      have freshStill : ∀ call ∈ rest, middle.own call = [] := by
        intro call member
        have elsewhere : call ∉ List.replicate (turns first) first :=
          fun turn =>
            absent (List.eq_of_mem_replicate turn ▸ member)
        rw [own_run_of_not_mem elsewhere]
        exact fresh call (List.mem_cons_of_mem _ member)
      have done :
          (middle.run environment (oneByOne turns rest)).own first = new := by
        rw [own_run_of_not_mem fun turn => absent (mem_of_mem_oneByOne turn),
          mine, fresh first List.mem_cons_self, List.nil_append]
      rw [induction restOnce freshStill, trace, List.flatMap_cons, done,
        List.append_assoc]

end Collate.Interleaving
