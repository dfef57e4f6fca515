import Collate.Proofs.Interleaving.Serial

namespace Collate.Interleaving

variable {discipline : Discipline} {system : System} {call : Nat}
  {key : Key} {ticket : Nat}

theorem System.length_claims_settle (locks : LockTable)
    (request : Engine.Request) :
    (settle locks request).claims.length = locks.claims.length := by
  cases request with
  | retain ticket =>
      simp only [settle, LockTable.retain]
      split
      · exact LockTable.length_claims_setStage locks ticket _
      · rfl
  | retire ticket =>
      simp only [settle, LockTable.retire]
      split
      · exact LockTable.length_claims_setStage locks ticket _
      · rfl
  | _ => rfl

theorem System.isSome_result?_run {environment : Environment}
    (finished : (system.result? call).isSome) (schedule : List Nat) :
    ((system.run environment schedule).result? call).isSome := by
  induction schedule generalizing system with
  | nil => exact finished
  | cons other rest induction =>
      refine induction ?_
      obtain ⟨result, come⟩ := Option.isSome_iff_exists.mp finished
      have phase := System.phase_of_result? come
      by_cases same : call = other
      · subst same
        have still : system.advance environment call = system := by
          simp only [System.advance, phase]
        rwa [still]
      · rw [System.result?_of_phase
          ((System.phase_advance_of_ne same).trans phase)]
        rfl

namespace Coherent

theorem gives_back (coherent : Coherent discipline system) {rest : Call Result}
    (phase : system.phase call = .inside key ticket rest) :
    ∃ turns, ((system.run discipline.environment (List.replicate turns
      call)).locks.claims.length < system.locks.claims.length) := by
  -- The claims stay as many as they are until the call leaves, and it leaves
  -- because its program ends.
  induction rest generalizing system with
  | done result => cases ((ready_inside_iff phase).mp (coherent.ready call)).2.2
  | ask request next induction =>
      have abides := ((ready_inside_iff phase).mp (coherent.ready call)).2.2
      cases abides with
      | unlock left _ =>
          obtain ⟨keeps, stands⟩ := coherent.stands_of_inside phase
          refine ⟨1, ?_⟩
          show
            (system.advance discipline.environment call).locks.claims.length < _
          rw [System.advance_leave phase]
          exact coherent.sound.length_claims_release stands
      | about isAbout _ _ =>
          have gone : system.advance discipline.environment call = _ :=
            System.advance_about phase isAbout
          have claims :
            (system.advance discipline.environment call).locks.claims.length =
              system.locks.claims.length := by
            rw [gone]
            exact System.length_claims_settle system.locks request
          obtain ⟨turns, fewer⟩ :=
            induction _ (coherent.advance call) ((congrArg (System.phase · call)
              gone).trans (System.phase_go_self _ _ _))
          rw [claims] at fewer
          exact ⟨turns + 1, fewer⟩

theorem exists_fewer_claims (coherent : Coherent discipline system)
    (found : (system.phase call).ticket? = some ticket) :
    ∃ schedule,
      (system.run discipline.environment schedule).locks.claims.length <
      system.locks.claims.length := by
  obtain ⟨key, stage, stands⟩ := coherent.stands_of_ticket found
  obtain ⟨owner, ownerStage, owns, owning⟩ := coherent.sound.exists_owner stands
  obtain ⟨first, ⟨next, phase, rfl⟩ | ⟨rest, -, phase, -⟩⟩ :=
    coherent.phase_of_stands owns
  · have enters : system.advance discipline.environment first =
        system.enter first key owner next := by
      rw [System.advance_waiting phase, if_pos owning]
    have claims :
        (system.advance discipline.environment first).locks.claims.length =
          system.locks.claims.length := by
      rw [enters, System.enter, System.locks_go,
        coherent.sound.enter_eq owns owning]
      exact LockTable.length_claims_setStage system.locks owner _
    obtain ⟨turns, fewer⟩ := (coherent.advance first).gives_back ((congrArg
      (System.phase · first) enters).trans (System.phase_go_self _ _ _))
    rw [claims] at fewer
    exact ⟨first :: List.replicate turns first, fewer⟩
  · obtain ⟨turns, fewer⟩ := coherent.gives_back phase
    exact ⟨List.replicate turns first, fewer⟩

theorem exists_free (coherent : Coherent discipline system) :
    ∃ schedule, ∀ call,
      ((system.run discipline.environment schedule).phase call).ticket? =
      none := by
  induction count : system.locks.claims.length using Nat.strongRecOn
    generalizing system with
  | ind count induction =>
      by_cases free : ∀ call, (system.phase call).ticket? = none
      · exact ⟨[], free⟩
      · push Not at free
        obtain ⟨call, taken⟩ := free
        obtain ⟨ticket, found⟩ := Option.ne_none_iff_exists'.mp taken
        obtain ⟨first, fewer⟩ := coherent.exists_fewer_claims found
        obtain ⟨later, free⟩ :=
          induction _ (count ▸ fewer) (coherent.run first) rfl
        exact ⟨first ++ later, by rwa [System.run_append]⟩

/-- No call is ever stuck: there are always turns after which it is at its
end. -/
theorem exists_end (coherent : Coherent discipline system) (call : Nat) :
    ∃ schedule,
      ((system.run discipline.environment schedule).result? call).isSome := by
  obtain ⟨first, free⟩ := coherent.exists_free
  obtain ⟨turns, come⟩ := (coherent.run first).comes_to_end_of_free free call
  exact ⟨first ++ List.replicate turns call, by rwa [System.run_append]⟩

theorem exists_ends (coherent : Coherent discipline system) (calls : List Nat) :
    ∃ schedule, ∀ call ∈ calls,
      ((system.run discipline.environment schedule).result? call).isSome := by
  induction calls generalizing system with
  | nil => exact ⟨[], nofun⟩
  | cons call rest induction =>
      obtain ⟨first, finished⟩ := coherent.exists_end call
      obtain ⟨later, finishedRest⟩ := induction (coherent.run first)
      refine ⟨first ++ later, fun other member => ?_⟩
      rw [System.run_append]
      rcases List.mem_cons.mp member with rfl | among
      · exact System.isSome_result?_run finished later
      · exact finishedRest other among

end Coherent

end Collate.Interleaving
