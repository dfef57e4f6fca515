import Collate.Proofs.Handler.Upshot
import Collate.Proofs.Interleaving.Calm

namespace Collate.Interleaving

variable {discipline : Discipline} {circumstances : Nat → Circumstances}
  {calm after : Calm} {handler : Handler} {call ticket : Nat} {key : Key}
  {view : View} {visit : Visit}

/-- Whether the one call that is busy has the lock of a key and sees what there
is of it. -/
structure Within (key : Key) (ticket : Nat) (view : View)
    (calm : Calm) : Prop where
  sound : calm.locks.Sound
  stands : calm.locks.Stands ticket key (.guard view.keepsEntry)
  alone :
    ∀ other name stage, calm.locks.Stands other name stage → other = ticket
  stored : calm.store.get? key = view.stored

structure Spares (key : Key) (before after : Calm) : Prop where
  stored : ∀ name, name ≠ key → after.store.get? name = before.store.get? name
  entries :
    ∀ name, name ≠ key → after.locks.contains name = before.locks.contains name
  capacity : after.store.capacity = before.store.capacity
  subscribers : after.store.subscribers = before.store.subscribers
  sound : before.store.Sound → after.store.Sound

theorem Spares.refl (key : Key) (calm : Calm) : Spares key calm calm where
  stored _ _ := rfl
  entries _ _ := rfl
  capacity := rfl
  subscribers := rfl
  sound := id

theorem Spares.trans {before middle after : Calm}
    (first : Spares key before middle) (second : Spares key middle after) :
    Spares key before after where
  stored name different :=
    (second.stored name different).trans (first.stored name different)
  entries name different :=
    (second.entries name different).trans (first.entries name different)
  capacity := second.capacity.trans first.capacity
  subscribers := second.subscribers.trans first.subscribers
  sound := second.sound ∘ first.sound

theorem Within.spares (within : Within key ticket view calm)
    (circumstances : Nat → Circumstances) {request : Engine.Request}
    (isAbout : IsAbout key ticket request) :
    Spares key calm (Calm.answer circumstances request calm).2 := by
  rw [Calm.answer_of_isAbout _ _ isAbout]
  have frame : ((circumstances calm.turn).answer calm.store
      request).1.capacity = calm.store.capacity ∧ _ := answer_frame isAbout
  have settled := System.settle_eq within.sound within.stands isAbout
  refine ⟨fun name different => get?_answer_of_ne isAbout different,
    fun name _ => ?_, frame.1, frame.2, fun sound => sound.answer _ _⟩
  simp only [settled]
  rfl

theorem Within.answer (within : Within key ticket view calm)
    (circumstances : Nat → Circumstances) (call : Nat)
    {request : Engine.Request} (isAbout : IsAbout key ticket request) :
    Within key ticket (view.respond
      (circumstances calm.turn) calm.store.refusal? call key request).1
      (Calm.answer circumstances request calm).2 ∧
    (Calm.answer circumstances request calm).1 = (view.respond
      (circumstances calm.turn) calm.store.refusal? call key request).2 := by
  rw [Calm.answer_of_isAbout _ _ isAbout]
  obtain ⟨answered, stored⟩ :=
    answer_of_isAbout (circumstances calm.turn) calm.store isAbout
  have settled := System.settle_eq within.sound within.stands isAbout
  rw [within.stored] at answered stored
  refine ⟨⟨?_, ?_, ?_, stored⟩, answered⟩
  · simp only [settled]
    exact within.sound.setStage_guard
      (within.sound.isGuard_of_stands within.stands)
  · simp only [settled]
    exact (within.sound.stands_setStage within.stands).mpr
      (.inr ⟨rfl, rfl, rfl⟩)
  · intro other name stage stands
    simp only [settled] at stands
    rcases (within.sound.stands_setStage within.stands).mp stands with
      ⟨-, earlier⟩ | ⟨same, -⟩
    · exact within.alone other name stage earlier
    · exact same

theorem Within.run {α : Type} {program : Call α} {post : α → Visit → Prop}
    (within : Within key ticket visit.view calm)
    (turns : visit.own.length = calm.turn)
    (surroundings : discipline.environment call = circumstances)
    (capacity : calm.store.capacity = discipline.capacity)
    (ensures : discipline.Ensures call key ticket program visit post) :
    Spares key calm (Calm.run circumstances program calm).2 ∧
    ∃ after, post (Calm.run circumstances program calm).1 after ∧
      Within key ticket after.view (Calm.run circumstances program calm).2 := by
  induction program generalizing visit calm with
  | done value => exact ⟨.refl key calm, visit, ensures, within⟩
  | ask request next induction =>
      obtain ⟨isAbout, -, going⟩ := ensures
      obtain ⟨inside, answered⟩ := within.answer circumstances call isAbout
      have spares := within.spares circumstances isAbout
      have mayRefuse := mayRefuse_refusal? calm.store
      rw [capacity] at mayRefuse
      rw [surroundings, turns] at going
      have ensured := going _ mayRefuse (visit.respond (circumstances calm.turn)
          calm.store.refusal? call key request).1
          (Calm.answer circumstances request calm).1 (by rw [answered]; rfl)
      have turnsNext : (visit.respond (circumstances calm.turn)
          calm.store.refusal? call key request).1.own.length =
            (Calm.answer circumstances request calm).2.turn := by
        rw [Calm.answer_of_isAbout _ _ isAbout, ← turns]
        exact List.length_append
      obtain ⟨sparesLater, after, holds, withinLater⟩ :=
        induction _ inside turnsNext (spares.capacity.trans capacity) ensured
      exact ⟨spares.trans sparesLater, after, holds, withinLater⟩

/-- Whether nobody has a claim on a lock, and the entries are those of the
groups. -/
structure Tidy (store : Store) (locks : LockTable) : Prop where
  sound : locks.Sound
  unclaimed : ∀ ticket key stage, ¬ locks.Stands ticket key stage
  proper : store.Sound
  agrees : ∀ key, locks.contains key = (store.get? key).isSome

theorem tidy_start (capacity : Nat) :
    Tidy ((Store.empty capacity).subscribe System.subscriber) .empty where
  sound := LockTable.empty_sound
  unclaimed := by
    rintro ticket key stage ⟨mutex, member⟩
    simp [LockTable.empty] at member
  proper := (Store.empty_sound capacity).subscribe _
  agrees _ := rfl

theorem Tidy.isProper (tidy : Tidy calm.store calm.locks) (key : Key) :
    IsProper key (calm.store.get? key) :=
  fun _ found => tidy.proper.proper_of_get? found

theorem Tidy.enter (tidy : Tidy calm.store calm.locks)
    (circumstances : Nat → Circumstances) (key : Key) :
    Within key (calm.locks.join key).2
      { stored := calm.store.get? key, keepsEntry := false, events :=
          [] } (Calm.answer circumstances (.lock key) calm).2 ∧
    Spares key calm (Calm.answer circumstances (.lock key) calm).2 := by
  have joined :
      (calm.locks.join key).1.Stands (calm.locks.join key).2 key .pending :=
    LockTable.stands_join.mpr (.inr ⟨LockTable.ticket_join _ _, rfl, rfl⟩)
  have only :
      ∀ other name stage, (calm.locks.join key).1.Stands other name stage →
        other = (calm.locks.join key).2 := by
    intro other name stage stands
    rcases LockTable.stands_join.mp stands with earlier | ⟨same, -⟩
    · exact absurd earlier (tidy.unclaimed _ _ _)
    · exact same.trans (LockTable.ticket_join _ _).symm
  have sound := tidy.sound.join key
  have owning := sound.isOwner_of_alone joined only
  have entered := sound.enter_eq joined owning
  have locks : (Calm.answer circumstances (.lock key) calm).2.locks =
        (calm.locks.join key).1.setStage (calm.locks.join key).2
          (.guard false) := entered
  refine ⟨⟨?_, ?_, ?_, rfl⟩,
    ⟨fun _ _ => rfl, fun name different => ?_, rfl, rfl, id⟩⟩
  · exact sound.enter _
  · rw [locks]
    exact (sound.stands_setStage joined).mpr (.inr ⟨rfl, rfl, rfl⟩)
  · intro other name stage stands
    rw [locks] at stands
    rcases (sound.stands_setStage joined).mp stands with
      ⟨-, earlier⟩ | ⟨same, -⟩
    · exact only other name stage earlier
    · exact same
  · rw [locks]
    show (calm.locks.join key).1.contains name = _
    rw [LockTable.contains_join]
    simp [different]

theorem Within.release (within : Within key ticket view calm)
    (tied : Tied key view) (proper : calm.store.Sound)
    (agrees : ∀ name, name ≠ key →
      calm.locks.contains name = (calm.store.get? name).isSome) :
    Tidy calm.store (calm.locks.release ticket) := by
  have unclaimed : ∀ other name stage,
      ¬ (calm.locks.release ticket).Stands other name stage := by
    intro other name stage stands
    obtain ⟨different, earlier⟩ :=
      (within.sound.stands_release within.stands).mp stands
    exact different (within.alone other name stage earlier)
  refine ⟨within.sound.release ticket, unclaimed, proper, fun name => ?_⟩
  by_cases same : name = key
  · subst same
    rw [within.sound.contains_release_self within.stands
      fun other stage => unclaimed other _ stage, within.stored]
    exact tied.keeps
  · rw [within.sound.contains_release_of_ne within.stands same]
    exact agrees name same

theorem Tidy.locked {α : Type} {body : Nat → Call α}
    (tidy : Tidy calm.store calm.locks)
    (circumstances : Nat → Circumstances) (key : Key)
    (ensures : ∀ ticket visit, IsProper key visit.view.stored →
      visit.view.keepsEntry = false →
      (agreeing calm.store.capacity fun _ => circumstances).Ensures
        0 key ticket (body ticket) visit fun _ after => Tied key after.view) :
    Tidy (Calm.run circumstances (Handler.locked key body) calm).2.store
      (Calm.run circumstances (Handler.locked key body) calm).2.locks ∧
    Spares key calm
      (Calm.run circumstances (Handler.locked key body) calm).2 := by
  obtain ⟨within, entering⟩ := tidy.enter circumstances key
  have ensured := ensures (calm.locks.join key).2
    { own := List.replicate (calm.turn + 2) ⟨0, none, .entered⟩
      view :=
        { stored := calm.store.get? key, keepsEntry := false, events := [] } }
    (tidy.isProper key) rfl
  obtain ⟨sparing, after, tied, left⟩ :=
    within.run List.length_replicate rfl entering.capacity ensured
  rw [Calm.run_locked]
  have whole := entering.trans sparing
  have agrees : ∀ name, name ≠ key → _ := fun name different =>
    (whole.entries name different).trans ((tidy.agrees name).trans
      (congrArg Option.isSome (whole.stored name different).symm))
  refine ⟨left.release tied (whole.sound tidy.proper) agrees, whole.trans
    ⟨fun _ _ => rfl, fun name different => ?_, rfl, rfl, id⟩⟩
  exact left.sound.contains_release_of_ne left.stands different

section Working

variable (works : ∀ turn, (circumstances turn).fault = none)

include works

theorem Tidy.forceComplete (tidy : Tidy calm.store calm.locks)
    (handler : Handler) (seen : Group) :
    Tidy (Calm.run circumstances (handler.forceComplete seen) calm).2.store
      (Calm.run circumstances (handler.forceComplete seen) calm).2.locks ∧
    Spares seen.key calm
      (Calm.run circumstances (handler.forceComplete seen) calm).2 :=
  tidy.locked circumstances seen.key fun _ _ proper unkept =>
    Discipline.ensures_tied_finishSeen (fun _ _ => trivial) (fun _ => works)
      proper unkept rfl

theorem Tidy.handle (tidy : Tidy calm.store calm.locks) (handler : Handler)
    (message : Message) :
    Tidy (Calm.run circumstances (handler.handle message) calm).2.store
      (Calm.run circumstances (handler.handle message) calm).2.locks ∧
    (Calm.run circumstances (handler.handle message) calm).2.store.subscribers =
        calm.store.subscribers := by
  unfold Handler.handle
  cases handler.correlation message with
  | none => exact ⟨tidy, rfl⟩
  | some key =>
      obtain ⟨after, spares⟩ :=
        tidy.locked circumstances key fun _ _ proper unkept =>
          Discipline.ensures_tied_receive (fun _ _ => trivial) (fun _ => works)
            proper unkept message
      exact ⟨after, spares.subscribers⟩

theorem forceComplete_removes (handler : Handler) {seen : Group}
    (tidy : Tidy calm.store calm.locks)
    (held : calm.store.get? seen.key = some seen) :
    (Calm.run circumstances (handler.forceComplete seen) calm).2.store.get?
      seen.key = none := by
  rw [Handler.forceComplete, Calm.run_locked]
  set entered := (Calm.answer circumstances (.lock seen.key) calm).2
  have alone : Alone circumstances (handler.finishSeen
      (calm.locks.join seen.key).2 seen) ⟨entered.turn, entered.store, []⟩ _ :=
    alone_finishSeen works handler _ rfl (tidy.isProper seen.key)
  obtain ⟨processed, yields⟩ := Calm.of_alone alone
  refine yields.stored.trans ?_
  have heldStill : entered.store.get? seen.key = some seen := held
  simp [finished, heldStill]

omit works in
theorem alone_trivial {α : Type} (program : Call α) (progress : Progress) :
    Alone circumstances program progress fun _ _ => True := by
  induction program generalizing progress with
  | done value => trivial
  | ask request next induction =>
      cases request with
      | lock key => exact fun ticket => induction ticket _
      | _ => exact induction _ _

omit works in
theorem alone_finish_not_missed (handler : Handler) (ticket : Nat) (key : Key)
    (group : Group) (progress : Progress) :
    Alone circumstances (handler.finish ticket key group) progress
      fun result _ =>
        result ≠ .ok false := by
  refine (alone_trivial (handler.isDue group) progress).next
    fun isReady judged _ => ?_
  refine Alone.next (alone_trivial (Call.log _) judged) fun _ logged _ => ?_
  refine (alone_trivial (handler.conclude group isReady) logged).next
    fun finished concluded _ => ?_
  refine (alone_trivial (Handler.removeGroup ticket key) concluded).next
    fun removed cleared _ => ?_
  cases Call.firstFailure finished removed with
  | error error => exact fun same => by cases same
  | ok _ =>
      exact Alone.next (alone_trivial (Call.log _) cleared)
        fun _ _ _ same => by cases same

theorem forceComplete_not_missed (handler : Handler) {seen : Group}
    (tidy : Tidy calm.store calm.locks)
    (held : calm.store.get? seen.key = some seen) :
    (Calm.run circumstances (handler.forceComplete seen) calm).1 ≠
      .ok false := by
  rw [Handler.forceComplete, Calm.run_locked]
  set entered := (Calm.answer circumstances (.lock seen.key) calm).2
  have heldStill : entered.store.get? seen.key = some seen := held
  have alone : Alone circumstances
        (handler.finishSeen (calm.locks.join seen.key).2 seen) ⟨entered.turn,
          entered.store, []⟩ fun result _ => result ≠ .ok false := by
    have filled := (tidy.proper.proper_of_get? held).isEmpty
    rw [Handler.finishSeen_eq]
    refine (alone_load works).next fun answer loaded loads => ?_
    obtain ⟨answered, -⟩ := loads
    rw [heldStill, Option.getD_some] at answered
    subst answered
    simp only [Handler.finishFound, filled, Bool.false_eq_true, if_false, ne_eq,
      not_true_eq_false]
    refine Alone.next (alone_trivial (Call.ask _) loaded) fun _ retained _ => ?_
    exact alone_finish_not_missed handler _ _ _ retained
  exact (Calm.of_alone alone).choose_spec

end Working

theorem tidy_run (handler : Handler) (capacity : Nat)
    (environment : Environment) (calls : Nat → Invocation)
    (works : ∀ call turn, (environment call turn).fault = none)
    (schedule : List Nat) :
    let system :=
      (System.start capacity fun call => (calls call).program handler).run
        environment schedule
    (∀ call, (system.phase call).ticket? = none) →
      Tidy system.store system.locks := by
  intro system free
  have coherent : Coherent (agreeing capacity environment) system :=
    (Coherent.start (fun key => agrees_start)
      fun call => agreeing_program works (calls call)).run schedule
  have unclaimed := coherent.unclaimed_of_free free
  refine ⟨coherent.sound, unclaimed, ?_, fun key => ?_⟩
  · exact System.sound_run ((Store.empty_sound capacity).subscribe _) schedule
  · have agrees := coherent.idle key fun ticket keeps => unclaimed ticket key _
    exact (coherent.contains_of_free free key).trans agrees.stays

end Collate.Interleaving
