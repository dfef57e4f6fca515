import Collate.Proofs.Handler.Agreement
import Collate.Proofs.Handler.Errands
import Collate.Proofs.Interleaving.Alone

namespace Collate

def Group.remainder (group : Group) (isReady : Bool)
    (time : Int) : Option Group :=
  if group.isComplete then none
  else if !isReady then some group
  else if group.sequenceSize = 0 then none
  else some (group.markAll time)

namespace Interleaving

/-- What is stored of a key in the end, and what has been given to the
processor. -/
structure Upshot where
  stored : Option Group
  processed : List Group

/-- What a message makes of its key that may be added in a turn. The policy is
asked three turns later, and a group that is ready is cleaned up after two
more. -/
def admitted (circumstances : Nat → Circumstances) (turn : Nat) (hasRoom : Bool)
    (key : Key) (message : Message) (stored : Option Group) : Upshot :=
  if hasRoom then
    let group := (stored.getD (.empty key (circumstances turn).generation
      (circumstances turn).time)).add message (circumstances turn).time
    let isReady := (circumstances (turn + 3)).judge group
    { stored := group.remainder isReady (circumstances (turn + 5)).time
      processed := if isReady then [group] else [] }
  else { stored, processed := [] }

def received (circumstances : Nat → Circumstances) (turn : Nat) (hasRoom : Bool)
    (key : Key) (message : Message) (stored : Option Group) : Upshot :=
  let group := stored.getD
      (.empty key (circumstances turn).generation (circumstances turn).time)
  if group.canAdd message then
    admitted circumstances (turn + if stored.isSome then 2 else 1) hasRoom
      key message stored
  else { stored, processed := [] }

def finished (circumstances : Nat → Circumstances) (turn : Nat)
    (handler : Handler) (seen : Group) (stored : Option Group) : Upshot :=
  match stored with
  | none => { stored := none, processed := [] }
  | some group =>
      if group.generation ≠ seen.generation then { stored, processed := [] }
      else
        let isReady :=
          handler.partialOnExpiry || (circumstances (turn + 2)).judge group
        { stored := none, processed := if isReady then [group] else [] }

variable {circumstances : Nat → Circumstances}
  {progress before middle after : Progress} {handler : Handler} {ticket : Nat}
  {key : Key} {group : Group}

structure Still (before after : Progress) : Prop where
  store : after.store = before.store
  processed : after.processed = before.processed

/-- Between two moments something has come of a key, and nothing of any
other. -/
structure Yields (key : Key) (before after : Progress)
    (upshot : Upshot) : Prop where
  stored : after.store.get? key = upshot.stored
  others : ∀ name, name ≠ key → after.store.get? name = before.store.get? name
  processed : after.processed = before.processed ++ upshot.processed

theorem Still.trans (first : Still before middle)
    (second : Still middle after) : Still before after where
  store := second.store.trans first.store
  processed := second.processed.trans first.processed

theorem Still.yields (still : Still before after) :
    Yields key before after
      { stored := before.store.get? key, processed := [] } where
  stored := by rw [still.store]
  others name _ := by rw [still.store]
  processed := by simp [still.processed]

namespace Yields

variable {stored laterStored : Option Group}
  {processed laterProcessed : List Group}

theorem trans (first : Yields key before middle { stored, processed })
    (second : Yields key middle after
      { stored := laterStored, processed := laterProcessed }) :
    Yields key before after
      { stored := laterStored, processed := processed ++ laterProcessed } where
  stored := second.stored
  others name different :=
    (second.others name different).trans (first.others name different)
  processed := by
    rw [second.processed, first.processed, List.append_assoc]

theorem of_still {upshot : Upshot} (still : Still before middle)
    (yields : Yields key middle after upshot) :
    Yields key before after upshot where
  stored := yields.stored
  others name different := by rw [yields.others name different, still.store]
  processed := by rw [yields.processed, still.processed]

theorem still {upshot : Upshot} (yields : Yields key before middle upshot)
    (still : Still middle after) : Yields key before after upshot where
  stored := by rw [still.store, yields.stored]
  others name different := by rw [still.store, yields.others name different]
  processed := by rw [still.processed, yields.processed]

end Yields

theorem alone_about (key : Key) (ticket : Nat) (request : Engine.Request)
    (isAbout : IsAbout key ticket request) :
    Alone circumstances (Call.ask request) progress fun answer after =>
      answer = ((circumstances progress.turn).shelve progress.store.refusal?
          (progress.store.get? key) request).2 ∧
        Yields key progress after
          { stored :=
              ((circumstances progress.turn).shelve progress.store.refusal?
                (progress.store.get? key) request).1
            processed := (handed request).toList } ∧
        after.turn = progress.turn + 1 := by
  have plain : IsPlain request := by
    cases request <;> first | exact trivial | exact isAbout.elim
  obtain ⟨answered, stored⟩ :=
    answer_of_isAbout (circumstances progress.turn) progress.store isAbout
  refine (alone_ask plain).mpr
    ⟨answered, ⟨stored, fun name different => ?_, rfl⟩, rfl⟩
  exact get?_answer_of_ne isAbout different

theorem alone_silent (request : Engine.Request) (silent : IsSilent request) :
    Alone circumstances (Call.ask request) progress fun answer after =>
      answer = ((circumstances progress.turn).answer progress.store request).2 ∧
        Still progress after ∧ after.turn = progress.turn + 1 := by
  have plain : IsPlain request := by
    cases request <;> first | exact trivial | exact silent.elim
  refine (alone_ask plain).mpr ⟨rfl, ⟨?_, ?_⟩, rfl⟩
  · cases request <;> first | rfl | exact silent.elim
  · cases request <;> first | exact List.append_nil _ | exact silent.elim

theorem alone_of_asks {α : Type} {program : Call α}
    (asks : Asks IsSilent program) :
    Alone circumstances program progress
      fun _ after => Still progress after := by
  induction program generalizing progress with
  | done value => exact ⟨rfl, rfl⟩
  | ask request next induction =>
      obtain ⟨silent, asks⟩ := asks
      refine (alone_silent request silent).next
        fun answer middle ⟨_, still, _⟩ => ?_
      exact (induction answer (asks answer)).imp
        fun _ after later => still.trans later

theorem asks_silent_dispatch (handler : Handler) (key : Key) (outcome : Outcome)
    (address : Option HeaderValue) :
    Asks IsSilent (handler.dispatch key outcome address) :=
  asks_dispatch_of (fun _ => trivial) (fun _ => trivial) (fun _ => trivial)
    (fun _ _ _ => trivial) handler key outcome address

theorem asks_silent_discardAll (handler : Handler) (key : Key)
    (messages : List Message) :
    Asks IsSilent (handler.discardAll key messages) :=
  asks_discardAll_of (fun _ _ => trivial) (fun _ => trivial)
    handler key messages

section Working

variable (works : ∀ turn, (circumstances turn).fault = none)

include works

theorem alone_load :
    Alone circumstances (Call.ask (.load key)) progress fun answer after =>
      answer = .ok ((progress.store.get? key).getD (.empty key (circumstances
        progress.turn).generation (circumstances progress.turn).time)) ∧
        Still progress after ∧ after.turn = progress.turn + 1 := by
  simp only [Call.ask, Alone, Progress.respond, Circumstances.answer,
    Circumstances.unlessFault, works, handed, Option.toList_none,
    List.append_nil]
  exact ⟨rfl, ⟨rfl, rfl⟩, trivial⟩

theorem alone_removeGroup (ticket : Nat) (key : Key) :
    Alone circumstances (Handler.removeGroup ticket key) progress fun _ after =>
      Yields key progress after { stored := none, processed := [] } := by
  refine (alone_about key ticket (.remove key) rfl).next
    fun answer removed ⟨answered, yields, _⟩ => ?_
  simp only [Circumstances.shelve, works] at answered yields
  subst answered
  exact Alone.next (alone_silent (.retire ticket) trivial)
    fun _ after retires =>
      yields.still retires.2.1

theorem alone_cleanUp (ticket : Nat) (sameKey : group.key = key)
    (held : progress.store.get? key = some group) :
    Alone circumstances (Handler.cleanUp ticket group) progress fun _ after =>
      Yields key progress after
        { stored := group.remainder true (circumstances progress.turn).time,
          processed := [] } := by
  unfold Handler.cleanUp Group.remainder
  rw [sameKey]
  cases complete : group.isComplete with
  | true => exact alone_removeGroup works ticket key
  | false =>
      by_cases unsized : group.sequenceSize = 0
      · simp only [unsized, decide_true, Bool.or_true, if_true, Bool.not_true,
          Bool.false_eq_true, if_false]
        exact alone_removeGroup works ticket key
      · simp only [unsized, decide_false, Bool.or_false, Bool.false_eq_true,
          if_false, Bool.not_true]
        refine (alone_about key ticket (.mark group) sameKey).next
          fun answer marked ⟨answered, yields, _⟩ => ?_
        simp only [Circumstances.shelve, works, held] at answered yields
        subst answered
        exact yields

theorem alone_release (handler : Handler) (ticket : Nat)
    (sameKey : group.key = key) (held : progress.store.get? key = some group)
    (address : Option HeaderValue) :
    Alone circumstances (handler.release ticket key group address) progress
      fun _ after =>
        Yields key progress after
          { stored :=
            group.remainder true (circumstances (progress.turn + 1)).time
            processed := [group] } := by
  refine (alone_about key ticket (.process group) trivial).next
    fun outcome processed ⟨_, yields, turn⟩ => ?_
  have stillHeld : processed.store.get? key = some group :=
    yields.stored.trans held
  refine (alone_cleanUp works ticket sameKey stillHeld).next
    fun cleaned cleared later => ?_
  rw [turn] at later
  refine (alone_of_asks ?_).imp
    fun _ after still => (yields.trans later).still still
  split
  · exact ⟨trivial, fun _ => trivial⟩
  · trivial
  · exact asks_ask_bind.mpr
      ⟨trivial, fun _ => asks_silent_dispatch handler key _ address⟩

theorem alone_refuse (handler : Handler) (ticket : Nat) (key : Key)
    (group : Group) :
    Alone circumstances (handler.refuse ticket key group) progress
      fun _ after =>
        Yields key progress after { stored := none, processed := [] } := by
  refine Alone.next (alone_silent (.log _) trivial)
    fun _ logged ⟨_, logs, _⟩ => ?_
  refine (alone_of_asks (asks_silent_discardAll handler _ _)).next
    fun discarded middle discards => ?_
  refine (alone_removeGroup works ticket key).next
    fun removed cleared yields => ?_
  refine (alone_of_asks ?_).imp fun _ after still =>
    (yields.of_still (logs.trans discards)).still still
  split
  · trivial
  · exact ⟨trivial, fun _ => trivial⟩

theorem alone_enroll (handler : Handler) (ticket : Nat) (message : Message)
    (proper : IsProper key (progress.store.get? key)) :
    Alone circumstances (handler.enroll ticket key message) progress
      fun _ after =>
        Yields key progress after (admitted circumstances progress.turn
          progress.store.hasRoom key message (progress.store.get? key)) := by
  refine (alone_about key ticket (.add key message) rfl).next
    fun answer added ⟨answered, yields, addTurn⟩ => ?_
  have sumProper := proper.add_getD (circumstances progress.turn).generation
      message (circumstances progress.turn).time
  unfold admitted
  simp only [Circumstances.shelve, works, Option.none_or, Store.refusal?]
    at answered yields
  cases room : progress.store.hasRoom with
  | false =>
      simp only [room, Bool.false_eq_true, if_false] at answered yields ⊢
      subst answered
      exact yields
  | true =>
      simp only [room, if_true] at answered yields ⊢
      subst answered
      generalize ((progress.store.get? key).getD _).add message _ = group
        at sumProper yields ⊢
      refine Alone.next (alone_silent (.retain ticket) trivial)
        fun _ retained retaining => ?_
      obtain ⟨-, retains, retainTurn⟩ := retaining
      refine Alone.next (alone_silent (.log _) trivial)
        fun _ logged logging => ?_
      obtain ⟨-, logs, logTurn⟩ := logging
      refine Alone.next (alone_silent (.judge group) trivial)
        fun isReady judged judging => ?_
      obtain ⟨verdict, judges, judgeTurn⟩ := judging
      have logged_turn : logged.turn = progress.turn + 3 := by omega
      have judged_turn : judged.turn = progress.turn + 4 := by omega
      rw [logged_turn] at verdict
      have untouched := (yields.still retains).still (logs.trans judges)
      cases isReady with
      | true =>
          refine (alone_release works handler ticket sumProper.sameKey
            untouched.stored _).imp fun _ after release => ?_
          have whole := untouched.trans release
          rw [judged_turn] at whole
          rw [← show true = (circumstances (progress.turn + 3)).judge group
            from verdict]
          exact whole
      | false =>
          rw [← show false = (circumstances (progress.turn + 3)).judge group
            from verdict]
          cases complete : group.isComplete with
          | true =>
              refine (alone_refuse works handler ticket key group).imp
                fun _ after refuses => ?_
              have whole := untouched.trans refuses
              simpa [Group.remainder, complete, handed] using whole
          | false =>
              show Yields key progress judged _
              simpa [Group.remainder, complete, handed] using untouched

theorem alone_receive (handler : Handler) (ticket : Nat) (message : Message)
    (proper : IsProper key (progress.store.get? key)) :
    Alone circumstances (handler.receive ticket key message) progress
      fun _ after =>
        Yields key progress after (received circumstances progress.turn
          progress.store.hasRoom key message (progress.store.get? key)) := by
  refine (alone_load works).next
    fun answer loaded ⟨answered, loads, loadTurn⟩ => ?_
  subst answered
  unfold received
  have going : ∀ looked : Progress, Still progress looked →
    looked.turn = progress.turn + (if (progress.store.get? key).isSome then 2
      else 1) →
    Alone circumstances (if ((progress.store.get? key).getD
      (.empty key (circumstances progress.turn).generation
        (circumstances progress.turn).time)).canAdd message then
          handler.enroll ticket key message
        else do
          Call.log (.rejected key message)
          handler.discard key message) looked fun _ after =>
        Yields key progress after (if ((progress.store.get? key).getD
          (.empty key (circumstances progress.turn).generation
            (circumstances progress.turn).time)).canAdd message then
            admitted circumstances
              (progress.turn + if (progress.store.get? key).isSome then 2 else
                1) progress.store.hasRoom key message (progress.store.get? key)
          else { stored := progress.store.get? key, processed := [] }) := by
    intro looked still turn
    split
    · have properStill : IsProper key (looked.store.get? key) := by
        rwa [still.store]
      refine (alone_enroll works handler ticket message properStill).imp
        fun _ after yields => ?_
      rw [still.store, turn] at yields
      exact yields.of_still still
    · refine Alone.imp (alone_of_asks (asks_ask_bind.mpr ⟨trivial, fun _ =>
        asks_discard_of (fun _ _ => trivial) (fun _ => trivial)
          handler key message⟩))
        fun _ after quiet => (still.trans quiet).yields
  simp only [proper.isEmpty_getD, Bool.not_not]
  cases held : (progress.store.get? key).isSome with
  | true =>
      rw [held] at going
      refine Alone.next (alone_silent (.retain ticket) trivial)
        fun _ retained ⟨_, retains, retainTurn⟩ => ?_
      exact going retained (loads.trans retains) (by simp; omega)
  | false =>
      rw [held] at going
      exact going loaded loads (by simpa using loadTurn)

omit works in
theorem alone_conclude (handler : Handler) (key : Key) (group : Group)
    (isReady : Bool) :
    Alone circumstances (handler.conclude group isReady) progress fun _ after =>
      Yields key progress after
        { stored := progress.store.get? key, processed :=
            if isReady then [group] else [] } := by
  cases isReady with
  | true =>
      refine (alone_about key 0 (.process group) trivial).next
        fun outcome processed ⟨_, yields, _⟩ => ?_
      cases outcome with
      | error error => exact yields
      | ok outcome =>
          exact (alone_of_asks (asks_silent_dispatch handler _ outcome _)).imp
            fun _ after still => yields.still still
  | false =>
      exact (alone_of_asks (asks_silent_discardAll handler _ _)).imp
        fun _ after still => still.yields

theorem alone_finish (handler : Handler) (ticket : Nat) (key : Key)
    (group : Group) :
    Alone circumstances (handler.finish ticket key group) progress
      fun _ after =>
        Yields key progress after
          { stored := none
            processed := if handler.partialOnExpiry ||
              (circumstances progress.turn).judge group then
              [group] else [] } := by
  have due : Alone circumstances (handler.isDue group) progress
    fun isReady after =>
      isReady =
        (handler.partialOnExpiry || (circumstances progress.turn).judge group) ∧
        Still progress after := by
    unfold Handler.isDue
    cases handler.partialOnExpiry with
    | true => exact ⟨rfl, ⟨rfl, rfl⟩⟩
    | false =>
        refine (alone_silent (.judge group) trivial).imp
          fun isReady after ⟨verdict, still, _⟩ => ?_
        exact ⟨verdict, still⟩
  refine due.next fun isReady judged ⟨verdict, judges⟩ => ?_
  refine Alone.next (alone_silent (.log _) trivial)
    fun _ logged ⟨_, logs, _⟩ => ?_
  refine (alone_conclude handler key group isReady).next
    fun ended concluded concludes => ?_
  refine (alone_removeGroup works ticket key).next
    fun removed cleared removes => ?_
  refine (alone_of_asks ?_).imp fun _ after still => ?_
  · split
    · trivial
    · exact ⟨trivial, fun _ => trivial⟩
  · rw [← verdict]
    have whole :=
      ((concludes.trans removes).of_still (judges.trans logs)).still still
    rwa [List.append_nil] at whole

theorem alone_finishSeen (handler : Handler) (ticket : Nat) {seen : Group}
    (sameKey : seen.key = key)
    (proper : IsProper key (progress.store.get? key)) :
    Alone circumstances (handler.finishSeen ticket seen) progress fun _ after =>
      Yields key progress after (finished circumstances progress.turn handler
        seen (progress.store.get? key)) := by
  unfold Handler.finishSeen finished
  rw [sameKey]
  refine (alone_load works).next
    fun answer loaded ⟨answered, loads, loadTurn⟩ => ?_
  subst answered
  simp only [proper.isEmpty_getD]
  cases held : progress.store.get? key with
  | none =>
      refine Alone.next (alone_silent (.log _) trivial)
        fun _ logged ⟨_, logs, _⟩ => ?_
      have whole : Yields key progress logged _ := (loads.trans logs).yields
      rwa [held] at whole
  | some group =>
      refine Alone.next (alone_silent (.retain ticket) trivial)
        fun _ retained ⟨_, retains, retainTurn⟩ => ?_
      simp only [Option.getD_some]
      split
      · refine Alone.next (alone_silent (.log _) trivial)
          fun _ logged ⟨_, logs, _⟩ => ?_
        have whole : Yields key progress logged _ :=
          ((loads.trans retains).trans logs).yields
        rwa [held] at whole
      · refine (alone_finish works handler ticket key group).imp
          fun _ after yields => ?_
        have turn : retained.turn = progress.turn + 2 := by omega
        rw [turn] at yields
        exact yields.of_still (loads.trans retains)

end Working

theorem key_of_admitted {stored : Option Group} (proper : IsProper key stored)
    {turn : Nat} {hasRoom : Bool} {message : Message}
    (member : group ∈
      (admitted circumstances turn hasRoom key message stored).processed) :
    group.key = key := by
  have sumProper := proper.add_getD (circumstances turn).generation message
    (circumstances turn).time
  unfold admitted at member
  cases hasRoom with
  | false => simp at member
  | true =>
      simp only [if_true, List.mem_ite_nil_right, List.mem_singleton] at member
      rw [member.2]
      exact sumProper.sameKey

theorem key_of_finished {stored : Option Group} (proper : IsProper key stored)
    {turn : Nat} {seen : Group}
    (member :
      group ∈ (finished circumstances turn handler seen stored).processed) :
    group.key = key := by
  unfold finished at member
  cases held : stored with
  | none => simp [held] at member
  | some inStore =>
      simp only [held] at member
      split at member
      · simp at member
      · simp only [List.mem_ite_nil_right, List.mem_singleton] at member
        rw [member.2]
        exact (proper inStore held).sameKey

namespace Errand

def upshot (errand : Errand) (handler : Handler)
    (circumstances : Nat → Circumstances) (hasRoom : Bool) (key : Key)
    (stored : Option Group) : Upshot :=
  if errand.key? handler = some key then
    match errand with
    | .handle message => received circumstances 2 hasRoom key message stored
    | .forceComplete seen => finished circumstances 2 handler seen stored
  else { stored, processed := [] }

variable {errand : Errand} {stored : Option Group} {hasRoom : Bool}

theorem upshot_of_ne (apart : errand.key? handler ≠ some key) :
    errand.upshot handler circumstances hasRoom key stored =
      { stored, processed := [] } := by
  unfold upshot
  rw [if_neg apart]

theorem key_of_processed (proper : IsProper key stored)
    (member : group ∈
      (errand.upshot handler circumstances hasRoom key stored).processed) :
    group.key = key := by
  unfold upshot at member
  split at member
  · cases errand with
    | handle message =>
        simp only [received] at member
        split at member
        · exact key_of_admitted proper member
        · simp at member
    | forceComplete seen => exact key_of_finished proper member
  · simp at member

theorem alone_course (works : ∀ turn, (circumstances turn).fault = none)
    (found : errand.key? handler = some key)
    (ticket : Nat) (begins : progress.turn = 2)
    (proper : IsProper key (progress.store.get? key)) :
    Alone circumstances (errand.course handler key ticket) progress
      fun _ after =>
        Yields key progress after (errand.upshot handler circumstances
          progress.store.hasRoom key (progress.store.get? key)) := by
  unfold upshot
  rw [if_pos found, ← begins]
  cases errand with
  | handle message =>
      exact (alone_receive works handler ticket message proper).next
        fun _ _ => id
  | forceComplete seen =>
      exact (alone_finishSeen works handler ticket (Option.some.inj found)
        proper).next fun _ _ => id

structure Makes (errand : Errand) (handler : Handler)
    (circumstances : Nat → Circumstances) (before after : Progress) : Prop where
  stored : ∀ key, after.store.get? key = (errand.upshot handler circumstances
    before.store.hasRoom key (before.store.get? key)).stored
  processed : ∃ groups, after.processed = before.processed ++ groups ∧
    ∀ key, (groups.filter fun group => group.key = key) = (errand.upshot handler
      circumstances before.store.hasRoom key (before.store.get? key)).processed

theorem makes_of_yields (found : errand.key? handler = some key)
    (proper : IsProper key (before.store.get? key))
    (yields : Yields key before after (errand.upshot
      handler circumstances before.store.hasRoom key (before.store.get? key))) :
    errand.Makes handler circumstances before after := by
  have apart : ∀ name, name ≠ key → errand.key? handler ≠ some name := by
    intro name different same
    exact different (Option.some.inj (same.symm.trans found))
  refine ⟨fun name => ?_, _, yields.processed, fun name => ?_⟩
  · by_cases same : name = key
    · rw [same]
      exact yields.stored
    · rw [upshot_of_ne (apart name same)]
      exact yields.others name same
  · by_cases same : name = key
    · rw [same]
      exact List.filter_eq_self.mpr fun group member =>
        decide_eq_true (key_of_processed proper member)
    · rw [upshot_of_ne (apart name same)]
      refine List.filter_eq_nil_iff.mpr fun group member keyed => same ?_
      rw [← of_decide_eq_true keyed]
      exact key_of_processed proper member

theorem makes_of_still (apart : errand.key? handler = none)
    (still : Still before after) :
    errand.Makes handler circumstances before after := by
  have ne : ∀ key, errand.key? handler ≠ some key := by simp [apart]
  refine ⟨fun name => ?_, [], by simp [still.processed], fun name => ?_⟩
  · rw [upshot_of_ne (ne name), still.store]
  · rw [upshot_of_ne (ne name)]
    rfl

theorem alone_makes (works : ∀ turn, (circumstances turn).fault = none)
    (errand : Errand) (begins : progress.turn = 0)
    (proper : ∀ key, IsProper key (progress.store.get? key)) :
    Alone circumstances (errand.invocation.program handler) progress
      fun _ after =>
        errand.Makes handler circumstances progress after := by
  cases found : errand.key? handler with
  | some key =>
      rw [program_eq found]
      simp only [Handler.locked, Program.bind_eq, Call.ask, Program.bind_ask,
        Program.bind_done, Program.bind_assoc, Program.pure_eq]
      intro ticket
      have entered : ({ progress with turn := progress.turn + 2 } :
          Progress).turn = 2 := by
        simp [begins]
      refine (alone_course works found ticket entered (proper key)).next
        fun result left yields => ?_
      refine makes_of_yields found (proper key)
        ⟨yields.stored, yields.others, ?_⟩
      exact (List.append_nil _).trans yields.processed
  | none =>
      cases errand with
      | handle message =>
          rw [invocation, program_handle_none found]
          refine Alone.next (alone_silent (.log _) trivial)
            fun _ logged logs => ?_
          exact makes_of_still found logs.2.1
      | forceComplete seen => simp [key?] at found

end Errand

end Interleaving

end Collate
