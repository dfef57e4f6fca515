import Collate.Proofs.Handler.Deeds

namespace Collate

namespace Handler

def settle (handler : Handler) (ticket : Nat) (key : Key) (message : Message)
    (group : Group) : Call (Except Error Unit) := do
  Call.ask (.retain ticket)
  Call.log (.admitted key group)
  let isReady ← Call.ask (.judge group)
  if isReady then handler.release ticket key group message.headers.replyChannel
  else if group.isComplete then handler.refuse ticket key group
  else return .ok ()

theorem enroll_eq (handler : Handler) (ticket : Nat) (key : Key)
    (message : Message) :
    handler.enroll ticket key message =
      (Call.ask (.add key message)).bind fun answer =>
        match answer with
        | .error error => Program.done (.error error)
        | .ok group => handler.settle ticket key message group := rfl

end Handler

namespace Interleaving

variable {discipline : Discipline} {handler : Handler} {call ticket : Nat}
  {key : Key} {visit : Visit} {group : Group} {message : Message}

/-- What may be stored of a key: nothing, or a group of the key. -/
def Kept (handler : Handler) (key : Key) (stored : Option Group) : Prop :=
  ∀ group, stored = some group → Belongs handler key group

theorem kept_none : Kept handler key none := by
  intro group stored
  simp at stored

theorem kept_some (belongs : Belongs handler key group) :
    Kept handler key (some group) := by
  rintro held ⟨rfl⟩
  exact belongs

theorem Kept.getD_empty {stored : Option Group} (kept : Kept handler key stored)
    (generation : Nat) (time : Int) :
    Belongs handler key (stored.getD (.empty key generation time)) := by
  cases stored with
  | none => exact .empty generation time
  | some group => exact kept group rfl

theorem Kept.map_markAll {stored : Option Group}
    (kept : Kept handler key stored) (time : Int) :
    Kept handler key (stored.map fun held => held.markAll time) := by
  cases stored with
  | none => exact kept_none
  | some group => exact kept_some ((kept group rfl).markAll time)

def leftBehind (group : Group) (time : Int) (stored : Option Group) :
    Option Group :=
  if group.isComplete || group.sequenceSize = 0 then none
  else stored.map fun held => held.markAll time

theorem Kept.leftBehind {stored : Option Group} (kept : Kept handler key stored)
    (group : Group) (time : Int) :
    Kept handler key (leftBehind group time stored) := by
  unfold Interleaving.leftBehind
  split
  · exact kept_none
  · exact kept.map_markAll time

theorem waiting_leftBehind (group : Group) (time : Int)
    (stored : Option Group) : waiting (leftBehind group time stored) = [] := by
  unfold leftBehind
  split
  · rfl
  · cases stored <;> simp [waiting]

/-- What becomes of a group that a message has joined, by whether it is ready:
what is stored then, which groups are processed, and which messages are
discarded. -/
inductive TurnsInto (isReady : Bool) (group : Group) :
    Option Group → List Group → List Message → Prop where
  | released (ready : isReady = true) (time : Int) :
      TurnsInto isReady group (leftBehind group time (some group)) [group] []
  | refused (unready : isReady = false) (complete : group.isComplete = true) :
      TurnsInto isReady group none [] group.unmarked
  | waits (unready : isReady = false) (incomplete : group.isComplete = false) :
      TurnsInto isReady group (some group) [] []

namespace TurnsInto

variable {isReady : Bool} {stored : Option Group} {processed : List Group}
  {discarded : List Message}
  (turns : TurnsInto isReady group stored processed discarded)

include turns

theorem kept (belongs : Belongs handler key group) :
    Kept handler key stored := by
  cases turns with
  | released ready time => exact (kept_some belongs).leftBehind group time
  | refused unready complete => exact kept_none
  | waits unready incomplete => exact kept_some belongs

theorem unmarked_perm : group.unmarked.Perm
    (waiting stored ++ processed.flatMap Group.unmarked ++ discarded) := by
  cases turns with
  | released ready time => simp [waiting_leftBehind]
  | refused unready complete => simp [waiting]
  | waits unready incomplete => simp [waiting]

end TurnsInto

/-- Between two moments of a visit, messages that come in, unless they cannot be
stored, and those that waited are accounted for: they wait, were processed, or
were discarded. -/
def Balances (discipline : Discipline) (handler : Handler) (call : Nat)
    (key : Key) (incoming : List Message) (refused : Bool)
    (before after : Visit) : Prop :=
  ∃ processed discarded,
    Deed discipline handler call key before after processed discarded refused ∧
      Kept handler key after.view.stored ∧
      ((if refused then [] else incoming) ++ waiting before.view.stored).Perm
        (waiting after.view.stored ++
          processed.flatMap Group.unmarked ++ discarded)

theorem program_handle_none
    (uncorrelated : handler.correlation message = none) :
    (Invocation.handle message).program handler =
      (Call.log (.withoutKey message)).bind fun _ =>
        Program.done (.handled (.error (.missingKey message.id.text))) := by
  simp [Invocation.program, Handler.handle, uncorrelated, Program.bind_assoc]

theorem program_handle_some
    (correlated : handler.correlation message = some key) :
    (Invocation.handle message).program handler = (Handler.locked key
      fun ticket => handler.receive ticket key message).bind fun result =>
        Program.done (.handled result) := by
  simp [Invocation.program, Handler.handle, correlated]

namespace Discipline.Serves

open Discipline

variable (serves : discipline.Serves handler key)

include serves

theorem ensures_discard (correlated : handler.correlation message = some key) :
    discipline.Ensures call key ticket (handler.discard key message) visit
      fun result after =>
        (discipline.Discards handler → result = .ok ()) ∧
          Deed discipline handler call key visit after [] [message] false ∧
          after.view.stored = visit.view.stored := by
  refine (serves.ensures_deliver correlated).next
    fun answer middle ⟨taken, deed, stored⟩ => ?_
  cases answer with
  | ok value => exact ⟨fun _ => rfl, deed, stored⟩
  | error error =>
      refine Ensures.next (serves.ensures_quiet trivial)
        fun _ after ⟨logDeed, logStored⟩ => ?_
      exact ⟨fun works => absurd (taken works) (by simp), deed.trans logDeed,
        logStored.trans stored⟩

theorem ensures_discardAll {messages : List Message}
    (correlated :
      ∀ message ∈ messages, handler.correlation message = some key) :
    discipline.Ensures call key ticket (handler.discardAll key messages) visit
      fun result after =>
        (discipline.Discards handler → result = .ok ()) ∧
          Deed discipline handler call key visit after [] messages false ∧
          after.view.stored = visit.view.stored := by
  induction messages generalizing visit with
  | nil => exact ⟨fun _ => rfl, Deed.refl visit, rfl⟩
  | cons message rest induction =>
      refine Ensures.next
        (serves.ensures_discard (correlated message List.mem_cons_self))
        fun result middle ⟨taken, deed, stored⟩ => ?_
      cases result with
      | ok value =>
          refine (induction fun other member =>
            correlated other (List.mem_cons_of_mem _ member)).imp
              fun result after ⟨restTaken, restDeed, restStored⟩ => ?_
          exact ⟨restTaken, deed.trans restDeed, restStored.trans stored⟩
      | error error =>
          have fails : ¬ discipline.Discards handler := fun works =>
            absurd (taken works) (by simp)
          exact ⟨fun works => absurd works fails,
            deed.of_not_discards fails, stored⟩

theorem ensures_removeGroup :
    discipline.Ensures call key ticket (Handler.removeGroup ticket key) visit
      fun result after =>
        result = .ok () ∧
          Deed discipline handler call key visit after [] [] false ∧
          after.view.stored = none := by
  refine serves.ensures_remove.next
    fun answer middle ⟨removed, deed, stored⟩ => ?_
  subst removed
  refine Ensures.next (serves.ensures_quiet rfl)
    fun _ after ⟨retireDeed, retireStored⟩ => ?_
  exact ⟨rfl, deed.trans retireDeed, retireStored.trans stored⟩

theorem ensures_cleanUp (sameKey : group.key = key) :
    discipline.Ensures call key ticket (Handler.cleanUp ticket group) visit
      fun result after =>
        result = .ok () ∧
          Deed discipline handler call key visit after [] [] false ∧
          ∃ time,
            after.view.stored = leftBehind group time visit.view.stored := by
  unfold Handler.cleanUp
  split
  · rename_i finished
    rw [sameKey]
    refine serves.ensures_removeGroup.imp
      fun result after ⟨removed, deed, stored⟩ => ?_
    exact ⟨removed, deed, 0, by rw [stored, leftBehind, if_pos finished]⟩
  · rename_i goesOn
    refine (serves.ensures_mark sameKey).next
      fun answer after ⟨marked, deed, time, stored⟩ => ?_
    obtain ⟨group, rfl⟩ := marked
    exact ⟨rfl, deed, time, by rw [stored, leftBehind, if_neg goesOn]⟩

theorem ensures_release (belongs : Belongs handler key group)
    (address : Option HeaderValue) :
    discipline.Ensures call key ticket
      (handler.release ticket key group address) visit fun _ after =>
        Deed discipline handler call key visit after [group] [] false ∧
          ∃ time,
            after.view.stored = leftBehind group time visit.view.stored := by
  refine (serves.ensures_process belongs).next
    fun outcome middle ⟨deed, stored⟩ => ?_
  refine (serves.ensures_cleanUp belongs.sameKey).next
    fun cleaned later ⟨_, cleanDeed, time, left⟩ => ?_
  refine Ensures.imp (serves.ensures_of_asks ?_)
    fun _ after ⟨replyDeed, replyStored⟩ => ?_
  · split
    · exact asks_ask_bind.mpr ⟨trivial, fun _ => trivial⟩
    · trivial
    · exact asks_ask_bind.mpr
        ⟨trivial, fun _ => asks_dispatch handler ticket key _ address⟩
  · exact ⟨(deed.trans cleanDeed).trans replyDeed, time,
      by rw [replyStored, left, stored]⟩

theorem ensures_refuse (belongs : Belongs handler key group) :
    discipline.Ensures call key ticket (handler.refuse ticket key group) visit
      fun _ after =>
        Deed discipline handler call key visit after [] group.unmarked false ∧
          after.view.stored = none := by
  refine Ensures.next (serves.ensures_quiet trivial)
    fun _ first ⟨refusalDeed, _⟩ => ?_
  have correlated :
      ∀ message ∈ group.unmarked, handler.correlation message = some key :=
    fun message member => belongs.members message (List.mem_of_mem_drop member)
  rw [belongs.sameKey]
  refine (serves.ensures_discardAll correlated).next
    fun discarded second ⟨_, discardDeed, _⟩ => ?_
  refine serves.ensures_removeGroup.next
    fun _ third ⟨_, removeDeed, removed⟩ => ?_
  refine Ensures.imp (serves.ensures_of_asks ?_)
    fun _ after ⟨reportDeed, reportStored⟩ => ?_
  · split
    · trivial
    · exact asks_ask_bind.mpr ⟨trivial, fun _ => trivial⟩
  · refine ⟨?_, reportStored.trans removed⟩
    simpa
      using ((refusalDeed.trans discardDeed).trans removeDeed).trans reportDeed

theorem ensures_settle (belongs : Belongs handler key group)
    (held : visit.view.stored = some group) :
    discipline.Ensures call key ticket (handler.settle ticket key message group)
      visit fun _ after => ∃ turn processed discarded,
        TurnsInto ((discipline.environment call turn).judge group) group
          after.view.stored processed discarded ∧
        Deed discipline handler call key visit after processed
          discarded false := by
  refine Ensures.next (serves.ensures_quiet rfl)
    fun _ retained ⟨retainDeed, retainStored⟩ => ?_
  refine Ensures.next (serves.ensures_quiet trivial)
    fun _ logged ⟨logDeed, logStored⟩ => ?_
  refine (serves.ensures_judge group).next
    fun isReady judged ⟨verdict, judgeDeed, judgeStored⟩ => ?_
  have before : Deed discipline handler call key visit judged [] [] false :=
    (retainDeed.trans logDeed).trans judgeDeed
  have stored : judged.view.stored = some group := by
    rw [judgeStored, logStored, retainStored, held]
  let turn := logged.own.length
  split
  · rename_i ready
    refine (serves.ensures_release belongs message.headers.replyChannel).imp
      fun _ after ⟨deed, time, left⟩ =>
        ⟨turn, [group], [], ?_, before.trans deed⟩
    rw [left, stored]
    exact .released (verdict.symm.trans ready) time
  · rename_i notReady
    have unready := verdict.symm.trans (Bool.eq_false_iff.mpr notReady)
    split
    · rename_i complete
      refine (serves.ensures_refuse belongs).imp fun _ after ⟨deed, removed⟩ =>
        ⟨turn, [], group.unmarked, ?_, before.trans deed⟩
      rw [removed]
      exact .refused unready complete
    · rename_i incomplete
      refine ⟨turn, [], [], ?_, before⟩
      rw [stored]
      exact .waits unready (Bool.eq_false_iff.mpr incomplete)

theorem ensures_enroll (correlated : handler.correlation message = some key)
    (kept : Kept handler key visit.view.stored) :
    discipline.Ensures call key ticket (handler.enroll ticket key message) visit
      fun result after => ∃ refused,
        Balances discipline handler call key [message] refused visit after ∧
          (refused = true →
            result = .error (.storeFull discipline.capacity)) := by
  rw [Handler.enroll_eq]
  apply (serves.ensures_add message).next
  intro answer added step
  rcases step with
    ⟨rfl, deed, stored, -⟩ | ⟨group, generation, time, rfl, deed, stored, sum⟩
  · refine ⟨true, ⟨[], [], deed, ?_, ?_⟩, fun _ => rfl⟩
    · rwa [stored]
    · simp [stored]
  · have belongs : Belongs handler key group := by
      rw [sum]
      exact (kept.getD_empty generation time).add correlated time
    have unmarked :
        group.unmarked = waiting visit.view.stored ++ [message] := by
      rw [sum, (kept.getD_empty generation time).unmarked_add,
        waiting_getD_empty]
    refine (serves.ensures_settle belongs stored).imp
      fun _ after ⟨turn, processed, discarded, turns, settleDeed⟩ => ?_
    refine ⟨false, ⟨processed, discarded, deed.trans settleDeed,
      turns.kept belongs, ?_⟩, nofun⟩
    exact List.perm_append_comm.trans (unmarked ▸ turns.unmarked_perm)

theorem ensures_receive (correlated : handler.correlation message = some key)
    (kept : Kept handler key visit.view.stored) :
    discipline.Ensures call key ticket (handler.receive ticket key message)
      visit fun result after => ∃ refused,
        Balances discipline handler call key [message] refused visit after ∧
          (refused = true →
            result = .error (.storeFull discipline.capacity)) := by
  rw [Handler.receive_eq]
  refine serves.ensures_load.next
    fun answer loaded ⟨loadDeed, loadStored, loads⟩ => ?_
  obtain ⟨generation, time, rfl⟩ := loads
  refine ensures_place
    (P := fun looked =>
      Deed discipline handler call key visit looked [] [] false ∧
        looked.view.stored = visit.view.stored)
    ⟨loadDeed, loadStored⟩ ?retains ?enrolls ?rejects
  case retains =>
    refine Ensures.imp (serves.ensures_quiet rfl)
      fun _ retained ⟨retainDeed, retainStored⟩ => ?_
    exact ⟨loadDeed.trans retainDeed, retainStored.trans loadStored⟩
  case enrolls =>
    intro _ looked ⟨deed, stored⟩
    refine (serves.ensures_enroll correlated (by rwa [stored])).imp
      fun result after ⟨refused, balances, full⟩ => ?_
    obtain ⟨processed, discarded, enrollDeed, enrollKept, account⟩ := balances
    rw [stored] at account
    have both := deed.trans enrollDeed
    rw [Bool.false_or] at both
    exact ⟨refused, ⟨_, _, both, enrollKept, account⟩, full⟩
  case rejects =>
    intro looked ⟨deed, stored⟩
    refine Ensures.next (serves.ensures_quiet trivial)
      fun _ logged ⟨logDeed, logStored⟩ => ?_
    refine (serves.ensures_discard correlated).imp
      fun _ after ⟨_, discardDeed, discardStored⟩ => ?_
    have unchanged : after.view.stored = visit.view.stored := by
      rw [discardStored, logStored, stored]
    refine ⟨false, ⟨_, _, (deed.trans logDeed).trans discardDeed, ?_, ?_⟩,
      nofun⟩
    · rwa [unchanged]
    · have swapped : ([message] ++ waiting visit.view.stored).Perm
          (waiting visit.view.stored ++ [message]) := List.perm_append_comm
      simpa [unchanged] using swapped

theorem ensures_releaseExpired (belongs : Belongs handler key group) :
    discipline.Ensures call key ticket (handler.releaseExpired group) visit
      fun _ after =>
        Deed discipline handler call key visit after [group] [] false ∧
          after.view.stored = visit.view.stored := by
  refine (serves.ensures_process belongs).next
    fun outcome processed ⟨deed, stored⟩ => ?_
  cases outcome with
  | error error => exact ⟨deed, stored⟩
  | ok outcome =>
      refine (serves.ensures_of_asks (asks_dispatch handler ticket _ outcome
        _)).imp fun _ after ⟨replyDeed, replyStored⟩ => ?_
      exact ⟨deed.trans replyDeed, replyStored.trans stored⟩

theorem ensures_conclude (belongs : Belongs handler key group)
    (isReady : Bool) :
    discipline.Ensures call key ticket (handler.conclude group isReady) visit
      fun _ after =>
        ∃ processed discarded,
          Deed discipline handler call key visit after processed discarded
            false ∧
            group.unmarked.Perm (processed.flatMap Group.unmarked ++
              discarded) := by
  unfold Handler.conclude
  split
  · refine (serves.ensures_releaseExpired belongs).imp
      fun _ after ⟨deed, _⟩ => ?_
    exact ⟨[group], [], deed, by simp⟩
  · rw [belongs.sameKey]
    refine (serves.ensures_discardAll fun message member =>
      belongs.members message (List.mem_of_mem_drop member)).imp
        fun _ after ⟨_, deed, _⟩ => ?_
    exact ⟨[], group.unmarked, deed, by simp⟩

theorem ensures_finish (belongs : Belongs handler key group)
    (held : visit.view.stored = some group) :
    discipline.Ensures call key ticket (handler.finish ticket key group) visit
      fun _ after =>
        Balances discipline handler call key [] false visit after := by
  have judges : Asks (IsQuiet ticket) (handler.isDue group) :=
    asks_isDue (fun _ => trivial) handler group
  refine (serves.ensures_of_asks judges).next
    fun isReady judged ⟨judgeDeed, _⟩ => ?_
  refine Ensures.next (serves.ensures_quiet trivial)
    fun _ logged ⟨logDeed, _⟩ => ?_
  refine (serves.ensures_conclude belongs isReady).next
    fun finished done ⟨processed, discarded, deed, account⟩ => ?_
  refine serves.ensures_removeGroup.next
    fun _ last ⟨_, removeDeed, removed⟩ => ?_
  refine Ensures.imp (serves.ensures_of_asks ?_)
    fun _ after ⟨reportDeed, reportStored⟩ => ?_
  · split
    · trivial
    · exact asks_ask_bind.mpr ⟨trivial, fun _ => trivial⟩
  · have nothing : after.view.stored = none := reportStored.trans removed
    refine ⟨_, _, (((judgeDeed.trans logDeed).trans deed).trans
      removeDeed).trans reportDeed, ?_, ?_⟩
    · rw [nothing]
      exact kept_none
    · simpa [nothing, held, waiting] using account

theorem ensures_finishSeen {seen : Group} (sameKey : seen.key = key)
    (kept : Kept handler key visit.view.stored) :
    discipline.Ensures call key ticket (handler.finishSeen ticket seen) visit
      fun _ after =>
        Balances discipline handler call key [] false visit after := by
  rw [Handler.finishSeen_eq, sameKey]
  refine serves.ensures_load.next
    fun answer loaded ⟨loadDeed, loadStored, loads⟩ => ?_
  obtain ⟨generation, time, rfl⟩ := loads
  refine ensures_finishFound
    (P := fun looked =>
      Deed discipline handler call key visit looked [] [] false ∧
        looked.view.stored = visit.view.stored)
    ⟨loadDeed, loadStored⟩ ?retains ?leaves ?finishes
  case retains =>
    refine Ensures.imp (serves.ensures_quiet rfl)
      fun _ retained ⟨retainDeed, retainStored⟩ => ?_
    exact ⟨loadDeed.trans retainDeed, retainStored.trans loadStored⟩
  case leaves =>
    intro looked event ⟨deed, stored⟩
    refine Ensures.next (serves.ensures_quiet trivial)
      fun _ after ⟨logDeed, logStored⟩ => ?_
    refine ⟨_, _, deed.trans logDeed, ?_, ?_⟩
    · rwa [logStored, stored]
    · simp [logStored, stored]
  case finishes =>
    intro notEmpty looked ⟨deed, stored⟩
    rw [sameKey]
    cases held : visit.view.stored with
    | none => simp [held, Group.isEmpty, Group.empty] at notEmpty
    | some group =>
        refine (serves.ensures_finish (kept group held)
          (stored.trans held)).imp fun _ after balances => ?_
        obtain ⟨processed, discarded, finishDeed, finishKept, account⟩ :=
          balances
        rw [stored] at account
        exact ⟨_, _, deed.trans finishDeed, finishKept, account⟩

end Discipline.Serves

end Interleaving

end Collate
