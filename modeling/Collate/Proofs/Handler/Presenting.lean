import Collate.Proofs.Handler.Agreement
import Collate.Proofs.Handler.Snapshot
import Collate.Proofs.Interleaving.Holders
import Collate.Proofs.Store.Admission

namespace Collate.Interleaving

variable {handler : Handler} {policy : Group → Bool} {calls : Nat → Invocation}
  {invocation : Invocation} {capacity : Nat} {environment : Environment}
  {call ticket : Nat} {key : Key} {visit : Visit} {group : Group}
  {message : Message} {stored : Option Group} {processed : List Group}

/-- A group as a handler keeps it: where nothing in it is new, it waits for more
members of its sequence. -/
structure Kempt (key : Key) (group : Group) : Prop where
  proper : group.Proper key
  regular : group.Regular
  spent :
    group.unmarked = [] → group.isComplete = false ∧ group.sequenceSize ≠ 0

def IsKempt (key : Key) (stored : Option Group) : Prop :=
  ∀ group, stored = some group → Kempt key group

theorem isKempt_none : IsKempt key none := nofun

theorem isKempt_some (kempt : Kempt key group) : IsKempt key (some group) := by
  rintro held ⟨rfl⟩
  exact kempt

theorem unmarked_add_ne_nil (marked : group.markedCount ≤ group.size)
    (message : Message) (time : Int) :
    (group.add message time).unmarked ≠ [] := by
  have more : (group.add message time).unmarked = group.unmarked ++ [message] :=
    List.drop_append_of_le_length marked
  simp [more]

theorem kempt_add (proper : (group.add message time).Proper key)
    (marked : group.markedCount ≤ group.size)
    (regular : group.Regular) (admits : group.canAdd message = true) :
    Kempt key (group.add message time) where
  proper := proper
  regular := regular.add admits time
  spent := fun spent => absurd spent (unmarked_add_ne_nil marked message time)

theorem IsKempt.add_getD (kempt : IsKempt key stored) {generation : Nat}
    {time : Int}
    (admits : (stored.getD (.empty key generation time)).canAdd message = true)
    (laterGeneration : Nat) (later : Int) :
    Kempt key
      ((stored.getD (.empty key laterGeneration later)).add message later) := by
  cases stored with
  | none =>
      exact kempt_add (.add_empty key _ message later) (Nat.le_refl _)
        (Group.regular_empty key _ _)
        (by simp [Group.canAdd, Group.empty, Group.isEmpty])
  | some group =>
      have held := kempt group rfl
      exact kempt_add (held.proper.add message later) held.proper.marked
        held.regular admits

theorem Kempt.markAll (kempt : Kempt key group)
    (incomplete : group.isComplete = false) (sized : group.sequenceSize ≠ 0)
    (time : Int) : Kempt key (group.markAll time) where
  proper := kempt.proper.markAll time
  regular := kempt.regular.markAll time
  spent := fun _ => ⟨incomplete, sized⟩

/-- A group that a call may have processed. -/
structure Presents (handler : Handler) (policy : Group → Bool)
    (invocation : Invocation) (key : Key) (group : Group) : Prop where
  kempt : Kempt key group
  ready : policy group = true ∨ invocation.takesIn = false ∧
    handler.partialOnExpiry = true

def Permits (handler : Handler) (policy : Group → Bool)
    (invocation : Invocation) (key : Key) (processed : List Group) :
    Engine.Request → Prop
  | .process group =>
      processed = [] ∧ Presents handler policy invocation key group
  | .deliverWithin _ _ _ =>
      ∃ group, processed = [group] ∧
        Presents handler policy invocation key group
  | _ => True

def presented (events : List Event) : List Group :=
  (sinceEntered events).filterMap Event.processed?

def presenting (handler : Handler) (policy : Group → Bool)
    (calls : Nat → Invocation) (capacity : Nat) (environment : Environment) :
    Discipline where
  capacity := capacity
  environment := environment
  enters _ _ := True
  allows key events request := ∀ call, holder? events = some call →
    Permits handler policy (calls call) key (presented events) request
  idle key view := IsKempt key view.stored
  ends _ _ _ := True

def groupsOf : Engine.Request → List Group
  | .process group => [group]
  | _ => []

theorem presented_answered (events : List Event) {request : Engine.Request}
    (isAbout : IsAbout key ticket request) (answer : request.Answer) :
    presented (events ++ [⟨call, some key, .answered request answer⟩]) =
      presented events ++ groupsOf request := by
  unfold presented
  rw [sinceEntered_append, List.filterMap_append]
  · congr 1
    cases request <;> rfl
  · intro event member
    rw [List.mem_singleton.mp member]
    exact ⟨key, ticket, request, answer, isAbout, rfl⟩

structure Visit.Has (call : Nat) (processed : List Group)
    (stored : Option Group) (visit : Visit) : Prop where
  holder : holder? visit.view.events = some call
  processed : presented visit.view.events = processed
  stored : visit.view.stored = stored

theorem has_enter (view : View) (own : List Event) :
    Visit.Has call [] view.stored ⟨own, view.enter call key⟩ where
  holder := holder?_append _ _
  processed := by
    rw [View.enter, presented, sinceEntered_entered, List.filterMap_nil]
  stored := rfl

namespace Discipline

section Presenting

variable (decides : ∀ call turn, (environment call turn).judge = policy)

include decides

theorem ensures_permitted {request : Engine.Request}
    (isAbout : IsAbout key ticket request)
    (has : visit.Has call processed stored)
    (permits : Permits handler policy (calls call) key processed request) :
    (presenting handler policy calls capacity environment).Ensures call key
      ticket (Call.ask request) visit fun answer after =>
        ∃ (circumstances : Circumstances) (refusal : Option Error),
          circumstances.judge = policy ∧
          answer = (circumstances.shelve refusal stored request).2 ∧
          after.Has call (processed ++ groupsOf request)
            (circumstances.shelve refusal stored request).1 := by
  refine ⟨isAbout, fun holder held => ?_,
    fun refusal _ after answer responded => ?_⟩
  · obtain rfl : call = holder := Option.some.inj (has.holder.symm.trans held)
    rwa [has.processed]
  · obtain ⟨grows, shelved, answered⟩ := grows_respond responded
    rw [has.stored] at shelved answered
    refine ⟨_, refusal, decides _ _, answered, ?_, ?_, shelved⟩
    · rw [grows.events, holder?_append]
    · rw [grows.events, presented_answered _ isAbout, has.processed]

theorem ensures_other {request : Engine.Request}
    (isAbout : IsAbout key ticket request)
    (has : visit.Has call processed stored) (nothing : groupsOf request = [])
    (permits : Permits handler policy (calls call) key processed request) :
    (presenting handler policy calls capacity environment).Ensures call key
      ticket (Call.ask request) visit fun answer after =>
        ∃ (circumstances : Circumstances) (refusal : Option Error),
          circumstances.judge = policy ∧
            answer = (circumstances.shelve refusal stored request).2 ∧
            after.Has call processed
              (circumstances.shelve refusal stored request).1 := by
  refine (ensures_permitted decides isAbout has permits).imp
    fun answer after ⟨circumstances, refusal, judges, answered, later⟩ => ?_
  rw [nothing, List.append_nil] at later
  exact ⟨circumstances, refusal, judges, answered, later⟩

theorem ensures_still {request : Engine.Request}
    (isAbout : IsAbout key ticket request) (keeps : ¬ Alters request)
    (has : visit.Has call processed stored) (nothing : groupsOf request = [])
    (permits : Permits handler policy (calls call) key processed request) :
    (presenting handler policy calls capacity environment).Ensures
      call key ticket (Call.ask request) visit
      fun _ after => after.Has call processed stored := by
  refine (ensures_other decides isAbout has nothing permits).imp
    fun answer after ⟨circumstances, refusal, _, _, later⟩ => ?_
  rwa [shelve_of_not_alters keeps] at later

theorem ensures_calm {α : Type} {program : Call α}
    (asks : Asks (IsCalm ticket) program)
    (has : visit.Has call processed stored) :
    (presenting handler policy calls capacity environment).Ensures call key
      ticket program visit fun _ after => after.Has call processed stored := by
  induction program generalizing visit with
  | done value => exact has
  | ask request next induction =>
      obtain ⟨calm, asks⟩ := asks
      have nothing : groupsOf request = [] := by
        cases request <;> first | rfl | exact calm.elim
      have permits :
          Permits handler policy (calls call) key processed request := by
        cases request <;> trivial
      exact Ensures.next
        (ensures_still decides calm.isAbout calm.not_alters has nothing permits)
        fun answer middle later => induction answer (asks answer) later

theorem ensures_replies {α : Type} {program : Call α}
    (asks : Asks (IsQuiet ticket) program) (has : visit.Has call [group] stored)
    (presents : Presents handler policy (calls call) key group) :
    (presenting handler policy calls capacity environment).Ensures call key
      ticket program visit fun _ after => after.Has call [group] stored := by
  induction program generalizing visit with
  | done value => exact has
  | ask request next induction =>
      obtain ⟨quiet, asks⟩ := asks
      have permits :
          Permits handler policy (calls call) key [group] request := by
        cases request with
        | deliverWithin limit channel message => exact ⟨group, rfl, presents⟩
        | judge | retain | retire | build | resolve | log => trivial
        | _ => exact quiet.elim
      have nothing : groupsOf request = [] := by
        cases request <;> first | rfl | exact quiet.elim
      exact Ensures.next (ensures_still decides quiet.isAbout quiet.not_alters
        has nothing permits)
        fun answer middle later => induction answer (asks answer) later

theorem ensures_seen (has : visit.Has call processed stored) :
    (presenting handler policy calls capacity environment).Ensures call key
      ticket (Call.ask (.load key)) visit fun answer after =>
        ((∃ error, answer = .error error) ∨
          ∃ generation time,
            answer = .ok (stored.getD (.empty key generation time))) ∧
        after.Has call processed stored := by
  have isAbout : IsAbout key ticket (.load key) := rfl
  refine (ensures_other decides isAbout has rfl trivial).imp
    fun answer after ⟨circumstances, refusal, _, answered, later⟩ => ?_
  have keeps : ¬ Alters (.load key) := id
  rw [shelve_of_not_alters keeps] at later
  refine ⟨?_, later⟩
  cases fault : circumstances.fault with
  | some error =>
      simp only [Circumstances.shelve, fault] at answered
      exact .inl ⟨error, answered⟩
  | none =>
      simp only [Circumstances.shelve, fault] at answered
      exact .inr ⟨_, _, answered⟩

theorem ensures_verdict (has : visit.Has call processed stored)
    (group : Group) :
    (presenting handler policy calls capacity environment).Ensures call key
      ticket (Call.ask (.judge group)) visit fun answer after =>
        answer = policy group ∧ after.Has call processed stored := by
  have isAbout : IsAbout key ticket (.judge group) := trivial
  refine (ensures_other decides isAbout has rfl trivial).imp
    fun answer after ⟨circumstances, refusal, judges, answered, later⟩ => ?_
  refine ⟨answered.trans ?_, later⟩
  exact congrFun judges group

theorem ensures_joined (has : visit.Has call processed stored)
    (kempt : IsKempt key stored) {generation : Nat} {time : Int}
    (admits :
      (stored.getD (.empty key generation time)).canAdd message = true) :
    (presenting handler policy calls capacity environment).Ensures call key
      ticket (Call.ask (.add key message)) visit fun answer after =>
        (∃ error, answer = .error error ∧ after.Has call processed stored) ∨
          ∃ group, answer = .ok group ∧ after.Has call processed (some group) ∧
            Kempt key group := by
  have isAbout : IsAbout key ticket (.add key message) := rfl
  refine (ensures_other decides isAbout has rfl trivial).imp
    fun answer after ⟨circumstances, refusal, _, answered, later⟩ => ?_
  simp only [Circumstances.shelve] at answered later
  cases failure : circumstances.fault.or refusal with
  | some error =>
      rw [failure] at answered later
      exact .inl ⟨error, answered, later⟩
  | none =>
      rw [failure] at answered later
      exact .inr ⟨_, answered, later, kempt.add_getD admits _ _⟩

theorem ensures_removeGroup (has : visit.Has call processed stored)
    (kempt : IsKempt key stored) :
    (presenting handler policy calls capacity environment).Ensures call key
      ticket (Handler.removeGroup ticket key) visit fun _ after =>
        ∃ left, after.Has call processed left ∧ IsKempt key left := by
  have isAbout : IsAbout key ticket (.remove key) := rfl
  refine (ensures_other decides isAbout has rfl trivial).next
    fun answer removed ⟨circumstances, refusal, _, answered, later⟩ => ?_
  cases fault : circumstances.fault with
  | some error =>
      simp only [Circumstances.shelve, fault] at answered later
      subst answered
      exact ⟨stored, later, kempt⟩
  | none =>
      simp only [Circumstances.shelve, fault] at answered later
      subst answered
      have isRetire : IsAbout key ticket (.retire ticket) := rfl
      exact (ensures_still decides isRetire id later rfl trivial).next
        fun _ after retired => ⟨none, retired, isKempt_none⟩

theorem ensures_mark (has : visit.Has call processed (some group))
    (kempt : Kempt key group)
    (incomplete : group.isComplete = false) (sized : group.sequenceSize ≠ 0) :
    (presenting handler policy calls capacity environment).Ensures call key
      ticket (Call.ask (.mark group)) visit fun _ after =>
        ∃ left, after.Has call processed left ∧ IsKempt key left := by
  have isAbout : IsAbout key ticket (.mark group) := kempt.proper.sameKey
  refine (ensures_other decides isAbout has rfl trivial).imp
    fun answer after ⟨circumstances, refusal, _, _, later⟩ => ⟨_, later, ?_⟩
  simp only [Circumstances.shelve]
  cases circumstances.fault with
  | some error => exact isKempt_some kempt
  | none => exact isKempt_some (kempt.markAll incomplete sized _)

theorem ensures_cleanUp (has : visit.Has call processed (some group))
    (kempt : Kempt key group) :
    (presenting handler policy calls capacity environment).Ensures call key
      ticket (Handler.cleanUp ticket group) visit fun _ after =>
        ∃ left, after.Has call processed left ∧ IsKempt key left := by
  unfold Handler.cleanUp
  split
  · rw [kempt.proper.sameKey]
    exact ensures_removeGroup decides has (isKempt_some kempt)
  · rename_i waits
    simp only [Bool.or_eq_true, decide_eq_true_eq, not_or, Bool.not_eq_true]
      at waits
    refine (ensures_mark decides has kempt waits.1 waits.2).next
      fun answer after marked => ?_
    cases answer <;> exact marked

theorem ensures_presented (has : visit.Has call [] stored)
    (presents : Presents handler policy (calls call) key group) :
    (presenting handler policy calls capacity environment).Ensures
      call key ticket (Call.ask (.process group)) visit
      fun _ after => after.Has call [group] stored := by
  have isAbout : IsAbout key ticket (.process group) := trivial
  exact (ensures_permitted decides isAbout has ⟨rfl, presents⟩).imp
    fun outcome after ⟨circumstances, refusal, _, _, later⟩ => later

theorem ensures_release (has : visit.Has call [] (some group))
    (presents : Presents handler policy (calls call) key group)
    (address : Option HeaderValue) :
    (presenting handler policy calls capacity environment).Ensures call key
      ticket (handler.release ticket key group address) visit fun _ after =>
        IsKempt key after.view.stored := by
  refine (ensures_presented decides has presents).next
    fun outcome processed has => ?_
  refine (ensures_cleanUp decides has presents.kempt).next
    fun cleaned cleared ⟨left, has, kempt⟩ => ?_
  refine (ensures_replies decides ?_ has presents).imp fun _ after has => ?_
  · split
    · exact ⟨trivial, fun _ => trivial⟩
    · trivial
    · exact asks_ask_bind.mpr ⟨trivial, fun _ =>
        asks_dispatch handler ticket key _ address⟩
  · rwa [has.stored]

theorem ensures_refuse (has : visit.Has call processed (some group))
    (kempt : Kempt key group) :
    (presenting handler policy calls capacity environment).Ensures
      call key ticket (handler.refuse ticket key group) visit
      fun _ after => IsKempt key after.view.stored := by
  have discards :
      Asks (IsCalm ticket) (handler.discardAll group.key group.unmarked) :=
    asks_discardAll_of (fun _ _ => trivial) (fun _ => trivial) handler _ _
  refine Ensures.next (ensures_calm decides ⟨trivial, fun _ => trivial⟩ has)
    fun _ logged has => ?_
  refine (ensures_calm decides discards has).next fun discarded middle has => ?_
  refine (ensures_removeGroup decides has (isKempt_some kempt)).next
    fun removed cleared ⟨left, has, keptSo⟩ => ?_
  refine Ensures.imp (ensures_calm decides ?_ has) fun _ after has => ?_
  · split
    · trivial
    · exact ⟨trivial, fun _ => trivial⟩
  · rwa [has.stored]

theorem ensures_enroll (has : visit.Has call [] stored)
    (kempt : IsKempt key stored) {generation : Nat} {time : Int}
    (admits :
      (stored.getD (.empty key generation time)).canAdd message = true) :
    (presenting handler policy calls capacity environment).Ensures call key
      ticket (handler.enroll ticket key message) visit
      fun _ after => IsKempt key after.view.stored := by
  refine (ensures_joined decides has kempt admits).next
    fun answer added step => ?_
  rcases step with ⟨error, rfl, has⟩ | ⟨group, rfl, has, kempt⟩
  · show IsKempt key added.view.stored
    rwa [has.stored]
  · refine Ensures.next (ensures_calm decides ⟨rfl, fun _ => trivial⟩ has)
      fun _ retained has => ?_
    refine Ensures.next (ensures_calm decides ⟨trivial, fun _ => trivial⟩ has)
      fun _ logged has => ?_
    refine (ensures_verdict decides has group).next
      fun isReady judged ⟨verdict, has⟩ => ?_
    cases isReady with
    | true =>
        have presents : Presents handler policy (calls call) key group :=
          ⟨kempt, .inl verdict.symm⟩
        exact ensures_release decides has presents _
    | false =>
        rw [if_neg Bool.false_ne_true]
        split
        · exact ensures_refuse decides has kempt
        · show IsKempt key judged.view.stored
          rw [has.stored]
          exact isKempt_some kempt

theorem ensures_receive (has : visit.Has call [] stored)
    (kempt : IsKempt key stored) (message : Message) :
    (presenting handler policy calls capacity environment).Ensures
      call key ticket (handler.receive ticket key message) visit
      fun _ after => IsKempt key after.view.stored := by
  rw [Handler.receive_eq]
  refine (ensures_seen decides has).next fun answer loaded ⟨loads, has⟩ => ?_
  rcases loads with ⟨error, rfl⟩ | ⟨generation, time, rfl⟩
  · show IsKempt key loaded.view.stored
    rwa [has.stored]
  · refine Discipline.ensures_place has
      (ensures_calm decides ⟨rfl, fun _ => trivial⟩ has) ?enrolls ?rejects
    case enrolls =>
      intro admits looked has
      exact ensures_enroll decides has kempt admits
    case rejects =>
      intro looked has
      have asks : Asks (IsCalm ticket) (handler.discard key message) :=
        asks_discard_of (fun _ _ => trivial) (fun _ => trivial) handler key _
      refine Ensures.imp (ensures_calm decides
        (asks_ask_bind.mpr ⟨trivial, fun _ => asks⟩) has) fun _ after has => ?_
      rwa [has.stored]

theorem ensures_isDue (has : visit.Has call processed stored) (group : Group) :
    (presenting handler policy calls capacity environment).Ensures call key
      ticket (handler.isDue group) visit fun isReady after =>
        (isReady = true → policy group = true ∨
          handler.partialOnExpiry = true) ∧
          after.Has call processed stored := by
  unfold Handler.isDue
  split
  · rename_i anyway
    exact ⟨fun _ => .inr anyway, has⟩
  · refine (ensures_verdict decides has group).imp
      fun isReady after ⟨verdict, has⟩ => ?_
    exact ⟨fun ready => .inl (verdict.symm.trans ready), has⟩

theorem ensures_conclude (finishes : (calls call).takesIn = false)
    (has : visit.Has call [] (some group))
    (kempt : Kempt key group) {isReady : Bool}
    (due : isReady = true →
      policy group = true ∨ handler.partialOnExpiry = true) :
    (presenting handler policy calls capacity environment).Ensures call key
      ticket (handler.conclude group isReady) visit fun _ after =>
        ∃ processed, after.Has call processed (some group) := by
  unfold Handler.conclude
  split
  · rename_i ready
    have presents : Presents handler policy (calls call) key group :=
      ⟨kempt, (due ready).imp_right fun anyway => ⟨finishes, anyway⟩⟩
    refine (ensures_presented decides has presents).next
      fun outcome processed has => ?_
    cases outcome with
    | error error => exact ⟨_, has⟩
    | ok outcome =>
        refine (ensures_replies decides ?_ has presents).imp
          fun _ after has => ⟨_, has⟩
        exact asks_dispatch handler ticket _ outcome _
  · exact (ensures_calm decides (asks_discardAll_of (fun _ _ => trivial)
      (fun _ => trivial) handler _ _) has).imp fun _ after has => ⟨_, has⟩

theorem ensures_finish (finishes : (calls call).takesIn = false)
    (has : visit.Has call [] (some group)) (kempt : Kempt key group) :
    (presenting handler policy calls capacity environment).Ensures
      call key ticket (handler.finish ticket key group) visit
      fun _ after => IsKempt key after.view.stored := by
  refine (ensures_isDue decides has group).next
    fun isReady judged ⟨due, has⟩ => ?_
  refine Ensures.next (ensures_calm decides ⟨trivial, fun _ => trivial⟩ has)
    fun _ logged has => ?_
  refine (ensures_conclude decides finishes has kempt due).next
    fun finished done ⟨processed, has⟩ => ?_
  refine (ensures_removeGroup decides has (isKempt_some kempt)).next
    fun removed cleared ⟨left, has, keptSo⟩ => ?_
  refine Ensures.imp (ensures_calm decides ?_ has) fun _ after has => ?_
  · split
    · trivial
    · exact ⟨trivial, fun _ => trivial⟩
  · rwa [has.stored]

theorem ensures_finishSeen (finishes : (calls call).takesIn = false)
    (has : visit.Has call [] stored) (kempt : IsKempt key stored)
    {seen : Group} (sameKey : seen.key = key) :
    (presenting handler policy calls capacity environment).Ensures
      call key ticket (handler.finishSeen ticket seen) visit
      fun _ after => IsKempt key after.view.stored := by
  rw [Handler.finishSeen_eq, sameKey]
  refine (ensures_seen decides has).next fun answer loaded ⟨loads, has⟩ => ?_
  rcases loads with ⟨error, rfl⟩ | ⟨generation, time, rfl⟩
  · show IsKempt key loaded.view.stored
    rwa [has.stored]
  · refine Discipline.ensures_finishFound has
      (ensures_calm decides ⟨rfl, fun _ => trivial⟩ has) ?leaves ?finishes
    case leaves =>
      intro looked event has
      refine Ensures.imp (ensures_calm decides ⟨trivial, fun _ => trivial⟩ has)
        fun _ after has => ?_
      rwa [has.stored]
    case finishes =>
      intro notEmpty looked has
      rw [sameKey]
      cases stored with
      | none => simp [Group.isEmpty, Group.empty] at notEmpty
      | some group =>
          exact ensures_finish decides finishes has (kempt group rfl)

end Presenting

end Discipline

section Calls

variable (decides : ∀ call turn, (environment call turn).judge = policy)

include decides

theorem presenting_program (call : Nat) :
    (presenting handler policy calls capacity environment).Abides call .outside
      [] ((calls call).program handler) := by
  refine Discipline.abides_program (fun _ => trivial) (fun _ _ => trivial) _
    ?receives ?finishes
  case receives =>
    intro key message ticket own view idle _
    exact (Discipline.ensures_receive decides (has_enter view _) idle
      message).imp fun _ after kempt _ => kempt
  case finishes =>
    intro finishes seen ticket own view idle _
    exact (Discipline.ensures_finishSeen decides finishes (has_enter view _)
      idle rfl).imp fun _ after kempt _ => kempt

theorem presenting_run (schedule : List Nat) :
    Coherent (presenting handler policy calls capacity environment)
      ((System.start capacity fun call => (calls call).program handler).run
        environment schedule) :=
  (Coherent.start (fun _ => isKempt_none) (presenting_program decides)).run
    schedule

theorem permits_of_answered (schedule : List Nat) {earlier : List Event}
    {event : Event}
    (isPrefix : earlier ++ [event] <+: ((System.start capacity
      fun call => (calls call).program handler).run environment schedule).trace)
    {request : Engine.Request}
    {answer : request.Answer} (act : event.act = .answered request answer)
    (notAside : ¬ IsAside request) :
    ∃ key, event.key = some key ∧
      Permits handler policy (calls event.call) key (presented
        (earlier.filter fun past => past.key = some key)) request := by
  have start : Coherent (presenting handler policy calls capacity environment)
      (System.start capacity fun call => (calls call).program handler) :=
    .start (fun _ => isKempt_none) (presenting_program decides)
  have admitted :=
    (presenting_run decides schedule).admitted earlier event isPrefix
  simp only [Discipline.Admits, act] at admitted
  cases place : event.key with
  | none =>
      rw [place] at admitted
      exact absurd admitted notAside
  | some key =>
      rw [place] at admitted
      have held := (held_start.run start schedule).answered earlier event
          isPrefix request answer key act place
      exact ⟨key, rfl, admitted event.call held⟩

end Calls

end Collate.Interleaving
