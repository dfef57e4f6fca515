import Collate.Proofs.Handler.Agreement
import Collate.Proofs.Interleaving.Serial
import Collate.Release

namespace Collate.Interleaving

variable {discipline : Discipline} {handler : Handler} {policy : Group → Bool}
  {call ticket : Nat} {key : Key} {visit : Visit} {group : Group}

/-- A group of which nothing is to be released under a policy. -/
structure Rests (policy : Group → Bool) (group : Group) : Prop where
  incomplete : group.isComplete = false
  waits : group.markedCount = group.size ∨ policy group = false

theorem rests_markAll (incomplete : group.isComplete = false) (time : Int) :
    Rests policy (group.markAll time) where
  incomplete := incomplete
  waits := .inl rfl

structure AtRest (policy : Group → Bool) (key : Key)
    (stored : Option Group) : Prop where
  proper : IsProper key stored
  rests : ∀ group, stored = some group → Rests policy group

theorem atRest_none : AtRest policy key none where
  proper := isProper_none
  rests := by simp

theorem atRest_some (proper : group.Proper key) (rests : Rests policy group) :
    AtRest policy key (some group) where
  proper := isProper_some proper
  rests := by
    rintro held ⟨rfl⟩
    exact rests

namespace Discipline

section Resting

variable (free : ∀ events request, discipline.allows key events request)
  (works : ∀ call turn, (discipline.environment call turn).fault = none)

include free

theorem ensures_judged
    (decides : ∀ call turn, (discipline.environment call turn).judge = policy)
    (group : Group) :
    discipline.Ensures call key ticket (Call.ask (.judge group)) visit
      fun answer after =>
        answer = policy group ∧ after.view.stored = visit.view.stored := by
  refine ⟨trivial, free _ _, fun refusal _ after answer responded => ?_⟩
  obtain ⟨-, stored, answered⟩ := grows_respond responded
  refine ⟨answered.trans ?_, stored⟩
  exact congrFun (decides call visit.own.length) group

include works

theorem ensures_rest_cleanUp (policy : Group → Bool) (proper : group.Proper key)
    (held : visit.view.stored = some group) :
    discipline.Ensures call key ticket (Handler.cleanUp ticket group) visit
      fun _ after =>
        AtRest policy key after.view.stored := by
  unfold Handler.cleanUp
  cases complete : group.isComplete with
  | true =>
      rw [proper.sameKey]
      refine (ensures_removed free works).imp fun _ after ⟨gone, _⟩ => ?_
      rw [gone]
      exact atRest_none
  | false =>
      split
      · rw [proper.sameKey]
        refine (ensures_removed free works).imp fun _ after ⟨gone, _⟩ => ?_
        rw [gone]
        exact atRest_none
      · refine (ensures_marked free works proper.sameKey).next
          fun answer after ⟨⟨time, marked⟩, _⟩ => ?_
        have atRest : AtRest policy key after.view.stored := by
          rw [marked, held]
          exact atRest_some (proper.markAll time) (rests_markAll complete time)
        cases answer <;> exact atRest

theorem ensures_rest_release (policy : Group → Bool) (proper : group.Proper key)
    (held : visit.view.stored = some group) (address : Option HeaderValue) :
    discipline.Ensures call key ticket (handler.release ticket key group
      address) visit fun _ after => AtRest policy key after.view.stored := by
  refine Ensures.next (ensures_apart free ⟨trivial, fun _ => trivial⟩)
    fun outcome processed ⟨same, _⟩ => ?_
  refine (ensures_rest_cleanUp free works policy proper (same.trans held)).next
    fun cleaned cleared atRest => ?_
  have unmoved : ∀ program : Call (Except Error Unit), Asks IsApart program →
      discipline.Ensures call key ticket program cleared fun _ after =>
        AtRest policy key after.view.stored := by
    intro program asks
    refine (ensures_apart free asks).imp fun _ after ⟨same, _⟩ => ?_
    rwa [same]
  apply unmoved
  split
  · exact ⟨trivial, fun _ => trivial⟩
  · trivial
  · exact asks_ask_bind.mpr ⟨trivial, fun _ => asks_reply handler key _ address⟩

theorem ensures_gone_refuse (group : Group) :
    discipline.Ensures call key ticket (handler.refuse ticket key group) visit
      fun _ after =>
        after.view.stored = none := by
  refine Ensures.next (ensures_apart free ⟨trivial, fun _ => trivial⟩)
    fun _ logged _ => ?_
  refine (ensures_apart free (asks_discardAll handler _ _)).next
    fun discarded middle _ => ?_
  refine (ensures_removed free works).next fun removed cleared ⟨gone, _⟩ => ?_
  refine Ensures.imp (ensures_apart free ?_)
    fun _ after ⟨same, _⟩ => same.trans gone
  split
  · trivial
  · exact ⟨trivial, fun _ => trivial⟩

theorem ensures_gone_finish (group : Group) :
    discipline.Ensures call key ticket (handler.finish ticket key group) visit
      fun _ after =>
        after.view.stored = none := by
  refine (ensures_apart free (asks_isDue (fun _ => trivial) handler group)).next
    fun isReady judged _ => ?_
  refine Ensures.next (ensures_apart free ⟨trivial, fun _ => trivial⟩)
    fun _ logged _ => ?_
  refine (ensures_apart free (asks_conclude handler group isReady)).next
    fun finished done _ => ?_
  refine (ensures_removed free works).next fun removed cleared ⟨gone, _⟩ => ?_
  refine Ensures.imp (ensures_apart free ?_)
    fun _ after ⟨same, _⟩ => same.trans gone
  split
  · trivial
  · exact ⟨trivial, fun _ => trivial⟩

variable (decides : ∀ call turn,
  (discipline.environment call turn).judge = policy)

include decides

theorem ensures_rest_enroll (atRest : AtRest policy key visit.view.stored)
    (message : Message) :
    discipline.Ensures call key ticket (handler.enroll ticket key message) visit
      fun _ after =>
        AtRest policy key after.view.stored := by
  apply (ensures_added free atRest.proper message).next
  intro answer added step
  rcases step with ⟨error, rfl, same, _⟩ | ⟨group, rfl, stored, proper⟩
  · show AtRest policy key added.view.stored
    rwa [same]
  · refine (ensures_retained free).next fun _ retained ⟨retains, _⟩ => ?_
    refine Ensures.next (ensures_apart free ⟨trivial, fun _ => trivial⟩)
      fun _ logged ⟨logs, _⟩ => ?_
    refine (ensures_judged free decides group).next
      fun isReady judged ⟨verdict, judges⟩ => ?_
    have held : judged.view.stored = some group := by
      rw [judges, logs, retains, stored]
    cases isReady with
    | true => exact ensures_rest_release free works policy proper held _
    | false =>
        cases complete : group.isComplete with
        | true =>
            refine (ensures_gone_refuse free works group).imp
              fun _ after gone => ?_
            rw [gone]
            exact atRest_none
        | false =>
            show AtRest policy key judged.view.stored
            rw [held]
            exact atRest_some proper ⟨complete, .inr verdict.symm⟩

theorem ensures_rest_receive (atRest : AtRest policy key visit.view.stored)
    (message : Message) :
    discipline.Ensures call key ticket (handler.receive ticket key message)
      visit fun _ after =>
        AtRest policy key after.view.stored := by
  rw [Handler.receive_eq]
  refine (ensures_tied_load free works atRest.proper).next
    fun answer loaded ⟨⟨same, _⟩, loads⟩ => ?_
  obtain ⟨group, rfl, -⟩ := loads
  rw [← same] at atRest
  refine ensures_place
    (P := fun looked => AtRest policy key looked.view.stored) atRest
    ?retains ?enrolls ?rejects
  case retains =>
    refine (ensures_retained free).imp fun _ retained ⟨retains, _⟩ => ?_
    rwa [retains]
  case enrolls =>
    intro _ looked atRest
    exact ensures_rest_enroll free works decides atRest message
  case rejects =>
    intro looked atRest
    refine Ensures.imp (ensures_apart free (asks_ask_bind.mpr ⟨trivial,
      fun _ => asks_discard handler key message⟩)) fun _ after ⟨same, _⟩ => ?_
    rwa [same]

omit decides in
theorem ensures_rest_finishSeen (atRest : AtRest policy key visit.view.stored)
    {seen : Group} (sameKey : seen.key = key) :
    discipline.Ensures call key ticket (handler.finishSeen ticket seen) visit
      fun _ after =>
        AtRest policy key after.view.stored := by
  rw [Handler.finishSeen_eq, sameKey]
  refine (ensures_tied_load free works atRest.proper).next
    fun answer loaded ⟨⟨same, _⟩, loads⟩ => ?_
  obtain ⟨group, rfl, -⟩ := loads
  rw [← same] at atRest
  refine ensures_finishFound
    (P := fun looked => AtRest policy key looked.view.stored) atRest
    ?retains ?leaves ?finishes
  case retains =>
    refine (ensures_retained free).imp fun _ retained ⟨retains, _⟩ => ?_
    rwa [retains]
  case leaves =>
    intro looked event atRest
    refine Ensures.imp (ensures_apart free ⟨trivial, fun _ => trivial⟩)
      fun _ after ⟨same, _⟩ => ?_
    rwa [same]
  case finishes =>
    intro _ looked _
    rw [sameKey]
    refine (ensures_gone_finish free works _).imp fun _ after gone => ?_
    rw [gone]
    exact atRest_none

end Resting

end Discipline

def resting (policy : Group → Bool) (capacity : Nat)
    (environment : Environment) : Discipline where
  capacity := capacity
  environment := environment
  enters _ _ := True
  allows _ _ _ := True
  idle key view := AtRest policy key view.stored
  ends _ _ _ := True

section Calls

variable {capacity : Nat} {environment : Environment}
  (works : ∀ call turn, (environment call turn).fault = none)

include works

theorem resting_program
    (decides : ∀ call turn, (environment call turn).judge = policy)
    (invocation : Invocation) :
    (resting policy capacity environment).Abides call .outside []
      (invocation.program handler) := by
  refine Discipline.abides_program (fun _ => trivial) (fun _ _ => trivial) _
    ?receives ?finishes
  case receives =>
    intro key message ticket own view idle _
    have atRest : AtRest policy key view.stored := idle
    exact (Discipline.ensures_rest_receive (fun _ _ => trivial) works decides
      atRest message).imp fun _ after atRest _ => atRest
  case finishes =>
    intro _ seen ticket own view idle _
    have atRest : AtRest policy seen.key view.stored := idle
    exact (Discipline.ensures_rest_finishSeen (fun _ _ => trivial) works
      atRest rfl).imp fun _ after atRest _ => atRest

end Calls

/-- However the calls of a handler interleave, a group whose key no call has the
lock of lacks members of its sequence, and has nothing to release: all its
members are marked, or the policy refuses it as it is. -/
theorem nothing_left_to_release (handler : Handler) (policy : Group → Bool)
    (capacity : Nat) (environment : Environment) (calls : Nat → Invocation)
    (works : ∀ call turn, (environment call turn).fault = none)
    (decides : ∀ call turn, (environment call turn).judge = policy)
    (schedule : List Nat) :
    let system :=
      (System.start capacity fun call => (calls call).program handler).run
        environment schedule
    ∀ key group,
      (∀ call ticket rest, system.phase call ≠ .inside key ticket rest) →
        system.store.get? key = some group →
        group.isComplete = false ∧
        (group.unmarked = [] ∨ policy group = false) := by
  intro system key group free held
  have coherent : Coherent (resting policy capacity environment) system :=
    (Coherent.start (fun key => atRest_none)
      fun call => resting_program works decides (calls call)).run schedule
  have atRest : AtRest policy key (system.view key).stored :=
    coherent.idle_of_outside free
  obtain ⟨incomplete, waits⟩ := atRest.rests group held
  refine ⟨incomplete, ?_⟩
  rcases waits with marked | refused
  · exact .inl (List.drop_eq_nil_of_le (Nat.le_of_eq marked.symm))
  · exact .inr refused

/-! Three of four parts, released by two: the first two are marked, though they
cannot be processed, and the third waits for the fourth. -/

def part (call : Nat) : Message :=
  ((Draft.ofPayload .null).sequence (call + 1) 4).build ⟨⟨call⟩, 0⟩

def byTwo : Circumstances := { faltering with judge := Release.count 2 }

def partsInLine : List Nat :=
  [0, 1, 2] ++ List.replicate 7 0 ++ List.replicate 11 1 ++ List.replicate 8 2

def parted : System :=
  (System.start 0 fun call => (Invocation.handle (part call)).program
    gatherer).run (fun _ _ => byTwo) partsInLine

theorem parted_rests :
    ∃ group, parted.store.get? ⟨"all"⟩ = some group ∧ group.size = 3 ∧
      group.markedCount = 2 ∧
      group.isComplete = false ∧
      (group.unmarked = [] ∨ Release.count 2 group = false) := by
  have finished : ∀ call ∈ partsInLine, (parted.result? call).isSome := by
    intro call member
    have few : ∀ call ∈ partsInLine, call = 0 ∨ call = 1 ∨ call = 2 := by decide
    rcases few call member with rfl | rfl | rfl
    · rfl
    · rfl
    · rfl
  refine ⟨_, rfl, rfl, rfl, ?_⟩
  refine nothing_left_to_release gatherer (Release.count 2) 0 (fun _ _ => byTwo)
    (fun call => .handle (part call)) (fun _ _ => rfl) (fun _ _ => rfl)
    partsInLine ⟨"all"⟩ _ ?_ rfl
  intro call ticket rest inside
  have free := System.free_of_finished finished call
  rw [inside] at free
  simp [Phase.ticket?] at free

end Collate.Interleaving
