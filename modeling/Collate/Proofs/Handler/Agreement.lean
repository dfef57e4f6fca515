import Collate.Proofs.Handler.Conservation
import Collate.Proofs.Store.Soundness

namespace Collate

namespace Interleaving

variable {discipline : Discipline} {handler : Handler} {call ticket : Nat}
  {key : Key} {visit : Visit} {group : Group} {message : Message}

def IsProper (key : Key) (stored : Option Group) : Prop :=
  ∀ group, stored = some group → group.Proper key

theorem isProper_none : IsProper key none := by
  intro group stored
  simp at stored

theorem isProper_some (proper : group.Proper key) :
    IsProper key (some group) := by
  rintro held ⟨rfl⟩
  exact proper

theorem IsProper.map_markAll {stored : Option Group}
    (proper : IsProper key stored) (time : Int) :
    IsProper key (stored.map fun held => held.markAll time) := by
  cases stored with
  | none => exact isProper_none
  | some group => exact isProper_some ((proper group rfl).markAll time)

theorem IsProper.add_getD {stored : Option Group} (proper : IsProper key stored)
    (generation : Nat) (message : Message) (time : Int) :
    ((stored.getD (.empty key generation time)).add message time).Proper
      key := by
  cases stored with
  | none => exact .add_empty key generation message time
  | some group => exact (proper group rfl).add message time

theorem IsProper.isEmpty_getD {stored : Option Group}
    (proper : IsProper key stored) (generation : Nat) (time : Int) :
    (stored.getD (.empty key generation time)).isEmpty = !stored.isSome := by
  cases stored with
  | none => rfl
  | some group => exact (proper group rfl).isEmpty

/-- A key that has an entry if it has a group, and only then, when nobody has
its lock. -/
structure Agrees (key : Key) (view : View) : Prop where
  proper : IsProper key view.stored
  stays : entryStays view.events = view.stored.isSome

/-- A key whose entry is to be kept if it has a group, and only then. -/
structure Tied (key : Key) (view : View) : Prop where
  proper : IsProper key view.stored
  keeps : view.keepsEntry = view.stored.isSome

theorem agrees_start : Agrees key .start where
  proper := isProper_none
  stays := rfl

theorem Tied.leave {view : View} (tied : Tied key view) (call : Nat)
    (result : Option Result) : Agrees key (view.leave call key result) where
  proper := tied.proper
  stays := by
    rw [View.leave, Coherent.entryStays_append]
    exact tied.keeps

theorem Tied.of_same {view after : View} (tied : Tied key view)
    (same : after.stored = view.stored ∧ after.keepsEntry = view.keepsEntry) :
    Tied key after where
  proper := by
    rw [same.1]
    exact tied.proper
  keeps := by rw [same.1, same.2, tied.keeps]

theorem keepsEntry_respond {after : Visit} {circumstances : Circumstances}
    {refusal : Option Error}
    {request : Engine.Request} {answer : request.Answer}
    (responded :
      (after, answer) = visit.respond circumstances refusal call key request) :
    after.view.keepsEntry = keepsAfter visit.view.keepsEntry request := by
  obtain ⟨rfl, rfl⟩ := Prod.mk.inj responded
  rfl

theorem IsApart.same_respond {request : Engine.Request}
    (apart : IsApart request) {after : Visit} {circumstances : Circumstances}
    {refusal : Option Error} {answer : request.Answer}
    (responded :
      (after, answer) = visit.respond circumstances refusal call key request) :
    after.view.stored = visit.view.stored ∧
    after.view.keepsEntry = visit.view.keepsEntry := by
  obtain ⟨-, answered, -⟩ := grows_respond responded
  have kept := keepsEntry_respond responded
  cases request <;> first | exact ⟨answered, kept⟩ | exact apart.elim

namespace Discipline

theorem asks_discard (handler : Handler) (key : Key) (message : Message) :
    Asks IsApart (handler.discard key message) :=
  asks_discard_of (fun _ _ => trivial) (fun _ => trivial) handler key message

theorem asks_discardAll (handler : Handler) (key : Key)
    (messages : List Message) :
    Asks IsApart (handler.discardAll key messages) :=
  asks_discardAll_of (fun _ _ => trivial) (fun _ => trivial)
    handler key messages

theorem asks_reply (handler : Handler) (key : Key) (outcome : Outcome)
    (address : Option HeaderValue) :
    Asks IsApart (handler.dispatch key outcome address) :=
  asks_dispatch_of (fun _ => trivial) (fun _ => trivial) (fun _ => trivial)
    (fun _ _ _ => trivial) handler key outcome address

theorem asks_conclude (handler : Handler) (group : Group) (isReady : Bool) :
    Asks IsApart (handler.conclude group isReady) := by
  unfold Handler.conclude
  split
  · refine asks_ask_bind.mpr ⟨trivial, fun outcome => ?_⟩
    cases outcome with
    | error error => trivial
    | ok outcome => exact asks_reply handler _ _ _
  · exact asks_discardAll handler _ _

theorem asks_release (handler : Handler) (ticket : Nat) (key : Key)
    (group : Group) (address : Option HeaderValue) :
    Asks IsSettling (handler.release ticket key group address) := by
  refine asks_ask_bind.mpr ⟨trivial, fun outcome => ?_⟩
  refine asks_bind (asks_cleanUp_of (fun _ => trivial) (fun _ => trivial)
    (fun _ => trivial) ticket group) fun cleaned => ?_
  split
  · exact ⟨trivial, fun _ => trivial⟩
  · trivial
  · refine asks_ask_bind.mpr ⟨trivial, fun _ => ?_⟩
    exact (asks_reply handler key _ address).mono isSettling_of_isApart

theorem asks_refuse (handler : Handler) (ticket : Nat) (key : Key)
    (group : Group) : Asks IsSettling (handler.refuse ticket key group) := by
  refine asks_ask_bind.mpr ⟨trivial, fun _ => ?_⟩
  refine asks_bind ((asks_discardAll handler _ _).mono isSettling_of_isApart)
    fun discarded => ?_
  refine asks_bind (asks_removeGroup_of (fun _ => trivial) (fun _ => trivial)
    ticket key) fun removed => ?_
  split
  · trivial
  · exact ⟨trivial, fun _ => trivial⟩

theorem asks_settle (handler : Handler) (ticket : Nat) (key : Key)
    (message : Message) (group : Group) :
    Asks IsSettling (handler.settle ticket key message group) := by
  refine asks_ask_bind.mpr ⟨trivial, fun _ => ?_⟩
  refine asks_ask_bind.mpr ⟨trivial, fun _ => ?_⟩
  refine asks_ask_bind.mpr ⟨trivial, fun isReady => ?_⟩
  split
  · exact asks_release handler ticket key group _
  · split
    · exact asks_refuse handler ticket key group
    · trivial

theorem asks_finish (handler : Handler) (ticket : Nat) (key : Key)
    (group : Group) : Asks IsSettling (handler.finish ticket key group) := by
  refine asks_bind (asks_isDue (fun _ => trivial) handler group)
    fun isReady => ?_
  refine asks_ask_bind.mpr ⟨trivial, fun _ => ?_⟩
  refine asks_bind ((asks_conclude handler group isReady).mono
    isSettling_of_isApart) fun finished => ?_
  refine asks_bind (asks_removeGroup_of (fun _ => trivial) (fun _ => trivial)
    ticket key) fun removed => ?_
  split
  · trivial
  · exact ⟨trivial, fun _ => trivial⟩

theorem asks_finishFound (handler : Handler) (ticket : Nat)
    (seen group : Group) :
    Asks IsSettling (handler.finishFound ticket seen group) := by
  unfold Handler.finishFound
  split
  · exact ⟨trivial, fun _ => trivial⟩
  · refine asks_ask_bind.mpr ⟨trivial, fun _ => ?_⟩
    split
    · exact ⟨trivial, fun _ => trivial⟩
    · exact asks_finish handler ticket seen.key group

/-- Whether a program leaves a key with an entry to be kept if it has a group,
and only then, and whether the key is so already whenever the program may have
to wait. -/
def StaysTied (discipline : Discipline) (call : Nat) (key : Key) (ticket : Nat)
    {α : Type} (program : Call α) (visit : Visit) : Prop :=
  discipline.Endures call key ticket (fun visit => Tied key visit.view) program
    visit fun _ after => Tied key after.view

theorem StaysTied.next {α β : Type} {program : Call α} {next : α → Call β}
    (first : discipline.StaysTied call key ticket program visit)
    (second : ∀ value after, Tied key after.view →
      discipline.StaysTied call key ticket (next value) after) :
    discipline.StaysTied call key ticket (program.bind next) visit :=
  Endures.next first second

theorem Ensures.endures_ask {request : Engine.Request} {pause : Visit → Prop}
    {post : request.Answer → Visit → Prop}
    (ensures : discipline.Ensures call key ticket (Call.ask request) visit post)
    (pauses : request.mayWait = true → pause visit) :
    discipline.Endures call key ticket pause (Call.ask request) visit post :=
  ⟨ensures.1, ensures.2.1, pauses, ensures.2.2⟩

theorem Ensures.endures {α : Type} {program : Call α} {pause : Visit → Prop}
    {post : α → Visit → Prop}
    (ensures : discipline.Ensures call key ticket program visit post)
    (asks : Asks (fun request => request.mayWait = false) program) :
    discipline.Endures call key ticket pause program visit post := by
  induction program generalizing visit with
  | done value => exact ensures
  | ask request next induction =>
      obtain ⟨isAbout, allowed, going⟩ := ensures
      obtain ⟨atOnce, asks⟩ := asks
      refine ⟨isAbout, allowed,
        fun waits => absurd waits (by simp [atOnce]), ?_⟩
      exact fun refusal mayRefuse after answer responded =>
        induction answer (going refusal mayRefuse after answer responded)
          (asks answer)

section Tying

variable (free : ∀ events request, discipline.allows key events request)
  (works : ∀ call turn, (discipline.environment call turn).fault = none)

include free

theorem ensures_apart {α : Type} {program : Call α}
    (asks : Asks IsApart program) :
    discipline.Ensures call key ticket program visit fun _ after =>
      after.view.stored = visit.view.stored ∧
        after.view.keepsEntry = visit.view.keepsEntry := by
  induction program generalizing visit with
  | done value => exact ⟨rfl, rfl⟩
  | ask request next induction =>
      obtain ⟨apart, asks⟩ := asks
      refine ⟨apart.isAbout, free _ _,
        fun refusal _ middle answer responded => ?_⟩
      have unchanged := apart.same_respond responded
      refine (induction answer (asks answer)).imp
        fun value after ⟨stored, keeps⟩ => ?_
      exact ⟨stored.trans unchanged.1, keeps.trans unchanged.2⟩

theorem staysTied_apart {α : Type} {program : Call α}
    (tied : Tied key visit.view) (asks : Asks IsApart program) :
    discipline.StaysTied call key ticket program visit := by
  induction program generalizing visit with
  | done value => exact tied
  | ask request next induction =>
      obtain ⟨apart, asks⟩ := asks
      refine ⟨apart.isAbout, free _ _, fun _ => tied,
        fun refusal _ after answer responded => ?_⟩
      exact induction answer (tied.of_same (apart.same_respond responded))
        (asks answer)

theorem ensures_retained :
    discipline.Ensures call key ticket (Call.ask (.retain ticket)) visit
      fun _ after =>
        after.view.stored = visit.view.stored ∧
          after.view.keepsEntry = true := by
  refine ⟨rfl, free _ _, fun refusal _ after answer responded => ?_⟩
  obtain ⟨-, stored, -⟩ := grows_respond responded
  exact ⟨stored, keepsEntry_respond responded⟩

theorem ensures_tied_retain (proper : IsProper key visit.view.stored)
    (held : visit.view.stored.isSome) :
    discipline.Ensures call key ticket (Call.ask (.retain ticket)) visit
      fun _ after =>
        Tied key after.view := by
  refine (ensures_retained free).imp fun _ after ⟨same, retained⟩ => ?_
  constructor
  · rwa [same]
  · rw [same, held, retained]

theorem ensures_added (proper : IsProper key visit.view.stored)
    (message : Message) :
    discipline.Ensures call key ticket (Call.ask (.add key message)) visit
      fun answer after =>
        (∃ error, answer = .error error ∧
          after.view.stored = visit.view.stored ∧
          after.view.keepsEntry = visit.view.keepsEntry) ∨
          ∃ group, answer = .ok group ∧ after.view.stored = some group ∧
            group.Proper key := by
  refine ⟨rfl, free _ _, fun refusal _ after answer responded => ?_⟩
  obtain ⟨-, stored, answered⟩ := grows_respond responded
  have keeps := keepsEntry_respond responded
  simp only [Circumstances.shelve] at stored answered
  cases failure :
    (discipline.environment call visit.own.length).fault.or refusal with
  | some error =>
      rw [failure] at stored answered
      exact .inl ⟨error, answered, stored, keeps⟩
  | none =>
      rw [failure] at stored answered
      exact .inr ⟨_, answered, stored, proper.add_getD _ _ _⟩

theorem ensures_tied_add (tied : Tied key visit.view) (message : Message) :
    discipline.Ensures call key ticket (Call.ask (.add key message)) visit
      fun answer after =>
        (∃ error, answer = .error error ∧ Tied key after.view) ∨
          ∃ group, answer = .ok group ∧ after.view.stored = some group ∧
            group.Proper key := by
  refine (ensures_added free tied.proper message).imp
    fun answer after step => ?_
  rcases step with ⟨error, failed, same⟩ | added
  · exact .inl ⟨error, failed, tied.of_same same⟩
  · exact .inr added

theorem ensures_tied_mark (tied : Tied key visit.view)
    (sameKey : group.key = key) :
    discipline.Ensures call key ticket (Call.ask (.mark group)) visit
      fun _ after =>
        Tied key after.view := by
  refine ⟨sameKey, free _ _, fun refusal _ after answer responded => ?_⟩
  obtain ⟨-, stored, -⟩ := grows_respond responded
  have keeps := keepsEntry_respond responded
  cases fault : (discipline.environment call visit.own.length).fault with
  | some error =>
      simp only [Circumstances.shelve, fault] at stored
      exact tied.of_same ⟨stored, keeps⟩
  | none =>
      simp only [Circumstances.shelve, fault] at stored
      constructor
      · rw [stored]
        exact tied.proper.map_markAll _
      · rw [stored, Option.isSome_map]
        exact keeps.trans tied.keeps

theorem ensures_tied_removeGroup (tied : Tied key visit.view) :
    discipline.Ensures call key ticket (Handler.removeGroup ticket key) visit
      fun _ after =>
        Tied key after.view := by
  refine ⟨rfl, free _ _, fun refusal _ removed answer removes => ?_⟩
  obtain ⟨-, stored, answered⟩ := grows_respond removes
  have keeps := keepsEntry_respond removes
  cases fault : (discipline.environment call visit.own.length).fault with
  | some error =>
      simp only [Circumstances.shelve, fault] at stored answered
      subst answered
      exact tied.of_same ⟨stored, keeps⟩
  | none =>
      simp only [Circumstances.shelve, fault] at stored answered
      subst answered
      refine ⟨rfl, free _ _, fun refusal _ after answer responded => ?_⟩
      obtain ⟨-, same, -⟩ := grows_respond responded
      have gone : after.view.stored = none := same.trans stored
      constructor
      · rw [gone]
        exact isProper_none
      · rw [gone]
        exact keepsEntry_respond responded

theorem ensures_tied_cleanUp (tied : Tied key visit.view)
    (sameKey : group.key = key) :
    discipline.Ensures call key ticket (Handler.cleanUp ticket group) visit
      fun _ after =>
        Tied key after.view := by
  unfold Handler.cleanUp
  split
  · rw [sameKey]
    exact ensures_tied_removeGroup free tied
  · refine (ensures_tied_mark free tied sameKey).next
      fun answer after tied => ?_
    cases answer <;> exact tied

theorem staysTied_removeGroup (tied : Tied key visit.view) :
    discipline.StaysTied call key ticket
      (Handler.removeGroup ticket key) visit :=
  (ensures_tied_removeGroup free tied).endures
    (asks_removeGroup_of (fun _ => rfl) (fun _ => rfl) ticket key)

theorem staysTied_retain (proper : IsProper key visit.view.stored)
    (held : visit.view.stored.isSome) :
    discipline.StaysTied call key ticket (Call.ask (.retain ticket)) visit :=
  (ensures_tied_retain free proper held).endures ⟨rfl, fun _ => trivial⟩

theorem staysTied_release (tied : Tied key visit.view)
    (sameKey : group.key = key) (address : Option HeaderValue) :
    discipline.StaysTied call key ticket
      (handler.release ticket key group address) visit := by
  refine StaysTied.next (staysTied_apart free tied ⟨trivial, fun _ => trivial⟩)
    fun outcome processed tied => ?_
  refine StaysTied.next ((ensures_tied_cleanUp free tied sameKey).endures
    (asks_cleanUp_of (fun _ => rfl) (fun _ => rfl) (fun _ => rfl) ticket group))
    fun cleaned after tied => ?_
  apply staysTied_apart free tied
  split
  · exact ⟨trivial, fun _ => trivial⟩
  · trivial
  · exact asks_ask_bind.mpr ⟨trivial, fun _ => asks_reply handler key _ address⟩

theorem staysTied_refuse (tied : Tied key visit.view) (group : Group) :
    discipline.StaysTied call key ticket
      (handler.refuse ticket key group) visit := by
  refine StaysTied.next (staysTied_apart free tied ⟨trivial, fun _ => trivial⟩)
    fun _ logged tied => ?_
  refine (staysTied_apart free tied (asks_discardAll handler _ _)).next
    fun discarded middle tied => ?_
  refine (staysTied_removeGroup free tied).next fun removed after tied => ?_
  apply staysTied_apart free tied
  split
  · trivial
  · exact ⟨trivial, fun _ => trivial⟩

theorem staysTied_enroll (tied : Tied key visit.view) (message : Message) :
    discipline.StaysTied call key ticket
      (handler.enroll ticket key message) visit := by
  refine Endures.next
    ((ensures_tied_add free tied message).endures_ask fun _ => tied) ?_
  intro answer added step
  rcases step with ⟨error, rfl, tied⟩ | ⟨group, rfl, stored, proper⟩
  · exact tied
  · have properNow : IsProper key added.view.stored := by
      rw [stored]
      exact isProper_some proper
    refine (staysTied_retain free properNow (by rw [stored]; rfl)).next
      fun _ retained tied => ?_
    refine StaysTied.next (staysTied_apart free tied
      ⟨trivial, fun _ => trivial⟩) fun _ logged tied => ?_
    refine StaysTied.next (staysTied_apart free tied
      ⟨trivial, fun _ => trivial⟩) fun isReady judged tied => ?_
    split
    · exact staysTied_release free tied proper.sameKey _
    · split
      · exact staysTied_refuse free tied _
      · exact tied

theorem staysTied_place (proper : IsProper key visit.view.stored)
    (unkept : visit.view.keepsEntry = false)
    (empty : group.isEmpty = !visit.view.stored.isSome) (message : Message) :
    discipline.StaysTied call key ticket
      (handler.place ticket key message group) visit := by
  have going : ∀ retained : Visit, Tied key retained.view →
      discipline.StaysTied call key ticket
        (if group.canAdd message then handler.enroll ticket key message
        else do
          Call.log (.rejected key message)
          handler.discard key message) retained := by
    intro retained tied
    split
    · exact staysTied_enroll free tied message
    · exact staysTied_apart free tied
        (asks_ask_bind.mpr ⟨trivial, fun _ => asks_discard handler key message⟩)
  unfold Handler.place
  simp only [empty, Bool.not_not]
  split
  · rename_i held
    refine (staysTied_retain free proper held).next fun _ retained tied => ?_
    exact going _ tied
  · rename_i absent
    refine going _ ⟨proper, ?_⟩
    rw [unkept]
    exact (Bool.eq_false_iff.mpr absent).symm

theorem staysTied_finish (tied : Tied key visit.view) (group : Group) :
    discipline.StaysTied call key ticket
      (handler.finish ticket key group) visit := by
  refine (staysTied_apart free tied (asks_isDue (fun _ => trivial) handler
    group)).next fun isReady judged tied => ?_
  refine StaysTied.next (staysTied_apart free tied ⟨trivial, fun _ => trivial⟩)
    fun _ logged tied => ?_
  refine (staysTied_apart free tied (asks_conclude handler group isReady)).next
    fun finished done tied => ?_
  refine (staysTied_removeGroup free tied).next fun removed after tied => ?_
  apply staysTied_apart free tied
  split
  · trivial
  · exact ⟨trivial, fun _ => trivial⟩

theorem staysTied_finishFound (proper : IsProper key visit.view.stored)
    (unkept : visit.view.keepsEntry = false)
    (empty : group.isEmpty = !visit.view.stored.isSome)
    {seen : Group} (sameKey : seen.key = key) :
    discipline.StaysTied call key ticket
      (handler.finishFound ticket seen group) visit := by
  unfold Handler.finishFound
  simp only [empty, sameKey]
  split
  · rename_i absent
    have tied : Tied key visit.view := by
      refine ⟨proper, ?_⟩
      rw [unkept]
      simpa using absent
    exact staysTied_apart free tied ⟨trivial, fun _ => trivial⟩
  · rename_i held
    have isHeld : visit.view.stored.isSome := by
      rw [Option.isSome_iff_ne_none]
      simpa using held
    refine (staysTied_retain free proper isHeld).next fun _ retained tied => ?_
    split
    · exact staysTied_apart free tied ⟨trivial, fun _ => trivial⟩
    · exact staysTied_finish free tied _

theorem ensures_tied_place (proper : IsProper key visit.view.stored)
    (unkept : visit.view.keepsEntry = false)
    (empty : group.isEmpty = !visit.view.stored.isSome) (message : Message) :
    discipline.Ensures call key ticket (handler.place ticket key message group)
      visit fun _ after => Tied key after.view :=
  (staysTied_place free proper unkept empty message).ensures

theorem ensures_tied_finishFound (proper : IsProper key visit.view.stored)
    (unkept : visit.view.keepsEntry = false)
    (empty : group.isEmpty = !visit.view.stored.isSome)
    {seen : Group} (sameKey : seen.key = key) :
    discipline.Ensures call key ticket (handler.finishFound ticket seen group)
      visit fun _ after => Tied key after.view :=
  (staysTied_finishFound free proper unkept empty sameKey).ensures

include works

theorem ensures_tied_load (proper : IsProper key visit.view.stored) :
    discipline.Ensures call key ticket (Call.ask (.load key)) visit
      fun answer after =>
        (after.view.stored = visit.view.stored ∧
          after.view.keepsEntry = visit.view.keepsEntry) ∧
          ∃ group, answer = .ok group ∧
            group.isEmpty = !visit.view.stored.isSome := by
  refine ⟨rfl, free _ _, fun refusal _ loaded answer responded => ?_⟩
  obtain ⟨-, stored, answered⟩ := grows_respond responded
  simp only [Circumstances.shelve, works] at stored answered
  exact ⟨⟨stored, keepsEntry_respond responded⟩, _, answered,
    proper.isEmpty_getD _ _⟩

theorem ensures_marked (sameKey : group.key = key) :
    discipline.Ensures call key ticket (Call.ask (.mark group)) visit
      fun _ after =>
        (∃ time, after.view.stored =
          visit.view.stored.map fun held => held.markAll time) ∧
          after.view.keepsEntry = visit.view.keepsEntry := by
  refine ⟨sameKey, free _ _, fun refusal _ after answer responded => ?_⟩
  obtain ⟨-, stored, -⟩ := grows_respond responded
  simp only [Circumstances.shelve, works] at stored
  exact ⟨⟨_, stored⟩, keepsEntry_respond responded⟩

theorem ensures_removed :
    discipline.Ensures call key ticket (Handler.removeGroup ticket key) visit
      fun _ after =>
        after.view.stored = none ∧ after.view.keepsEntry = false := by
  refine ⟨rfl, free _ _, fun refusal _ removed answer removes => ?_⟩
  obtain ⟨-, stored, rfl⟩ := grows_respond removes
  simp only [Circumstances.shelve, works] at stored ⊢
  refine ⟨rfl, free _ _, fun refusal _ after answer responded => ?_⟩
  obtain ⟨-, same, -⟩ := grows_respond responded
  exact ⟨same.trans stored, keepsEntry_respond responded⟩

theorem staysTied_receive (proper : IsProper key visit.view.stored)
    (unkept : visit.view.keepsEntry = false) (message : Message) :
    discipline.StaysTied call key ticket
      (handler.receive ticket key message) visit := by
  rw [Handler.receive_eq]
  refine Endures.next
    ((ensures_tied_load free works proper).endures ⟨rfl, fun _ => trivial⟩) ?_
  intro answer loaded ⟨same, loads⟩
  obtain ⟨group, rfl, empty⟩ := loads
  rw [← same.1] at proper empty
  exact staysTied_place free proper (same.2.trans unkept) empty message

theorem staysTied_finishSeen (proper : IsProper key visit.view.stored)
    (unkept : visit.view.keepsEntry = false)
    {seen : Group} (sameKey : seen.key = key) :
    discipline.StaysTied call key ticket
      (handler.finishSeen ticket seen) visit := by
  rw [Handler.finishSeen_eq, sameKey]
  refine Endures.next
    ((ensures_tied_load free works proper).endures ⟨rfl, fun _ => trivial⟩) ?_
  intro answer loaded ⟨same, loads⟩
  obtain ⟨group, rfl, empty⟩ := loads
  rw [← same.1] at proper empty
  exact staysTied_finishFound free proper (same.2.trans unkept) empty sameKey

theorem ensures_tied_receive (proper : IsProper key visit.view.stored)
    (unkept : visit.view.keepsEntry = false) (message : Message) :
    discipline.Ensures call key ticket (handler.receive ticket key message)
      visit fun _ after =>
        Tied key after.view :=
  (staysTied_receive free works proper unkept message).ensures

theorem ensures_tied_finishSeen (proper : IsProper key visit.view.stored)
    (unkept : visit.view.keepsEntry = false)
    {seen : Group} (sameKey : seen.key = key) :
    discipline.Ensures call key ticket (handler.finishSeen ticket seen) visit
      fun _ after =>
        Tied key after.view :=
  (staysTied_finishSeen free works proper unkept sameKey).ensures

end Tying

end Discipline

def agreeing (capacity : Nat) (environment : Environment) : Discipline where
  capacity := capacity
  environment := environment
  enters _ _ := True
  allows _ _ _ := True
  idle := Agrees
  ends _ _ _ := True

section Agreeing

variable {capacity : Nat} {environment : Environment}

theorem agreeing_program
    (works : ∀ call turn, (environment call turn).fault = none)
    (invocation : Invocation) :
    (agreeing capacity environment).Abides call .outside []
      (invocation.program handler) := by
  refine Discipline.abides_program (fun _ => trivial) (fun _ _ => trivial) _
    ?receives ?finishes
  case receives =>
    intro key message ticket own view idle unkept
    exact (Discipline.ensures_tied_receive (fun _ _ => trivial) works
      idle.proper unkept message).imp fun _ after tied => tied.leave call
  case finishes =>
    intro _ seen ticket own view idle unkept
    exact (Discipline.ensures_tied_finishSeen (fun _ _ => trivial) works
      idle.proper unkept rfl).imp fun _ after tied => tied.leave call

end Agreeing

def Phase.key? : Phase → Option Key
  | .outside _ => none
  | .waiting key _ _ => some key
  | .inside key _ _ => some key

theorem Phase.key?_eq_none {phase : Phase} (ticket : phase.ticket? = none) :
    phase.key? = none := by
  cases phase with
  | outside rest => rfl
  | waiting key ticket next => simp [Phase.ticket?] at ticket
  | inside key ticket rest => simp [Phase.ticket?] at ticket

variable {system : System}

theorem Coherent.key?_of_stands (coherent : Coherent discipline system)
    {stage : Claim.Stage} (stands : system.locks.Stands ticket key stage) :
    ∃ call, (system.phase call).key? = some key := by
  obtain ⟨call, ⟨next, phase, -⟩ | ⟨rest, -, phase, -⟩⟩ :=
    coherent.phase_of_stands stands
  · exact ⟨call, by rw [phase]; rfl⟩
  · exact ⟨call, by rw [phase]; rfl⟩

namespace System

variable {environment : Environment}

theorem sound_advance (sound : system.store.Sound) (call : Nat) :
    (system.advance environment call).store.Sound := by
  unfold advance
  split
  · exact sound
  · exact sound
  · exact sound.answer _ _
  · split <;> exact sound
  · exact sound
  · exact sound
  · exact sound.answer _ _

theorem sound_run (sound : system.store.Sound) (schedule : List Nat) :
    (system.run environment schedule).store.Sound := by
  induction schedule generalizing system with
  | nil => exact sound
  | cons call rest induction => exact induction (sound_advance sound call)

end System

theorem size_eq_groupCount {locks : LockTable} {store : Store}
    (lockSound : locks.Sound) (storeSound : store.Sound)
    (agree : ∀ key, locks.contains key = (store.get? key).isSome) :
    locks.size = store.groupCount := by
  have same :
      (locks.entries.map Prod.fst).Perm (store.groups.map Prod.fst) := by
    apply (List.perm_ext_iff_of_nodup lockSound.keys_nodup
      storeSound.distinct).mpr
    intro key
    have agreeKey := agree key
    rw [LockTable.contains, Store.get?, Bool.eq_iff_iff,
      Option.isSome_iff_ne_none, Option.isSome_iff_ne_none, ne_eq, ne_eq,
      Assoc.get?_eq_none_iff, Assoc.get?_eq_none_iff, not_not, not_not]
        at agreeKey
    exact agreeKey
  simpa [LockTable.size, Store.groupCount] using same.length_eq

theorem Coherent.contains_of_unclaimed {capacity : Nat}
    {environment : Environment} {system : System}
    {key : Key} (coherent : Coherent (agreeing capacity environment) system)
    (unclaimed : ∀ ticket stage, ¬ system.locks.Stands ticket key stage) :
    system.locks.contains key = (system.store.get? key).isSome := by
  have agrees := coherent.idle key fun ticket keeps => unclaimed ticket _
  exact (coherent.entry key unclaimed).trans agrees.stays

theorem coherent_agreeing {capacity : Nat} {environment : Environment}
    {handler : Handler} {calls : Nat → Invocation}
    (works : ∀ call turn, (environment call turn).fault = none)
    (schedule : List Nat) :
    Coherent (agreeing capacity environment) ((System.start capacity
      fun call => (calls call).program handler).run environment schedule) :=
  (Coherent.start (fun _ => agrees_start)
    fun call => agreeing_program works (calls call)).run schedule

/-- However the calls of a handler interleave, a key with a stored group has an
entry in the lock table at any time, and a key that no call has the lock of or
waits for has an entry if it has a group, and only then. So there are as many
locks as groups when no call is busy with a key. -/
theorem entries_agree_with_groups (handler : Handler) (capacity : Nat)
    (environment : Environment) (calls : Nat → Invocation)
    (works : ∀ call turn, (environment call turn).fault = none)
    (schedule : List Nat) :
    let system :=
      (System.start capacity fun call => (calls call).program handler).run
        environment schedule
    (∀ key, (system.store.get? key).isSome → system.locks.contains key = true) ∧
    (∀ key, (∀ call, (system.phase call).key? ≠ some key) →
      system.locks.contains key = (system.store.get? key).isSome) ∧
    ((∀ call, (system.phase call).ticket? = none) →
      system.locks.size = system.store.groupCount) := by
  intro system
  have coherent : Coherent (agreeing capacity environment) system :=
    (Coherent.start (fun key => agrees_start)
      fun call => agreeing_program works (calls call)).run schedule
  have unclaimed :
      ∀ key, (∀ ticket stage, ¬ system.locks.Stands ticket key stage) →
        system.locks.contains key = (system.store.get? key).isSome := by
    intro key free
    have agrees := coherent.idle key fun ticket keeps => free ticket _
    exact (coherent.entry key free).trans agrees.stays
  have apart : ∀ key, (∀ call, (system.phase call).key? ≠ some key) →
      system.locks.contains key = (system.store.get? key).isSome := by
    intro key away
    apply unclaimed key
    intro ticket stage stands
    obtain ⟨call, busy⟩ := coherent.key?_of_stands stands
    exact away call busy
  refine ⟨fun key held => ?_, apart, fun rest => ?_⟩
  · by_cases claimed : ∃ ticket stage, system.locks.Stands ticket key stage
    · obtain ⟨ticket, stage, stands⟩ := claimed
      exact coherent.sound.contains_of_stands stands
    · rw [unclaimed key
        fun ticket stage stands => claimed ⟨ticket, stage, stands⟩]
      exact held
  · apply size_eq_groupCount coherent.sound
    · exact System.sound_run ((Store.empty_sound capacity).subscribe _) schedule
    · intro key
      apply apart key
      intro call
      rw [Phase.key?_eq_none (rest call)]
      simp

/-! Two calls of one key, where the store has room for one message. The second
finds the group of the first, cannot add to it, and leaves the entry of the key
as it was. -/

def crowding (call : Nat) : Invocation := .handle (numbered call)

def inLine : List Nat := [0, 1] ++ List.replicate 7 0 ++ List.replicate 5 1

def crowded : System :=
  (System.start 1 fun call => (crowding call).program gatherer).run
    (fun _ _ => faltering) inLine

theorem crowded_agrees :
    crowded.store.groupCount = 1 ∧
      crowded.result? 1 = some (.handled (.error (.storeFull 1))) ∧
      crowded.locks.size = crowded.store.groupCount := by
  refine ⟨rfl, rfl, ?_⟩
  refine (entries_agree_with_groups gatherer 1 (fun _ _ => faltering) crowding
    (fun _ _ => rfl) inLine).2.2 ?_
  intro call
  by_cases turns : call ∈ inLine
  · have bound : call < 2 := by
      simp only [inLine, List.mem_append, List.mem_replicate, List.mem_cons,
        List.not_mem_nil, or_false] at turns
      omega
    match call, bound with
    | 0, _ => rfl
    | 1, _ => rfl
  · rw [System.phase_run_of_not_mem turns]
    rfl

end Interleaving

end Collate
