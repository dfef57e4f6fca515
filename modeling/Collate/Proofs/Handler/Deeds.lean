import Collate.Proofs.Handler.Questions
import Collate.Proofs.Handler.Stages

namespace Collate.Interleaving

namespace Event

def processed? (event : Event) : Option Group :=
  match event.act with
  | .answered (.process group) _ => some group
  | _ => none

def discarded? (channel : Channel) (event : Event) : Option Message :=
  match event.act with
  | .answered (.deliver other message) (.ok ()) =>
      if other = channel then some message else none
  | _ => none

def refuses (event : Event) : Bool :=
  match event.act with
  | .answered (.add _ _) (.error _) => true
  | _ => false

def finisher? (event : Event) : Option Nat :=
  match event.act with
  | .left _ (some _) => some event.call
  | _ => none

theorem act_of_processed? {event : Event} {group : Group}
    (found : event.processed? = some group) :
    ∃ answer, event.act = .answered (.process group) answer := by
  unfold processed? at found
  split at found
  · cases found
    exact ⟨_, ‹_›⟩
  · simp at found

theorem act_of_discarded? {channel : Channel} {event : Event}
    {message : Message} (found : event.discarded? channel = some message) :
    event.act = .answered (.deliver channel message) (.ok ()) := by
  unfold discarded? at found
  split at found
  · split at found
    · cases found
      subst_vars
      assumption
    · simp at found
  · simp at found

theorem call_of_finisher? {event : Event} {call : Nat}
    (found : event.finisher? = some call) : event.call = call := by
  unfold finisher? at found
  split at found
  · exact Option.some.inj found
  · simp at found

def IsAnswer (event : Event) : Prop :=
  ∃ request answer, event.act = .answered request answer

end Event

theorem filterMap_filter_eq {α β : Type} {observe : α → Option β}
    {keyed : α → Bool} {belongs : β → Bool} {events : List α}
    (same : ∀ event ∈ events, ∀ value, observe event = some value →
      belongs value = keyed event) :
    (events.filterMap observe).filter belongs =
      (events.filter keyed).filterMap observe := by
  induction events with
  | nil => rfl
  | cons event rest induction =>
      have later :=
        induction fun other member => same other (List.mem_cons_of_mem _ member)
      cases found : observe event with
      | none =>
          rw [List.filterMap_cons_none found, later]
          cases kind : keyed event with
          | true =>
              rw [List.filter_cons_of_pos kind, List.filterMap_cons_none found]
          | false => rw [List.filter_cons_of_neg (by simp [kind])]
      | some value =>
          have agree := same event List.mem_cons_self value found
          rw [List.filterMap_cons_some found]
          cases kind : keyed event with
          | true =>
              rw [List.filter_cons_of_pos kind, List.filter_cons_of_pos
                (agree.trans kind), List.filterMap_cons_some found, later]
          | false =>
              rw [List.filter_cons_of_neg (by simp [agree, kind]),
                List.filter_cons_of_neg (by simp [kind]), later]

structure Belongs (handler : Handler) (key : Key) (group : Group) : Prop where
  sameKey : group.key = key
  marked : group.markedCount ≤ group.members.length
  members : ∀ message ∈ group.members, handler.correlation message = some key

namespace Belongs

variable {handler : Handler} {key : Key} {group : Group}

theorem empty (generation : Nat) (time : Int) :
    Belongs handler key (.empty key generation time) where
  sameKey := rfl
  marked := Nat.le_refl 0
  members := by simp [Group.empty]

theorem add (belongs : Belongs handler key group) {message : Message}
    (correlated : handler.correlation message = some key) (time : Int) :
    Belongs handler key (group.add message time) where
  sameKey := belongs.sameKey
  marked := by
    have marked := belongs.marked
    simp only [Group.add, List.length_append]
    omega
  members := by
    intro member isMember
    rcases List.mem_append.mp isMember with old | new
    · exact belongs.members member old
    · rw [List.mem_singleton.mp new]
      exact correlated

theorem markAll (belongs : Belongs handler key group) (time : Int) :
    Belongs handler key (group.markAll time) where
  sameKey := belongs.sameKey
  marked := Nat.le_refl _
  members := belongs.members

theorem unmarked_add (belongs : Belongs handler key group) (message : Message)
    (time : Int) :
    (group.add message time).unmarked = group.unmarked ++ [message] :=
  List.drop_append_of_le_length belongs.marked

end Belongs

@[simp] theorem unmarked_markAll (group : Group) (time : Int) :
    (group.markAll time).unmarked = [] := by
  simp [Group.unmarked, Group.markAll]

def waiting (stored : Option Group) : List Message :=
  match stored with
  | some group => group.unmarked
  | none => []

theorem waiting_getD_empty (stored : Option Group) (key : Key)
    (generation : Nat) (time : Int) :
    (stored.getD (.empty key generation time)).unmarked = waiting stored := by
  cases stored <;> rfl

/-- What a handler asks under the lock of a key: it has groups of the key
processed, and discards messages of the key. -/
def Concerns (handler : Handler) (key : Key) : Engine.Request → Prop
  | .process group => Belongs handler key group
  | .deliver channel message =>
      channel = handler.discardChannel ∧ handler.correlation message = some key
  | _ => True

/-- A discipline in which the store fails by its capacity alone, and which
allows what a handler asks. -/
structure Discipline.Serves (discipline : Discipline) (handler : Handler)
    (key : Key) : Prop where
  works : ∀ call turn, (discipline.environment call turn).fault = none
  allows : ∀ events request, Concerns handler key request →
    discipline.allows key events request

def Discipline.Discards (discipline : Discipline) (handler : Handler) : Prop :=
  ∀ call turn message,
    (discipline.environment call turn).deliver handler.discardChannel
      message = .ok ()

structure Visit.Grows (call : Nat) (key : Key) (before after : Visit)
    (new : List Event) : Prop where
  own : after.own = before.own ++ new
  events : after.view.events = before.view.events ++ new
  mine :
    ∀ event ∈ new, event.call = call ∧ event.key = some key ∧ event.IsAnswer

/-- What is done with messages between two moments of a visit: groups are
processed, messages are discarded where the discard channel works, and a message
may turn out not to be stored. -/
def Deed (discipline : Discipline) (handler : Handler) (call : Nat) (key : Key)
    (before after : Visit) (processed : List Group) (discarded : List Message)
    (refused : Bool) :
    Prop :=
  ∃ new, Visit.Grows call key before after new ∧
    new.filterMap Event.processed? = processed ∧
    (discipline.Discards handler →
      new.filterMap (Event.discarded? handler.discardChannel) = discarded) ∧
    new.any Event.refuses = refused

variable {discipline : Discipline} {handler : Handler} {call ticket : Nat}
  {key : Key} {before middle after visit : Visit}

namespace Deed

theorem refl (visit : Visit) :
    Deed discipline handler call key visit visit [] [] false :=
  ⟨[], ⟨by simp, by simp, by simp⟩, rfl, fun _ => rfl, rfl⟩

theorem trans {processed moreProcessed : List Group}
    {discarded moreDiscarded : List Message} {refused alsoRefused : Bool}
    (first : Deed
      discipline handler call key before middle processed discarded refused)
    (second : Deed discipline
      handler call key middle after moreProcessed moreDiscarded alsoRefused) :
    Deed discipline handler call key before after (processed ++ moreProcessed)
      (discarded ++ moreDiscarded) (refused || alsoRefused) := by
  obtain ⟨new, grows, rfl, discards, rfl⟩ := first
  obtain ⟨later, laterGrows, rfl, laterDiscards, rfl⟩ := second
  refine ⟨new ++ later, ⟨?_, ?_, ?_⟩, List.filterMap_append, ?_,
    List.any_append⟩
  · rw [laterGrows.own, grows.own, List.append_assoc]
  · rw [laterGrows.events, grows.events, List.append_assoc]
  · intro event member
    rcases List.mem_append.mp member with old | new
    · exact grows.mine event old
    · exact laterGrows.mine event new
  · intro works
    rw [List.filterMap_append, discards works, laterDiscards works]

end Deed

theorem Deed.of_not_discards {processed : List Group}
    {discarded others : List Message} {refused : Bool}
    (deed : Deed discipline handler call key before after processed discarded
      refused) (fails : ¬ discipline.Discards handler) :
    Deed discipline handler call key before after processed others refused := by
  obtain ⟨new, grows, isProcessed, _, isRefused⟩ := deed
  exact ⟨new, grows, isProcessed, fun works => absurd works fails, isRefused⟩

theorem grows_respond {circumstances : Circumstances} {refusal : Option Error}
    {request : Engine.Request} {answer : request.Answer}
    (responded :
      (after, answer) = visit.respond circumstances refusal call key request) :
    Visit.Grows call key visit after
      [⟨call, some key, .answered request answer⟩] ∧
    after.view.stored =
      (circumstances.shelve refusal visit.view.stored request).1 ∧
    answer = (circumstances.shelve refusal visit.view.stored request).2 := by
  obtain ⟨rfl, rfl⟩ := Prod.mk.inj responded
  exact ⟨⟨rfl, rfl, by simp [Event.IsAnswer]⟩, rfl, rfl⟩

namespace Discipline

namespace Serves

variable (serves : discipline.Serves handler key)

include serves

theorem ensures_load :
    discipline.Ensures call key ticket (Call.ask (.load key)) visit
      fun answer after =>
        Deed discipline handler call key visit after [] [] false ∧
          after.view.stored = visit.view.stored ∧
          ∃ generation time, answer =
            .ok (visit.view.stored.getD (.empty key generation time)) := by
  refine ⟨rfl, serves.allows _ _ trivial,
    fun refusal _ after answer responded => ?_⟩
  obtain ⟨grows, stored, answered⟩ := grows_respond responded
  simp only [Circumstances.shelve, serves.works] at stored answered
  exact ⟨⟨_, grows, rfl, fun _ => rfl, rfl⟩, stored, _, _, answered⟩

theorem ensures_add (message : Message) :
    discipline.Ensures call key ticket (Call.ask (.add key message)) visit
      fun answer after =>
        (answer = .error (.storeFull discipline.capacity) ∧
          Deed discipline handler call key visit after [] [] true ∧
          after.view.stored = visit.view.stored ∧ discipline.capacity ≠ 0) ∨
        ∃ group generation time, answer = .ok group ∧
          Deed discipline handler call key visit after [] [] false ∧
          after.view.stored = some group ∧
          group = (visit.view.stored.getD (.empty key generation time)).add
            message time := by
  refine ⟨rfl, serves.allows _ _ trivial,
    fun refusal mayRefuse after answer responded => ?_⟩
  obtain ⟨grows, stored, answered⟩ := grows_respond responded
  simp only [Circumstances.shelve, serves.works, Option.none_or]
    at stored answered
  rcases mayRefuse with rfl | ⟨bounded, rfl⟩
  · subst answered
    exact .inr ⟨_, _, _, rfl, ⟨_, grows, rfl, fun _ => rfl, rfl⟩, stored, rfl⟩
  · subst answered
    exact .inl ⟨rfl, ⟨_, grows, rfl, fun _ => rfl, rfl⟩, stored, bounded⟩

theorem ensures_mark {group : Group} (sameKey : group.key = key) :
    discipline.Ensures call key ticket (Call.ask (.mark group)) visit
      fun answer after =>
        (∃ marked, answer = .ok marked) ∧
          Deed discipline handler call key visit after [] [] false ∧
          ∃ time, after.view.stored =
            visit.view.stored.map fun held => held.markAll time := by
  refine ⟨sameKey, serves.allows _ _ trivial,
    fun refusal _ after answer responded => ?_⟩
  obtain ⟨grows, stored, answered⟩ := grows_respond responded
  simp only [Circumstances.shelve, serves.works] at stored answered
  exact ⟨⟨_, answered⟩, ⟨_, grows, rfl, fun _ => rfl, rfl⟩, _, stored⟩

theorem ensures_remove :
    discipline.Ensures call key ticket (Call.ask (.remove key)) visit
      fun answer after =>
        answer = .ok () ∧
          Deed discipline handler call key visit after [] [] false ∧
          after.view.stored = none := by
  refine ⟨rfl, serves.allows _ _ trivial,
    fun refusal _ after answer responded => ?_⟩
  obtain ⟨grows, stored, answered⟩ := grows_respond responded
  simp only [Circumstances.shelve, serves.works] at stored answered
  exact ⟨answered, ⟨_, grows, rfl, fun _ => rfl, rfl⟩, stored⟩

theorem ensures_process {group : Group} (belongs : Belongs handler key group) :
    discipline.Ensures call key ticket (Call.ask (.process group)) visit
      fun _ after =>
        Deed discipline handler call key visit after [group] [] false ∧
          after.view.stored = visit.view.stored := by
  refine ⟨trivial, serves.allows _ _ belongs,
    fun refusal _ after answer responded => ?_⟩
  obtain ⟨grows, stored, -⟩ := grows_respond responded
  exact ⟨⟨_, grows, rfl, fun _ => rfl, rfl⟩, stored⟩

theorem ensures_judge (group : Group) :
    discipline.Ensures call key ticket (Call.ask (.judge group)) visit
      fun isReady after =>
        isReady = (discipline.environment call visit.own.length).judge group ∧
          Deed discipline handler call key visit after [] [] false ∧
          after.view.stored = visit.view.stored := by
  refine ⟨trivial, serves.allows _ _ trivial,
    fun refusal _ after answer responded => ?_⟩
  obtain ⟨grows, stored, answered⟩ := grows_respond responded
  exact ⟨answered, ⟨_, grows, rfl, fun _ => rfl, rfl⟩, stored⟩

theorem ensures_deliver {message : Message}
    (correlated : handler.correlation message = some key) :
    discipline.Ensures call key ticket (Call.ask
      (.deliver handler.discardChannel message)) visit fun answer after =>
        (discipline.Discards handler → answer = .ok ()) ∧
          Deed discipline handler call key visit after [] [message] false ∧
          after.view.stored = visit.view.stored := by
  refine ⟨trivial, serves.allows _ _ ⟨rfl, correlated⟩,
    fun refusal _ after answer responded => ?_⟩
  obtain ⟨grows, stored, answered⟩ := grows_respond responded
  have taken : discipline.Discards handler → answer = .ok () := fun works =>
    answered.trans (works _ _ _)
  refine ⟨taken, ⟨_, grows, rfl, fun works => ?_, rfl⟩, stored⟩
  rw [taken works]
  simp [Event.discarded?]

end Serves

theorem Serves.ensures_of_asks (serves : discipline.Serves handler key)
    {program : Call α} (asks : Asks (IsQuiet ticket) program) :
    discipline.Ensures call key ticket program visit fun _ after =>
      Deed discipline handler call key visit after [] [] false ∧
        after.view.stored = visit.view.stored := by
  induction program generalizing visit with
  | done value => exact ⟨Deed.refl visit, rfl⟩
  | ask request next induction =>
      obtain ⟨quiet, asks⟩ := asks
      have allowed : discipline.allows key visit.view.events request := by
        apply serves.allows _ request
        cases request <;> first | exact trivial | exact quiet.elim
      refine ⟨quiet.isAbout, allowed,
        fun refusal _ middle answer responded => ?_⟩
      obtain ⟨grows, stored, -⟩ := grows_respond responded
      have deed :
          Deed discipline handler call key visit middle [] [] false := by
        refine ⟨_, grows, ?_, fun _ => ?_, ?_⟩ <;>
          cases request <;> first | rfl | exact quiet.elim
      have unchanged : middle.view.stored = visit.view.stored := by
        rw [stored]
        cases request <;> first | rfl | exact quiet.elim
      refine (induction answer (asks answer)).imp
        fun value after ⟨laterDeed, laterStored⟩ => ?_
      exact ⟨deed.trans laterDeed, laterStored.trans unchanged⟩

theorem Serves.ensures_quiet (serves : discipline.Serves handler key)
    {request : Engine.Request} (quiet : IsQuiet ticket request) :
    discipline.Ensures call key ticket (Call.ask request) visit fun _ after =>
      Deed discipline handler call key visit after [] [] false ∧
        after.view.stored = visit.view.stored :=
  serves.ensures_of_asks ⟨quiet, fun _ => trivial⟩

end Discipline

end Collate.Interleaving
