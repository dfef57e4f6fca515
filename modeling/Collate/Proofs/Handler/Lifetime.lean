import Collate.Proofs.Handler.CutOff
import Collate.Proofs.Handler.Staleness
import Collate.Proofs.Store.Admission
import Mathlib.Data.List.Induction

namespace Collate

namespace Group

variable {early middle late group : Group} {message : Message}

/-- One state of a group is later than another: messages have come in behind
those that were there, more members are marked, and the group has been made at
the same time. -/
structure GrowsTo (early late : Group) : Prop where
  members : early.members <+: late.members
  marked : early.markedCount ≤ late.markedCount
  created : late.createdAt = early.createdAt

namespace GrowsTo

theorem refl (group : Group) : group.GrowsTo group where
  members := List.prefix_refl _
  marked := Nat.le_refl _
  created := rfl

theorem trans (first : early.GrowsTo middle) (second : middle.GrowsTo late) :
    early.GrowsTo late where
  members := first.members.trans second.members
  marked := Nat.le_trans first.marked second.marked
  created := second.created.trans first.created

theorem add (group : Group) (message : Message) (time : Int) :
    group.GrowsTo (group.add message time) where
  members := List.prefix_append _ _
  marked := Nat.le_refl _
  created := rfl

theorem markAll (marked : group.markedCount ≤ group.size) (time : Int) :
    group.GrowsTo (group.markAll time) where
  members := List.prefix_refl _
  marked := marked
  created := rfl

theorem first? (grows : early.GrowsTo late) (nonempty : early.isEmpty = false) :
    late.first? = early.first? := by
  obtain ⟨more, members⟩ := grows.members
  cases held : early.members with
  | nil => simp [isEmpty, held] at nonempty
  | cons first rest => simp [Group.first?, ← members, held]

end GrowsTo

theorem canAdd_eq_false_iff :
    group.canAdd message = false ↔
    message.id ∈ group.members.map Message.id ∨
    message.sequenceNumber ≠ 0 ∧ group.isEmpty = false ∧
    (message.sequenceSize ≠ group.sequenceSize ∨
      message.sequenceNumber ∈ group.members.map Message.sequenceNumber) := by
  unfold canAdd
  split
  · rename_i present
    have known : message.id ∈ group.members.map Message.id := by
      simpa using present
    simp [known]
  · rename_i absent
    have unknown : message.id ∉ group.members.map Message.id := by
      simpa using absent
    split
    · rename_i free
      simp only [Bool.or_eq_true, decide_eq_true_eq] at free
      rcases free with unnumbered | empty
      · simp [unknown, unnumbered]
      · simp [unknown, empty]
    · rename_i placed
      simp only [Bool.or_eq_true, decide_eq_true_eq, not_or, Bool.not_eq_true]
        at placed
      split
      · rename_i otherSize
        simp [unknown, placed, otherSize]
      · rename_i sameSize
        simp [unknown, placed, not_not.mp sameSize]

theorem GrowsTo.rejects (grows : early.GrowsTo late)
    (rejects : early.canAdd message = false) : late.canAdd message = false := by
  have subset := grows.members.subset
  rcases canAdd_eq_false_iff.mp rejects with known | ⟨numbered, nonempty, unfit⟩
  · exact canAdd_eq_false_iff.mpr (.inl (List.map_subset _ subset known))
  · have first := grows.first? nonempty
    have nonemptyStill : late.isEmpty = false := by
      cases held : early.members with
      | nil => simp [isEmpty, held] at nonempty
      | cons member rest =>
          have present : member ∈ late.members := subset (by simp [held])
          simpa [isEmpty] using List.ne_nil_of_mem present
    refine canAdd_eq_false_iff.mpr
      (.inr ⟨numbered, nonemptyStill, unfit.imp ?_ ?_⟩)
    · intro otherSize
      rwa [sequenceSize, first]
    · exact fun taken => List.map_subset _ subset taken

end Group

namespace Interleaving

variable {environment : Environment} {discipline : Discipline} {system : System}
  {circumstances : Circumstances} {refusal : Option Error}
  {request : Engine.Request} {stored : Option Group} {early late : Group}
  {key : Key} {call ticket generation : Nat}

theorem shelve_cases (circumstances : Circumstances) (refusal : Option Error)
    (stored : Option Group) (request : Engine.Request) :
    (circumstances.shelve refusal stored request).1 = stored ∨
    (circumstances.shelve refusal stored request).1 = none ∨
    (∃ key message, request = .add key message ∧
      (circumstances.shelve refusal stored request).1 = some ((stored.getD
        (.empty key circumstances.generation circumstances.time)).add message
        circumstances.time)) ∨
    (circumstances.shelve refusal stored request).1 = stored.map
      fun held => held.markAll circumstances.time := by
  cases request with
  | add key message =>
      cases failure : circumstances.fault.or refusal with
      | some error => exact .inl (by simp only [Circumstances.shelve, failure])
      | none =>
          refine .inr (.inr (.inl ⟨key, message, rfl, ?_⟩))
          simp only [Circumstances.shelve, failure]
  | mark group =>
      cases fault : circumstances.fault with
      | some error => exact .inl (by simp only [Circumstances.shelve, fault])
      | none =>
          exact .inr (.inr (.inr (by simp only [Circumstances.shelve, fault])))
  | remove key =>
      cases fault : circumstances.fault with
      | some error => exact .inl (by simp only [Circumstances.shelve, fault])
      | none => exact .inr (.inl (by simp only [Circumstances.shelve, fault]))
  | load key =>
      refine .inl ?_
      simp only [Circumstances.shelve]
      cases circumstances.fault <;> rfl
  | _ => exact .inl rfl

theorem grows_shelve (held : stored = some early)
    (marked : early.markedCount ≤ early.size)
    (found : (circumstances.shelve refusal stored request).1 = some late) :
    early.GrowsTo late := by
  subst held
  rcases shelve_cases circumstances refusal (some early) request with
    same | gone | ⟨key, message, -, added⟩ | marks
  · obtain rfl := Option.some.inj (same.symm.trans found)
    exact .refl _
  · exact absurd (gone.symm.trans found) nofun
  · obtain rfl := Option.some.inj (added.symm.trans found)
    exact .add early message _
  · obtain rfl := Option.some.inj (marks.symm.trans found)
    exact .markAll marked _

def Joins (stored : Option Group) : Engine.Request → Prop
  | .add key message => ∀ generation time,
      (stored.getD (.empty key generation time)).canAdd message = true
  | _ => True

theorem regular_shelve (regular : ∀ group, stored = some group → group.Regular)
    (joins : Joins stored request)
    (found : (circumstances.shelve refusal stored request).1 = some late) :
    late.Regular := by
  rcases shelve_cases circumstances refusal stored request with
    same | gone | ⟨key, message, rfl, added⟩ | marks
  · exact regular late (same.symm.trans found)
  · exact absurd (gone.symm.trans found) nofun
  · obtain rfl := Option.some.inj (added.symm.trans found)
    have base : (stored.getD
        (.empty key circumstances.generation circumstances.time)).Regular := by
      cases stored with
      | none => exact Group.regular_empty _ _ _
      | some group => exact regular group rfl
    exact base.add (joins _ _) _
  · obtain ⟨group, held, rfl⟩ :=
      Option.map_eq_some_iff.mp (marks.symm.trans found)
    exact (regular group held).markAll _

/-- Whether a program adds only messages that may join what is stored of the key
whose lock it has, as long as nobody else changes that. Without a lock it is as
good as any program until it asks for one. -/
def AddsFitting : Option (Option Group) → Call Result → Prop
  | _, Program.done _ => True
  | none, Program.ask (.lock _) next =>
      ∀ ticket stored, AddsFitting (some stored) (next ticket)
  | none, Program.ask _ next => ∀ answer, AddsFitting none (next answer)
  | some _, Program.ask (.unlock _) next => AddsFitting none (next ())
  | some stored, Program.ask request next =>
      Joins stored request ∧ ∀ (circumstances : Circumstances) refusal,
        AddsFitting (some (circumstances.shelve refusal stored request).1)
          (next (circumstances.shelve refusal stored request).2)

theorem addsFitting_inside {next : request.Answer → Call Result}
    (locked : ∀ given, request ≠ .unlock given) :
    AddsFitting (some stored) (Program.ask request next) ↔
      Joins stored request ∧ ∀ (circumstances : Circumstances) refusal,
        AddsFitting (some (circumstances.shelve refusal stored request).1)
          (next (circumstances.shelve refusal stored request).2) := by
  cases request with
  | unlock given => exact absurd rfl (locked given)
  | _ => rfl

theorem addsFitting_outside {next : request.Answer → Call Result}
    (unlocked : ∀ key, request ≠ .lock key) :
    AddsFitting none (Program.ask request next) ↔
    ∀ answer, AddsFitting none (next answer) := by
  cases request with
  | lock key => exact absurd rfl (unlocked key)
  | _ => rfl

theorem AddsNothing.joins (nothing : AddsNothing request) :
    Joins stored request := by
  cases request <;> trivial

theorem addsFitting_of_asks {program : Call Result}
    (asks : Asks AddsNothing program) (place : Option (Option Group)) :
    AddsFitting place program := by
  induction program generalizing place with
  | done value => cases place <;> trivial
  | ask request next induction =>
      cases place with
      | none =>
          by_cases lock : ∃ key, request = .lock key
          · obtain ⟨key, rfl⟩ := lock
            exact fun ticket stored =>
              induction ticket (asks.2 ticket) (some stored)
          · refine (addsFitting_outside (not_exists.mp lock)).mpr
              fun answer => ?_
            exact induction answer (asks.2 answer) none
      | some stored =>
          by_cases unlock : ∃ given, request = .unlock given
          · obtain ⟨given, rfl⟩ := unlock
            exact induction () (asks.2 ()) none
          · refine (addsFitting_inside (not_exists.mp unlock)).mpr
              ⟨asks.1.joins, fun circumstances refusal => ?_⟩
            exact induction _ (asks.2 _) _

section Calls

open Discipline

variable {handler : Handler} {message : Message}

theorem asks_locked_of {α : Type} {kind : Engine.Request → Prop}
    {body : Nat → Call α}
    (locks : kind (.lock key)) (unlocks : ∀ given, kind (.unlock given))
    (asks : ∀ ticket, Asks kind (body ticket)) :
    Asks kind (Handler.locked key body) := by
  refine asks_ask_bind.mpr ⟨locks, fun ticket => ?_⟩
  exact asks_bind (asks ticket) fun value => ⟨unlocks ticket, fun _ => trivial⟩

theorem asks_forceComplete (handler : Handler) (seen : Group) :
    Asks AddsNothing (handler.forceComplete seen) := by
  refine asks_locked_of trivial (fun _ => trivial) fun ticket => ?_
  rw [Handler.finishSeen_eq]
  refine asks_ask_bind.mpr ⟨trivial, fun answer => ?_⟩
  cases answer with
  | error error => trivial
  | ok group =>
      exact (asks_finishFound handler ticket seen group).mono
        addsNothing_of_isSettling

theorem asks_attend {α : Type} {program : Call α}
    (asks : Asks AddsNothing program) :
    Asks AddsNothing (attend handler program) := by
  induction program with
  | done value => trivial
  | ask request next induction =>
      cases request with
      | notify subscriber group =>
          refine asks_bind
            (asks_bind (asks_forceComplete handler group) fun result => ?_)
            fun reaction => induction reaction (asks.2 reaction)
          cases result <;> trivial
      | _ => exact ⟨asks.1, fun answer => induction answer (asks.2 answer)⟩

theorem asks_offer (group : Group) (round : Sweep.Round)
    (subscribers : List Subscriber) :
    Asks AddsNothing (Sweep.offer group round subscribers) := by
  induction subscribers generalizing round with
  | nil => trivial
  | cons subscriber rest induction =>
      refine asks_ask_bind.mpr ⟨trivial, fun answer => ?_⟩
      match answer with
      | .ok .handled => exact induction _
      | .ok .unsubscribed =>
          exact asks_ask_bind.mpr ⟨trivial, fun _ => induction _⟩
      | .error error => exact asks_ask_bind.mpr ⟨trivial, fun _ => induction _⟩

theorem asks_offerAll (sweep : Sweep) (groups : List Group) :
    Asks AddsNothing (Sweep.offerAll sweep groups) := by
  induction groups generalizing sweep with
  | nil => trivial
  | cons group rest induction =>
      refine asks_ask_bind.mpr ⟨trivial, fun _ => ?_⟩
      refine asks_bind (asks_offer group _ _) fun round => ?_
      dsimp only
      split
      · exact asks_ask_bind.mpr ⟨trivial, fun _ => induction _⟩
      · exact induction _

theorem asks_sweep (timeout : Nat) : Asks AddsNothing (Sweep.run timeout) := by
  refine asks_ask_bind.mpr ⟨trivial, fun survey => ?_⟩
  split
  · trivial
  · refine asks_bind (asks_offerAll _ _) fun sweep => ?_
    obtain ⟨listening, gone, failure⟩ := sweep
    cases gone with
    | nil => cases failure <;> trivial
    | cons subscriber rest =>
        refine asks_ask_bind.mpr ⟨trivial, fun _ => ?_⟩
        cases failure <;> trivial

theorem canAdd_getD (stored : Option Group) (key : Key) (message : Message)
    (generation laterGeneration : Nat) (time later : Int) :
    (stored.getD (.empty key generation time)).canAdd message =
      (stored.getD (.empty key laterGeneration later)).canAdd message := by
  cases stored <;> rfl

section Receive

variable {rest : Except Error Unit → Call Result}
  (ends : ∀ result, Asks AddsNothing (rest result))

include ends

theorem addsFitting_enroll (handler : Handler) (ticket : Nat)
    (admits : ∀ generation time,
      (stored.getD (.empty key generation time)).canAdd message = true) :
    AddsFitting (some stored)
      ((handler.enroll ticket key message).bind rest) := by
  rw [Handler.enroll_eq]
  refine ⟨admits,
    fun circumstances refusal => addsFitting_of_asks (asks_bind ?_ ends) _⟩
  generalize (circumstances.shelve refusal stored (.add key message)).2 = answer
  cases answer with
  | error error => trivial
  | ok group =>
      exact (asks_settle handler ticket key message group).mono
        addsNothing_of_isSettling

theorem addsFitting_place (handler : Handler) (ticket : Nat) {group : Group}
    (found : ∀ generation time, (stored.getD
      (.empty key generation time)).canAdd message = group.canAdd message) :
    AddsFitting (some stored)
      ((handler.place ticket key message group).bind rest) := by
  have going : AddsFitting (some stored)
      (Program.bind
        (if group.canAdd message then handler.enroll ticket key message
        else do
          Call.log (.rejected key message)
          handler.discard key message) rest) := by
    split
    · rename_i admits
      exact addsFitting_enroll ends handler ticket fun generation time =>
        (found generation time).trans admits
    · refine addsFitting_of_asks (asks_bind ?_ ends) _
      refine asks_ask_bind.mpr ⟨trivial, fun _ => ?_⟩
      exact asks_discard_of (fun _ _ => trivial) (fun _ => trivial)
        handler key message
  unfold Handler.place
  dsimp only
  split
  · exact ⟨trivial, fun _ _ => going⟩
  · exact going

theorem addsFitting_receive (handler : Handler) (ticket : Nat) (key : Key)
    (message : Message) (stored : Option Group) :
    AddsFitting (some stored)
      ((handler.receive ticket key message).bind rest) := by
  rw [Handler.receive_eq]
  refine ⟨trivial, fun circumstances refusal => ?_⟩
  cases fault : circumstances.fault with
  | some error =>
      simp only [Circumstances.shelve, fault]
      exact addsFitting_of_asks (ends _) _
  | none =>
      simp only [Circumstances.shelve, fault]
      exact addsFitting_place ends handler ticket fun generation time =>
        canAdd_getD stored key message _ _ _ _

end Receive

theorem addsFitting_program (handler : Handler) (invocation : Invocation) :
    AddsFitting none (invocation.program handler) := by
  cases invocation with
  | handle message =>
      cases correlated : handler.correlation message with
      | none =>
          rw [program_handle_none correlated]
          refine addsFitting_of_asks ?_ none
          exact ⟨trivial, fun _ => trivial⟩
      | some key =>
          rw [program_handle_some correlated]
          intro ticket stored
          simp only [Program.bind_eq, Program.bind_assoc, Program.bind_done]
          refine addsFitting_receive (fun result => ?_) handler ticket
            key message stored
          exact ⟨trivial, fun _ => trivial⟩
  | forceComplete seen =>
      refine addsFitting_of_asks ?_ none
      exact asks_bind (asks_forceComplete handler seen) fun _ => trivial
  | expire timeout =>
      refine addsFitting_of_asks ?_ none
      exact asks_bind (asks_attend (asks_sweep timeout)) fun _ => trivial

end Calls

namespace Resilient

variable {name : Key} {claimed : Nat}
  {rest otherRest : Call Result} {other : Nat}

theorem alone_of_inside (resilient : Resilient discipline system)
    (phase : system.phase call = .inside key ticket rest)
    (otherPhase : system.phase other = .inside key claimed otherRest) :
    other = call := by
  have coherent : Coherent discipline (system.truncate fun _ => 0) :=
    resilient fun _ => 0
  have here : (system.truncate fun _ => 0).phase call =
      .inside key ticket (truncate (some ticket) 0 rest) := by
    rw [System.phase_truncate, phase, Phase.truncate]
  have there : (system.truncate fun _ => 0).phase other =
      .inside key claimed (truncate (some claimed) 0 otherRest) := by
    rw [System.phase_truncate, otherPhase, Phase.truncate]
  exact coherent.alone_of_inside here there

theorem isAbout_of_inside (resilient : Resilient discipline system)
    {next : request.Answer → Call Result}
    (phase : system.phase call = .inside key ticket (Program.ask request next))
    (locked : ∀ given, request ≠ .unlock given) :
    IsAbout key ticket request := by
  have truncated : (system.truncate fun _ => 1).phase call =
      .inside key ticket (Program.ask request fun answer =>
        truncate (heldAfter (some ticket) request answer) 0 (next answer)) := by
    rw [System.phase_truncate, phase, Phase.truncate,
      truncate_ask (givesBack_succ _ _ _)]
  have abides :=
    ((ready_inside_iff truncated).mp ((resilient fun _ => 1).ready call)).2.2
  cases abides with
  | unlock left going => exact absurd rfl (locked _)
  | about isAbout allowed going => exact isAbout

theorem get?_move_cases (resilient : Resilient discipline system) (move : Move)
    (key : Key) :
    (system.move discipline.environment move).store.get? key =
      system.store.get? key ∨
    ∃ call ticket request, ∃ next : request.Answer → Call Result,
      move = .turn call ∧
        system.phase call = .inside key ticket (Program.ask request next) ∧
        (system.move discipline.environment move).store.get? key =
          ((discipline.environment call (system.own call).length).shelve
            system.store.refusal? (system.store.get? key) request).1 := by
  by_cases apart : ∀ claimed rest,
    system.phase move.call ≠ .inside key claimed rest
  · exact .inl (resilient.get?_move_of_apart apart)
  simp only [ne_eq, not_forall, not_not] at apart
  obtain ⟨ticket, rest, phase⟩ := apart
  cases move with
  | drop call =>
      exact .inl
        (congrArg (fun store => store.get? key) (system.store_drop call))
  | turn call =>
      have inside : system.phase call = .inside key ticket rest := phase
      have turns := System.turns_advance discipline.environment system call
      rw [System.move]
      generalize system.advance discipline.environment call = after at turns ⊢
      cases turns with
      | stays | asks | enters | leaves => exact .inl rfl
      | outside phase => exact absurd (phase.symm.trans inside) (by simp)
      | @inside other claimed request next phase locked =>
          obtain ⟨rfl, rfl, rfl⟩ := Phase.inside.inj (inside.symm.trans phase)
          have isAbout := resilient.isAbout_of_inside phase locked
          exact .inr ⟨call, ticket, request, next, rfl, phase,
            (answer_of_isAbout _ _ isAbout).2⟩

end Resilient

def Phase.AddsFitting (store : Store) : Phase → Prop
  | .outside rest => Interleaving.AddsFitting none rest
  | .waiting _ _ next =>
      ∀ ticket stored, Interleaving.AddsFitting (some stored) (next ticket)
  | .inside key _ rest => Interleaving.AddsFitting (some (store.get? key)) rest

namespace Resilient

theorem addsFitting_advance (resilient : Resilient discipline system)
    (fitting : (system.phase call).AddsFitting system.store) :
    ((system.advance discipline.environment call).phase call).AddsFitting
      (system.advance discipline.environment call).store := by
  have turns := System.turns_advance discipline.environment system call
  generalize system.advance discipline.environment call = after at turns ⊢
  cases turns with
  | stays => exact fitting
  | asks phase =>
      rw [phase] at fitting
      rw [System.ask, System.phase_go_self _ ⟨call, _, _⟩]
      exact fitting
  | enters phase =>
      rw [phase] at fitting
      rw [System.enter, System.phase_go_self _ ⟨call, _, _⟩]
      exact fitting _ _
  | leaves phase =>
      rw [phase] at fitting
      rw [System.leave, System.phase_go_self _ ⟨call, _, _⟩]
      exact fitting
  | outside phase unlocked =>
      rw [phase] at fitting
      rw [System.respond_eq, System.phase_go_self _ ⟨call, _, _⟩]
      exact (addsFitting_outside unlocked).mp fitting _
  | @inside key ticket request next phase locked =>
      rw [phase] at fitting
      have isAbout := resilient.isAbout_of_inside phase locked
      have answered :=
        answer_of_isAbout (discipline.environment call (system.own call).length)
          system.store isAbout
      rw [System.respond_eq, System.phase_go_self _ ⟨call, _, _⟩]
      show Interleaving.AddsFitting (some (Store.get? _ key)) _
      have going := ((addsFitting_inside locked).mp fitting).2
          (discipline.environment call (system.own call).length)
          system.store.refusal?
      rwa [← answered.1, ← answered.2] at going

theorem addsFitting_move (resilient : Resilient discipline system)
    (fitting : ∀ call, (system.phase call).AddsFitting system.store)
    (move : Move) (call : Nat) :
    ((system.move discipline.environment move).phase call).AddsFitting
      (system.move discipline.environment move).store := by
  by_cases mine : call = move.call
  · subst mine
    cases move with
    | turn call => exact resilient.addsFitting_advance (fitting call)
    | drop call =>
        rcases system.drop_cases call with same | ⟨key, ticket, left⟩
        · rw [System.move, same]
          exact fitting call
        · show Phase.AddsFitting _ ((system.drop call).phase call)
          rw [left, System.leave, System.phase_go_self _ ⟨call, _, _⟩]
          trivial
  · rw [System.phase_move_of_ne mine]
    have fits := fitting call
    cases phase : system.phase call with
    | outside rest => rwa [phase] at fits
    | waiting key ticket next => rwa [phase] at fits
    | inside key ticket rest =>
        rw [phase] at fits
        have same : (system.move discipline.environment move).store.get? key =
            system.store.get? key :=
          resilient.get?_move_of_apart fun claimed otherRest inside =>
            mine (resilient.alone_of_inside phase inside).symm
        show Interleaving.AddsFitting (some (Store.get? _ key)) rest
        rwa [same]

end Resilient

/-- What holds after any moves of the calls of a handler: calls can be cut off,
what they add may join, what the store has is proper, and the members of a group
go together. -/
structure Orderly (discipline : Discipline) (system : System) : Prop where
  resilient : Resilient discipline system
  fitting : ∀ call, (system.phase call).AddsFitting system.store
  sound : system.store.Sound
  regular : ∀ key group, system.store.get? key = some group → group.Regular

namespace Orderly

theorem move (orderly : Orderly discipline system) (move : Move) :
    Orderly discipline (system.move discipline.environment move) where
  resilient := orderly.resilient.move move
  fitting := orderly.resilient.addsFitting_move orderly.fitting move
  sound := System.sound_undergo orderly.sound [move]
  regular := by
    intro key group found
    rcases orderly.resilient.get?_move_cases move key with
      same | ⟨call, ticket, request, next, rfl, phase, changed⟩
    · exact orderly.regular key group (same.symm.trans found)
    · by_cases unlock : ∃ given, request = .unlock given
      · obtain ⟨given, rfl⟩ := unlock
        exact orderly.regular key group (changed.symm.trans found)
      · have fitting := orderly.fitting call
        rw [phase] at fitting
        have joins := ((addsFitting_inside (not_exists.mp unlock)).mp fitting).1
        exact regular_shelve (orderly.regular key) joins
          (changed.symm.trans found)

theorem undergo (orderly : Orderly discipline system) (moves : List Move) :
    Orderly discipline (system.undergo discipline.environment moves) := by
  induction moves generalizing system with
  | nil => exact orderly
  | cons first rest induction => exact induction (orderly.move first)

theorem grows_move (orderly : Orderly discipline system) {move : Move}
    (held : system.store.get? key = some early)
    (found : (system.move discipline.environment move).store.get?
      key = some late) :
    early.GrowsTo late := by
  rcases orderly.resilient.get?_move_cases move key with
    same | ⟨call, ticket, request, next, -, -, changed⟩
  · obtain rfl := Option.some.inj (held.symm.trans (same.symm.trans found))
    exact .refl _
  · exact grows_shelve held (orderly.sound.proper_of_get? held).marked
      (changed.symm.trans found)

end Orderly

namespace System

theorem undergo_append (environment : Environment) (system : System)
    (before after : List Move) :
    system.undergo environment (before ++ after) =
      (system.undergo environment before).undergo environment after :=
  List.foldl_append

theorem length_own_move_le (environment : Environment) (system : System)
    (move : Move) (call : Nat) :
    (system.own call).length ≤
      ((system.move environment move).own call).length :=
  ((system.trace_move move).filter _).length_le

theorem Issued.move (issued : system.Issued environment generation)
    (move : Move) :
    (system.move environment move).Issued environment generation := by
  obtain ⟨issuer, turn, before, same⟩ := issued
  exact ⟨issuer, turn, Nat.lt_of_lt_of_le before
    (length_own_move_le environment system move issuer), same⟩

theorem Issued.undergo (issued : system.Issued environment generation)
    (moves : List Move) :
    (system.undergo environment moves).Issued environment generation := by
  induction moves generalizing system with
  | nil => exact issued
  | cons first rest induction => exact induction (issued.move first)

theorem generation_of_move {move : Move}
    (has : (system.move environment move).store.HasGeneration key generation) :
    system.store.HasGeneration key generation ∨
    ∃ call,
      generation = (environment call (system.own call).length).generation ∧
        (system.own call).length <
          ((system.move environment move).own call).length := by
  cases move with
  | turn call =>
      exact (generation_of_advance has).imp_right fun new => ⟨call, new⟩
  | drop call =>
      rw [System.move, store_drop] at has
      exact .inl has

theorem issued_undergo {moves : List Move}
    (issued : ∀ generation, system.store.HasGeneration key generation →
      system.Issued environment generation)
    (has :
      (system.undergo environment moves).store.HasGeneration key generation) :
    (system.undergo environment moves).Issued environment generation := by
  induction moves generalizing system with
  | nil => exact issued generation has
  | cons first rest induction =>
      refine induction (fun generation has => ?_) has
      rcases generation_of_move has with held | ⟨call, new, later⟩
      · exact (issued generation held).move first
      · exact ⟨call, _, later, new⟩

end System

theorem Orderly.grows_undergo (orderly : Orderly discipline system)
    (fresh : ∀ call turn other again, (discipline.environment
      call turn).generation = (discipline.environment other again).generation →
      call = other ∧ turn = again)
    (issued : system.Issued discipline.environment early.generation)
    (held : system.store.get? key = some early) (moves : List Move)
    (found : (system.undergo discipline.environment moves).store.get? key =
      some late) (same : late.generation = early.generation) :
    early.GrowsTo late := by
  induction moves using List.reverseRecOn generalizing late with
  | nil =>
      obtain rfl := Option.some.inj (held.symm.trans found)
      exact .refl _
  | append_singleton before last induction =>
      rw [System.undergo_append] at found
      have earlier := orderly.undergo before
      rcases System.generation_of_move ⟨late, found, rfl⟩ with
        ⟨middle, stored, generation⟩ | ⟨call, new, -⟩
      · exact (induction stored (generation.trans same)).trans
          (earlier.grows_move stored found)
      · obtain ⟨issuer, turn, taken, old⟩ := issued.undergo before
        obtain ⟨rfl, rfl⟩ :=
          fresh issuer turn call _ (old.symm.trans (same.symm.trans new))
        exact absurd taken (Nat.lt_irrefl _)

/-- The calls of a handler make regular groups, which grow as long as they are
of one generation, whichever calls are cut off: messages come in behind those
that are there, marks only increase, and a message that may not join never
may. -/
theorem groups_only_grow (handler : Handler) (capacity : Nat)
    (environment : Environment) (calls : Nat → Invocation)
    (works : ∀ call turn, (environment call turn).fault = none)
    (fresh : ∀ call turn other again,
      (environment call turn).generation =
        (environment other again).generation →
        call = other ∧ turn = again) :
    let after := fun moves => (System.start capacity fun call =>
      (calls call).program handler).undergo environment moves
    (∀ moves key group, (after moves).store.get? key = some group →
      group.Regular) ∧
    ∀ past meanwhile key early late, (after past).store.get? key = some early →
      (after (past ++ meanwhile)).store.get? key = some late →
      late.generation = early.generation →
      early.members <+: late.members ∧ early.markedCount ≤ late.markedCount ∧
      late.createdAt = early.createdAt ∧
      ∀ message, early.canAdd message = false →
        late.canAdd message = false := by
  intro after
  have start : Orderly (agreeing capacity environment)
      (System.start capacity fun call => (calls call).program handler) := by
    refine ⟨resilient_agreeing handler capacity environment calls works [],
      fun call => ?_, (Store.empty_sound capacity).subscribe _,
      fun key group found => ?_⟩
    · exact addsFitting_program handler (calls call)
    · exact absurd found nofun
  have orderly : ∀ moves,
      Orderly (agreeing capacity environment) (after moves) := start.undergo
  refine ⟨fun moves key group => (orderly moves).regular key group, ?_⟩
  intro past meanwhile key early late held found same
  have issued : (after past).Issued environment early.generation := by
    refine System.issued_undergo (fun generation nothing => ?_)
      ⟨early, held, rfl⟩
    obtain ⟨group, stored, -⟩ := nothing
    exact absurd stored nofun
  have parts :
      after (past ++ meanwhile) = (after past).undergo environment meanwhile :=
    System.undergo_append _ _ past meanwhile
  rw [parts] at found
  have grows :=
    (orderly past).grows_undergo fresh issued held meanwhile found same
  exact ⟨grows.members, grows.marked, grows.created,
    fun message => grows.rejects⟩

/-! The second of two messages joins the group of the first, and is cut off
before it is processed. -/

def groupAfter (moves : List Move) : Option Group :=
  ((System.start 0 fun call => (crowding call).program gatherer).undergo
    numbering moves).store.get? ⟨"all"⟩

def untilFirst : List Move := List.replicate 8 (.turn 0)

def untilSecond : List Move := List.replicate 8 (.turn 1) ++ [.drop 1]

def grown : Group := firstSeen.add (numbered 1) 0

theorem grown_rejects_first :
    groupAfter untilFirst = some firstSeen ∧
    groupAfter (untilFirst ++ untilSecond) = some grown ∧ grown.Regular ∧
    firstSeen.members <+: grown.members ∧
    grown.canAdd (numbered 0) = false := by
  have early : groupAfter untilFirst = some firstSeen := rfl
  have late : groupAfter (untilFirst ++ untilSecond) = some grown := rfl
  have fresh : ∀ call turn other again,
      (numbering call turn).generation = (numbering other again).generation →
        call = other ∧ turn = again :=
    fun _ _ _ _ same => Nat.pair_eq_pair.mp same
  obtain ⟨regular, grows⟩ :=
    groups_only_grow gatherer 0 numbering crowding (fun _ _ => rfl) fresh
  obtain ⟨members, -, -, rejects⟩ :=
    grows untilFirst untilSecond ⟨"all"⟩ firstSeen grown early late rfl
  exact ⟨early, late, regular _ _ _ late, members, rejects _ rfl⟩

end Interleaving

end Collate
