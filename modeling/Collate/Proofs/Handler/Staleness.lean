import Collate.Proofs.Handler.Agreement
import Collate.Proofs.Handler.Snapshot
import Collate.Proofs.Interleaving.Drain
import Collate.Proofs.Interleaving.Generations
import Mathlib.Data.Nat.Pairing

namespace Collate.Interleaving

variable {discipline : Discipline} {handler : Handler}
  {calls : Nat → Invocation} {system : System} {call other : Nat} {key : Key}
  {generation : Nat} {seen : Group}

/-- Whether a call gives a group to the processor, sends a message or changes
the store when it asks next. -/
def System.WillTouch (system : System) (call : Nat) : Prop :=
  ∃ request, system.question? call = some request ∧ Touches request

theorem System.willTouch_congr {after : System}
    (same : after.phase call = system.phase call) :
    after.WillTouch call ↔ system.WillTouch call := by
  unfold WillTouch question?
  rw [same]

theorem System.willTouch_inside_iff {ticket : Nat} {request : Engine.Request}
    {next : request.Answer → Call Result}
    (phase :
      system.phase call = .inside key ticket (Program.ask request next)) :
    system.WillTouch call ↔ Touches request := by
  simp [WillTouch, question?, phase]

theorem System.store_advance_of_not_willTouch {environment : Environment}
    (idle : ¬ system.WillTouch call) :
    (system.advance environment call).store = system.store := by
  rcases advance_cases environment system call with
    ⟨request, place, phase, question, answers⟩ | ⟨same, -⟩
  · rw [answers]
    exact store_answer_of_not_touches
      fun touches => idle ⟨request, question, touches⟩
  · exact same

theorem System.untouched_advance {environment : Environment}
    (idle : ¬ system.WillTouch call)
    (untouched : ∀ event ∈ system.own call, ¬ event.Touches) :
    ∀ event ∈ (system.advance environment call).own call, ¬ event.Touches := by
  intro event member
  rcases advance_cases environment system call with
    ⟨request, place, phase, question, answers⟩ | ⟨-, new, own, unanswered⟩
  · rw [answers, own_respond] at member
    rcases List.mem_append.mp member with past | new
    · exact untouched event past
    · rw [List.mem_singleton.mp new, Event.touches_answered_iff]
      exact fun touches => idle ⟨request, question, touches⟩
  · rw [own] at member
    rcases List.mem_append.mp member with past | new
    · exact untouched event past
    · rintro ⟨request, answer, act, -⟩
      exact unanswered event new request answer act

theorem Invocation.ne_handle_of_seen? {invocation : Invocation}
    {own : List Event} (glances : invocation.seen? own = some seen)
    (message : Message) : invocation ≠ .handle message := by
  rintro rfl
  cases glances

structure Vigilant (discipline : Discipline) (handler : Handler)
    (calls : Nat → Invocation) (system : System) : Prop where
  coherent : Coherent discipline system
  obeys : ∀ call, (∀ message, calls call ≠ .handle message) →
    Obeys (finishing handler (calls call)) system call

namespace Vigilant

theorem start {capacity : Nat} {environment : Environment}
    (works : ∀ call turn, (environment call turn).fault = none) :
    Vigilant (agreeing capacity environment) handler calls
      (System.start capacity fun call => (calls call).program handler) where
  coherent := Coherent.start (fun _ => agrees_start)
    fun call => agreeing_program works (calls call)
  obeys := fun _ finishes => obeys_start (finishing_program finishes)

variable (vigilant : Vigilant discipline handler calls system)

include vigilant

theorem run
    (works : ∀ call turn, (discipline.environment call turn).fault = none)
    (schedule : List Nat) :
    Vigilant discipline handler calls
      (system.run discipline.environment schedule) where
  coherent := vigilant.coherent.run schedule
  obeys := fun call finishes =>
    vigilant.coherent.obeys_run works (vigilant.obeys call finishes) schedule

theorem touches (finishes : ∀ message, calls call ≠ .handle message)
    {request : Engine.Request} (question : system.question? call = some request)
    (touches : Touches request) :
    ∃ seen group, (calls call).seen? (system.own call) = some seen ∧
      (∃ ticket rest, system.phase call = .inside seen.key ticket rest) ∧
      system.store.get? seen.key = some group ∧
      group.generation = seen.generation ∧
      Finishes handler seen.key group
        (sinceEntered (system.own call)) request := by
  have obeys := vigilant.obeys call finishes
  unfold System.question? at question
  split at question
  · rename_i asked next phase
    obtain rfl := Option.some.inj question
    have heeds := (obeys_outside_iff phase).mp obeys
    cases heeds with
    | lock => exact touches.elim
    | aside isAside going =>
        cases asked <;> first | exact touches.elim | exact isAside.elim
  · rename_i key ticket asked next phase
    obtain rfl := Option.some.inj question
    have heeds := (obeys_inside_iff phase).mp obeys
    cases heeds with
    | unlock => exact touches.elim
    | about isAbout allowed going =>
        obtain ⟨seen, group, glances, rfl, held, same, finishes⟩ :=
          allowed touches
        exact ⟨seen, group, glances, ⟨ticket, _, phase⟩, held, same, finishes⟩
  · cases question

theorem hasGeneration_of_willTouch
    (glances : (calls call).seen? (system.own call) = some seen)
    (touching : system.WillTouch call) :
    system.store.HasGeneration seen.key seen.generation ∧
    ∃ ticket rest, system.phase call = .inside seen.key ticket rest := by
  obtain ⟨request, question, touches⟩ := touching
  obtain ⟨same, group, again, inside, held, generation, -⟩ :=
    vigilant.touches (Invocation.ne_handle_of_seen? glances) question touches
  obtain rfl := Option.some.inj (glances.symm.trans again)
  exact ⟨⟨group, held, generation⟩, inside⟩

end Vigilant

/-- Whether a call has the lock of a key and has touched something since it got
it, or is to do so next. -/
def System.Busy (system : System) (call : Nat) (key : Key) : Prop :=
  ∃ ticket rest, system.phase call = .inside key ticket rest ∧
    (system.WillTouch call ∨
      ∃ event ∈ sinceEntered (system.own call), event.Touches)

structure StaysBusy (earlier system : System) (call : Nat)
    (key : Key) : Prop where
  busy : system.Busy call key
  stays : ∃ new, system.own call = earlier.own call ++ new ∧
    ∀ event ∈ new, ∀ keepsEntry result, event.act ≠ .left keepsEntry result

theorem StaysBusy.advance {earlier : System}
    (stays : StaysBusy earlier system call key)
    (vigilant : Vigilant discipline handler calls system)
    (finishes : ∀ message, calls call ≠ .handle message) (other : Nat) :
    StaysBusy earlier (system.advance discipline.environment other) call key ∨
    (system.advance discipline.environment other).store.get? key = none := by
  obtain ⟨⟨ticket, rest, phase, touched⟩, new, own, unleft⟩ := stays
  by_cases mine : other = call
  · subst mine
    have heeds := (obeys_inside_iff phase).mp (vigilant.obeys other finishes)
    cases heeds with
    | unlock leaves going =>
        refine .inr ?_
        rw [System.advance_leave phase]
        rw [System.willTouch_inside_iff phase] at touched
        exact leaves (touched.resolve_left id)
    | @about _ _ _ request next isAbout allowed going =>
        refine .inl ?_
        rw [System.advance_about phase isAbout]
        rw [System.willTouch_inside_iff phase] at touched
        generalize discipline.environment other (system.own other).length =
          circumstances
        set event : Event := ⟨other, some key, .answered request
          (circumstances.answer system.store request).2⟩
        have inner : ∀ last ∈ [event], last.IsInner := by
          simpa using ⟨key, ticket, request, _, isAbout, rfl⟩
        refine ⟨⟨ticket, _, System.phase_go_self _ _ _, .inr ?_⟩,
          new ++ [event], ?_, ?_⟩
        · rw [System.own_respond, sinceEntered_append inner]
          rcases touched with touches | ⟨past, member, touches⟩
          · exact ⟨event, List.mem_concat_self,
              Event.touches_answered_iff.mpr touches⟩
          · exact ⟨past, List.mem_append_left _ member, touches⟩
        · rw [System.own_respond, own, List.append_assoc]
        · intro past member
          rcases List.mem_append.mp member with old | last
          · exact unleft past old
          · rw [List.mem_singleton.mp last]
            exact nofun
  · refine .inl ⟨⟨ticket, rest, ?_, ?_⟩, new, ?_, unleft⟩
    · rw [System.phase_advance_of_ne (Ne.symm mine), phase]
    · rwa [System.willTouch_congr (System.phase_advance_of_ne (Ne.symm mine)),
        System.own_advance_of_ne mine]
    · rw [System.own_advance_of_ne mine, own]

section Fresh

variable (works : ∀ call turn, (discipline.environment call turn).fault = none)
  (fresh : ∀ call turn other again,
    (discipline.environment call turn).generation = (discipline.environment
      other again).generation → call = other ∧ turn = again)

include works fresh

theorem StaysBusy.run {earlier : System}
    (stays : StaysBusy earlier system call key)
    (vigilant : Vigilant discipline handler calls system)
    (finishes : ∀ message, calls call ≠ .handle message)
    (issued : system.Issued discipline.environment generation)
    {schedule : List Nat}
    (has : (system.run discipline.environment schedule).store.HasGeneration
      key generation) :
    StaysBusy earlier
      (system.run discipline.environment schedule) call key := by
  induction schedule generalizing system with
  | nil => exact stays
  | cons first rest induction =>
      have later := vigilant.run works [first]
      rcases stays.advance vigilant finishes first with stays | nothing
      · exact induction stays later (issued.advance first) has
      · refine absurd has (System.gone_run fresh (issued.advance first) ?_ rest)
        rintro ⟨group, found, -⟩
        exact absurd (nothing.symm.trans found) nofun

theorem Vigilant.same_of_willTouch
    (vigilant : Vigilant discipline handler calls system)
    (issued : system.Issued discipline.environment seen.generation)
    {schedule : List Nat}
    {stale : Group} (glances : (calls call).seen? (system.own call) = some seen)
    (touching : system.WillTouch call)
    (again : (calls other).seen?
      ((system.run discipline.environment schedule).own other) = some stale)
    (touchesToo : (system.run discipline.environment schedule).WillTouch other)
    (sameKey : stale.key = seen.key)
    (sameGeneration : stale.generation = seen.generation) :
    other = call ∧ ∃ new,
      (system.run discipline.environment schedule).own call =
        system.own call ++ new ∧
        ∀ event ∈ new, ∀ keepsEntry result, event.act ≠
          .left keepsEntry result := by
  obtain ⟨-, ticket, rest, phase⟩ :=
    vigilant.hasGeneration_of_willTouch glances touching
  have later := vigilant.run works schedule
  obtain ⟨has, claimed, otherRest, otherPhase⟩ :=
    later.hasGeneration_of_willTouch again touchesToo
  rw [sameKey] at has otherPhase
  rw [sameGeneration] at has
  have begun : StaysBusy system system call seen.key :=
    ⟨⟨ticket, rest, phase, .inl touching⟩, [], by simp, by simp⟩
  obtain ⟨⟨_, _, busyPhase, _⟩, stays⟩ := begun.run works fresh vigilant
    (Invocation.ne_handle_of_seen? glances) issued has
  exact ⟨later.coherent.alone_of_inside busyPhase otherPhase, stays⟩

section Gone

variable (vigilant : Vigilant discipline handler calls system)
  (issued : system.Issued discipline.environment seen.generation)
  (gone : ¬ system.store.HasGeneration seen.key seen.generation)

include vigilant issued gone

theorem Vigilant.not_willTouch_of_gone (schedule : List Nat)
    (glances : (calls call).seen?
      ((system.run discipline.environment schedule).own call) = some seen) :
    ¬ (system.run discipline.environment schedule).WillTouch call :=
  fun touching =>
    System.gone_run fresh issued gone schedule ((vigilant.run works
      schedule).hasGeneration_of_willTouch glances touching).1

theorem Vigilant.untouched_of_gone
    (invocation : calls call = .forceComplete seen)
    (untouched : ∀ event ∈ system.own call, ¬ event.Touches)
    (schedule : List Nat) :
    ∀ event ∈ (system.run discipline.environment schedule).own call,
      ¬ event.Touches := by
  induction schedule generalizing system with
  | nil => exact untouched
  | cons first rest induction =>
      have idle : ¬ system.WillTouch call := by
        refine Vigilant.not_willTouch_of_gone works fresh vigilant
          issued gone [] ?_
        rw [invocation]
        rfl
      refine induction (vigilant.run works [first]) (issued.advance first)
        (System.gone_run fresh issued gone [first]) ?_
      by_cases mine : first = call
      · subst mine
        exact System.untouched_advance idle untouched
      · rw [System.own_advance_of_ne mine]
        exact untouched

theorem Vigilant.result_of_gone (invocation : calls call = .forceComplete seen)
    (untouched : ∀ event ∈ system.own call, ¬ event.Touches)
    (schedule : List Nat) {result : Result}
    (come : (system.run discipline.environment schedule).result? call =
      some result) : result = .finished (.ok false) := by
  have obeys := (vigilant.run works schedule).obeys call
    fun message => by simp [invocation]
  have heeds := (obeys_outside_iff (System.phase_of_result? come)).mp obeys
  cases heeds with
  | done ends =>
      exact ends seen invocation (Vigilant.untouched_of_gone works fresh
        vigilant issued gone invocation untouched schedule)

end Gone

end Fresh

/-- However the calls of a handler interleave, a call that is to finish a group
as it was seen touches something only while it has the lock of the key and the
stored group has the generation that was seen, and then it takes the whole
stored group. Once that generation is gone from the key, such a call touches
nothing any more, and comes to say that there was nothing to finish. So no two
calls touch anything for one generation, and one call only while it has the
lock. -/
theorem finished_once_as_seen (handler : Handler) (capacity : Nat)
    (environment : Environment) (calls : Nat → Invocation)
    (works : ∀ call turn, (environment call turn).fault = none)
    (fresh : ∀ call turn other again,
      (environment call turn).generation =
        (environment other again).generation →
        call = other ∧ turn = again) :
    let after := fun schedule =>
      (System.start capacity fun call => (calls call).program handler).run
        environment schedule
    (∀ schedule call,
      (¬ (after schedule).WillTouch call →
        ((after schedule).advance environment call).store =
          (after schedule).store) ∧
        ∀ request, (∀ message, calls call ≠ .handle message) →
          (after schedule).question? call = some request → Touches request →
          ∃ seen group,
            (calls call).seen? ((after schedule).own call) = some seen ∧
              (∃ ticket rest,
                (after schedule).phase call = .inside seen.key ticket rest) ∧
              (after schedule).store.get? seen.key = some group ∧
              group.generation = seen.generation ∧
              Finishes handler seen.key group
                (sinceEntered ((after schedule).own call)) request) ∧
    (∀ past meanwhile seen,
      (after past).store.HasGeneration seen.key seen.generation →
        ¬ (after (past ++ meanwhile)).store.HasGeneration seen.key
          seen.generation →
        (∀ later call,
          (calls call).seen? ((after (past ++ meanwhile ++ later)).own call) =
            some seen →
            ¬ (after (past ++ meanwhile ++ later)).WillTouch call) ∧
        ∀ call, calls call = .forceComplete seen →
          (∀ event ∈ (after (past ++ meanwhile)).own call, ¬ event.Touches) →
          (∀ later result,
            (after (past ++ meanwhile ++ later)).result? call = some result →
              result = .finished (.ok false)) ∧
          ∃ later, (after (past ++ meanwhile ++ later)).result? call =
            some (.finished (.ok false))) ∧
    ∀ past meanwhile call other seen stale,
      (calls call).seen? ((after past).own call) = some seen →
        (after past).WillTouch call →
        (calls other).seen? ((after (past ++ meanwhile)).own other) =
          some stale →
        (after (past ++ meanwhile)).WillTouch other →
        stale.key = seen.key → stale.generation = seen.generation →
        other = call ∧ ∃ new,
          (after (past ++ meanwhile)).own call = (after past).own call ++ new ∧
            ∀ event ∈ new, ∀ keepsEntry result, event.act ≠
              .left keepsEntry result := by
  intro after
  have vigilant : ∀ schedule,
      Vigilant (agreeing capacity environment) handler calls (after schedule) :=
    fun schedule => (Vigilant.start works).run works schedule
  have issued : ∀ schedule key generation,
      (after schedule).store.HasGeneration key generation →
        (after schedule).Issued environment generation :=
    fun schedule key generation has => System.issued_of_hasGeneration has
  have parts : ∀ first second,
      after (first ++ second) = (after first).run environment second :=
    fun first second => System.run_append environment _ first second
  refine ⟨fun schedule call => ⟨System.store_advance_of_not_willTouch, ?_⟩,
    ?_, ?_⟩
  · exact fun request finishes question touches =>
      (vigilant schedule).touches finishes question touches
  · intro past meanwhile seen has gone
    have issuedStill :
        (after (past ++ meanwhile)).Issued environment seen.generation := by
      rw [parts]
      exact System.Issued.run (issued past _ _ has) meanwhile
    refine ⟨fun later call glances => ?_,
      fun call invocation untouched => ⟨?_, ?_⟩⟩
    · rw [parts] at glances ⊢
      exact Vigilant.not_willTouch_of_gone works fresh (vigilant _) issuedStill
        gone later glances
    · intro later result come
      rw [parts] at come
      exact Vigilant.result_of_gone works fresh (vigilant _) issuedStill gone
        invocation untouched later come
    · obtain ⟨later, come⟩ :=
        (vigilant (past ++ meanwhile)).coherent.exists_end call
      obtain ⟨result, come⟩ := Option.isSome_iff_exists.mp come
      have nothing := Vigilant.result_of_gone works fresh (vigilant _)
          issuedStill gone invocation untouched later come
      refine ⟨later, ?_⟩
      rw [parts, ← nothing]
      exact come
  · intro past meanwhile call other seen stale glances touching again touchesToo
    rw [parts] at again touchesToo ⊢
    have has := ((vigilant past).hasGeneration_of_willTouch glances touching).1
    exact Vigilant.same_of_willTouch works fresh (vigilant past)
      (issued past _ _ has) glances touching again touchesToo

/-! A group is removed and another stored before it is finished as it was
seen. -/

def numbering (call turn : Nat) : Circumstances :=
  { faltering with generation := Nat.pair call turn }

def firstSeen : Group :=
  (Group.empty ⟨"all"⟩ (Nat.pair 0 3) 0).add (numbered 0) 0

def overtaken : Nat → Invocation
  | 3 => .forceComplete firstSeen
  | call => .handle (numbered call)

def gathered (schedule : List Nat) : System :=
  (System.start 0 fun call => (overtaken call).program gatherer).run
    numbering schedule

def firstAlone : List Nat := List.replicate 8 0

def othersInLine : List Nat :=
  [1, 2, 3] ++ List.replicate 12 1 ++ List.replicate 8 2

theorem overtaken_not_finished :
    ((gathered firstAlone).store.get? ⟨"all"⟩).map Group.generation =
      some (Nat.pair 0 3) ∧
    ((gathered (firstAlone ++ othersInLine)).store.get? ⟨"all"⟩).map
      Group.generation = some (Nat.pair 2 3) ∧
    ∃ later, (gathered (firstAlone ++ othersInLine ++ later)).result? 3 =
      some (.finished (.ok false)) := by
  have before : ((gathered firstAlone).store.get? ⟨"all"⟩).map
        Group.generation = some (Nat.pair 0 3) := by
    decide +kernel
  have since : ((gathered (firstAlone ++ othersInLine)).store.get? ⟨"all"⟩).map
        Group.generation = some (Nat.pair 2 3) := by
    decide +kernel
  have waits : ((gathered (firstAlone ++ othersInLine)).own 3).all
        Event.asksForLock = true := by
    decide +kernel
  have untouched : ∀ event ∈ (gathered (firstAlone ++ othersInLine)).own 3,
      ¬ event.Touches := by
    rintro event member ⟨request, answer, act, -⟩
    have asks := List.all_eq_true.mp waits event member
    simp [Event.asksForLock, act] at asks
  have fresh : ∀ call turn other again,
      (numbering call turn).generation = (numbering other again).generation →
        call = other ∧ turn = again :=
    fun _ _ _ _ same => Nat.pair_eq_pair.mp same
  obtain ⟨-, stale, -⟩ :=
    finished_once_as_seen gatherer 0 numbering overtaken (fun _ _ => rfl) fresh
  refine ⟨before, since,
    ((stale firstAlone othersInLine firstSeen ?_ ?_).2 3 rfl untouched).2⟩
  · obtain ⟨group, found, generation⟩ := Option.map_eq_some_iff.mp before
    exact ⟨group, found, generation⟩
  · rintro ⟨group, found, generation⟩
    obtain ⟨again, foundAgain, other⟩ := Option.map_eq_some_iff.mp since
    obtain rfl := Option.some.inj (found.symm.trans foundAgain)
    have different : Nat.pair 0 3 ≠ Nat.pair 2 3 := by decide
    exact different (generation.symm.trans other)

end Collate.Interleaving
