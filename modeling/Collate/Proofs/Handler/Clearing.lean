import Collate.Proofs.Handler.Tidiness
import Collate.Proofs.Sweep.Conduct

namespace Collate.Interleaving

open Sweep (Scene Company Account Exchange Round)

/-- Those around a sweep of a tidy handler: the handler, to which nobody else
turns, and subscribers that are gone. The surroundings are given for each
question of the sweep, and for each turn of the handler that is told about a
group by the question. -/
def attended (handler : Handler) (surroundings : Nat → Nat → Circumstances) :
    Company LockTable where
  circumstances turn := surroundings turn 0
  meanwhile _ scene := scene
  told turn subscriber seen scene :=
    if subscriber = System.subscriber then
      let (reaction, calm) :=
        Calm.run (surroundings turn) (handler.onExpiry seen)
          { turn := 0, store := scene.store, locks := scene.rest }
      (reaction, { store := calm.store, rest := calm.locks })
    else (.ok .unsubscribed, scene)

/-- A group that the handler was told about, with its answer and the store
before and after. -/
structure Completion where
  seen : Group
  reaction : Except Error Engine.Reaction
  found : Store
  left : Store

/-- Whether a group was finished as it was stored, if something may have failed,
and is gone. -/
structure Completion.IsDone (completion : Completion) : Prop where
  held : completion.found.get? completion.seen.key = some completion.seen
  gone : completion.left.get? completion.seen.key = none
  reacted : ∃ result : Except Error Bool, result ≠ .ok false ∧
    completion.reaction = result.map fun _ => .handled

def Completion.failure? (completion : Completion) : Option Error :=
  match completion.reaction with
  | .error error => some error
  | .ok _ => none

def completion? (exchange : Exchange LockTable) : Option Completion :=
  match exchange with
  | ⟨.notify subscriber seen, reaction, found, left⟩ =>
      if subscriber = System.subscriber then
        some { seen, reaction, found := found.store, left := left.store }
      else none
  | _ => none

def completions (account : Account LockTable) : List Completion :=
  account.exchanges.filterMap completion?

variable {handler : Handler} {surroundings : Nat → Nat → Circumstances}
  {scene : Scene LockTable} {seen group : Group}

theorem onExpiry_eq (handler : Handler) (seen : Group) :
    handler.onExpiry seen = (handler.forceComplete seen).bind fun result =>
      Program.done (result.map fun _ => .handled) := by
  refine congrArg _ (funext fun result => ?_)
  cases result <;> rfl

structure Idles (before after : Account LockTable) : Prop where
  scene : after.scene = before.scene
  completions : completions after = completions before

theorem Idles.refl (account : Account LockTable) :
    Idles account account := ⟨rfl, rfl⟩

theorem Idles.trans {before middle after : Account LockTable}
    (first : Idles before middle) (second : Idles middle after) :
    Idles before after where
  scene := second.scene.trans first.scene
  completions := second.completions.trans first.completions

theorem idles_log (handler : Handler) (surroundings : Nat → Nat → Circumstances)
    (event : Log.Event) (account : Account LockTable) :
    Idles account
      ((attended handler surroundings).answer (.log event) account).2 where
  scene := rfl
  completions := by
    unfold completions Company.answer
    rw [List.filterMap_append]
    exact List.append_nil _

theorem idles_notify (handler : Handler)
    (surroundings : Nat → Nat → Circumstances)
    {subscriber : Subscriber} (other : subscriber ≠ System.subscriber)
    (group : Group) (account : Account LockTable) :
    ((attended handler surroundings).answer (.notify subscriber group)
      account).1 = .ok .unsubscribed ∧
    Idles account ((attended handler surroundings).answer
      (.notify subscriber group) account).2 := by
  have told : (attended handler surroundings).told account.turn subscriber group
        account.scene = (.ok .unsubscribed, account.scene) := if_neg other
  refine ⟨congrArg Prod.fst told, congrArg Prod.snd told, ?_⟩
  unfold completions Company.answer
  rw [List.filterMap_append]
  simp [completion?, other]

/-- Between two moments of a sweep the handler has finished a group. -/
structure Completes (seen : Group) (before after : Account LockTable)
    (completion : Completion) : Prop where
  tidy : Tidy after.scene.store after.scene.rest
  gone : after.scene.store.get? seen.key = none
  others : ∀ name, name ≠ seen.key →
    after.scene.store.get? name = before.scene.store.get? name
  subscribers : after.scene.store.subscribers = before.scene.store.subscribers
  seen : completion.seen = seen
  isDone : completion.IsDone
  completions : completions after = completions before ++ [completion]

theorem Completes.after_idles {before middle after : Account LockTable}
    {completion : Completion} (idles : Idles before middle)
    (completes : Completes seen middle after completion) :
    Completes seen before after completion where
  tidy := completes.tidy
  gone := completes.gone
  others name different := by rw [completes.others name different, idles.scene]
  subscribers := by rw [completes.subscribers, idles.scene]
  seen := completes.seen
  isDone := completes.isDone
  completions := by rw [completes.completions, idles.completions]

theorem Completes.idles {before middle after : Account LockTable}
    {completion : Completion}
    (completes : Completes seen before middle completion)
    (idles : Idles middle after) : Completes seen before after completion where
  tidy := by
    rw [idles.scene]
    exact completes.tidy
  gone := by rw [idles.scene, completes.gone]
  others name different := by rw [idles.scene, completes.others name different]
  subscribers := by rw [idles.scene, completes.subscribers]
  seen := completes.seen
  isDone := completes.isDone
  completions := by rw [idles.completions, completes.completions]

section Working

variable (works : ∀ turn inner, (surroundings turn inner).fault = none)

include works

theorem completes_notify (handler : Handler) {account : Account LockTable}
    (tidy : Tidy account.scene.store account.scene.rest)
    (held : account.scene.store.get? seen.key = some seen) :
    ∃ completion, completion.reaction = ((attended handler surroundings).answer
      (.notify System.subscriber seen) account).1 ∧
      Completes seen account ((attended handler surroundings).answer
        (.notify System.subscriber seen) account).2
        completion := by
  set calm : Calm := ⟨0, account.scene.store, account.scene.rest⟩ with calm_eq
  have tidyCalm : Tidy calm.store calm.locks := tidy
  have heldCalm : calm.store.get? seen.key = some seen := held
  obtain ⟨tidyAfter, spares⟩ :=
    tidyCalm.forceComplete (works account.turn) handler seen
  have gone :=
    forceComplete_removes (works account.turn) handler tidyCalm heldCalm
  have found :=
    forceComplete_not_missed (works account.turn) handler tidyCalm heldCalm
  set finished :=
    Calm.run (surroundings account.turn) (handler.forceComplete seen) calm
  have ran : Calm.run (surroundings account.turn) (handler.onExpiry seen) calm =
      (finished.1.map fun _ => .handled, finished.2) := by
    rw [onExpiry_eq, Calm.run_bind, Calm.run_done]
  have answered : (attended handler surroundings).answer
      (.notify System.subscriber seen) account =
      (finished.1.map fun _ => .handled,
        { turn := account.turn + 1
          scene := ⟨finished.2.store, finished.2.locks⟩
          exchanges := account.exchanges ++ [⟨.notify System.subscriber seen,
            finished.1.map fun _ => .handled, account.scene,
            ⟨finished.2.store, finished.2.locks⟩⟩] }) := by
    simp only [Company.answer, Company.reply, attended, if_true, ← calm_eq, ran]
  rw [answered]
  refine ⟨⟨seen, finished.1.map fun _ => .handled, account.scene.store,
    finished.2.store⟩, rfl, ?_⟩
  refine ⟨tidyAfter, gone, spares.stored, spares.subscribers, rfl,
    ⟨held, gone, finished.1, found, rfl⟩, ?_⟩
  unfold completions
  rw [List.filterMap_append]
  rfl

omit works in
theorem offer_append (group : Group) (round : Round)
    (first second : List Subscriber) :
    Sweep.offer group round (first ++ second) = (Sweep.offer group round
      first).bind fun round => Sweep.offer group round second := by
  induction first generalizing round with
  | nil => rfl
  | cons subscriber rest induction =>
      rw [List.cons_append, Sweep.offer_cons, Sweep.offer_cons,
        Program.bind_assoc]
      refine congrArg _ (funext fun reaction => ?_)
      match reaction with
      | .ok .handled => exact induction _
      | .ok .unsubscribed =>
          rw [Program.bind_assoc]
          exact congrArg _ (funext fun _ => induction _)
      | .error error =>
          rw [Program.bind_assoc]
          exact congrArg _ (funext fun _ => induction _)

omit works in
theorem run_offer_gone (handler : Handler)
    (surroundings : Nat → Nat → Circumstances)
    {subscribers : List Subscriber} (absent : System.subscriber ∉ subscribers)
    (group : Group) (round : Round) (account : Account LockTable) :
    ∃ after, (attended handler surroundings).run (Sweep.offer group round
      subscribers) account = ({ round with gone := round.gone ++ subscribers },
        after) ∧ Idles account after := by
  induction subscribers generalizing round account with
  | nil =>
      refine ⟨account, ?_, .refl account⟩
      rw [List.append_nil]
      rfl
  | cons subscriber rest induction =>
      obtain ⟨other, absentLater⟩ := not_or.mp (mt List.mem_cons.mpr absent)
      obtain ⟨reaction, idles⟩ :=
        idles_notify handler surroundings (Ne.symm other) group account
      rw [Sweep.offer_cons, Company.run_bind, Company.run_ask, reaction]
      set informed := ((attended handler surroundings).answer
          (.notify subscriber group) account).2
      have logs :=
        idles_log handler surroundings (.subscriberGone group.key) informed
      obtain ⟨after, ran, later⟩ :=
        induction absentLater (round.unsubscribed subscriber) _
      refine ⟨after, ran.trans ?_, idles.trans (logs.trans later)⟩
      rw [Round.unsubscribed, List.append_assoc]
      rfl

theorem run_offer_attended (handler : Handler) {first last : List Subscriber}
    (absent : System.subscriber ∉ first ++ last) (round : Round)
    {account : Account LockTable}
    (tidy : Tidy account.scene.store account.scene.rest)
    (held : account.scene.store.get? seen.key = some seen) :
    ∃ after completion, Completes seen account after completion ∧
      (attended handler surroundings).run
          (Sweep.offer seen round (first ++ System.subscriber :: last))
          account =
        ({ listening := round.listening ++ [System.subscriber]
           gone := round.gone ++ first ++ last
           failure := round.failure.or completion.failure?
           isHandled := true }, after) := by
  obtain ⟨absentFirst, absentLast⟩ := not_or.mp (mt List.mem_append.mpr absent)
  obtain ⟨middle, ranFirst, idlesFirst⟩ :=
    run_offer_gone handler surroundings absentFirst seen round account
  rw [← idlesFirst.scene] at tidy held
  obtain ⟨completion, reaction, completes⟩ :=
    completes_notify works handler tidy held
  rw [offer_append, Company.run_bind, ranFirst, Sweep.offer_cons,
    Company.run_bind, Company.run_ask, ← reaction]
  obtain ⟨result, -, reacted⟩ := completes.isDone.reacted
  set told := ((attended handler surroundings).answer
      (.notify System.subscriber seen) middle).2
  cases result with
  | ok completed =>
      obtain ⟨after, ranLast, idlesLast⟩ :=
        run_offer_gone handler surroundings absentLast seen (({ round with
          gone := round.gone ++ first } : Round).handled System.subscriber) told
      have none : completion.failure? = none := by
        rw [Completion.failure?, reacted]
        rfl
      rw [reacted]
      refine ⟨after, completion,
        (completes.idles idlesLast).after_idles idlesFirst, ranLast.trans ?_⟩
      rw [none, Option.or_none]
      rfl
  | error error =>
      have logs :=
        idles_log handler surroundings (.subscriberFailed seen.key error) told
      obtain ⟨after, ranLast, idlesLast⟩ :=
        run_offer_gone handler surroundings absentLast
          seen (({ round with gone := round.gone ++ first } : Round).failed
            System.subscriber error) ((attended handler surroundings).answer
              (.log (.subscriberFailed seen.key error)) told).2
      have failed : completion.failure? = some error := by
        rw [Completion.failure?, reacted]
        rfl
      rw [reacted]
      refine ⟨after, completion,
        (completes.idles (logs.trans idlesLast)).after_idles idlesFirst,
        ranLast.trans ?_⟩
      rw [failed]
      cases round.failure <;> simp [Round.failed]

omit works in
structure Clears (groups : List Group) (before after : Account LockTable)
    (done : List Completion) : Prop where
  tidy : Tidy after.scene.store after.scene.rest
  stored : ∀ key, after.scene.store.get? key =
    if key ∈ groups.map Group.key then none else before.scene.store.get? key
  subscribers : after.scene.store.subscribers = before.scene.store.subscribers
  seen : done.map Completion.seen = groups
  isDone : ∀ completion ∈ done, completion.IsDone
  completions : completions after = completions before ++ done

omit works in
theorem Completes.clears {rest : List Group}
    {before middle after : Account LockTable}
    {completion : Completion} {done : List Completion}
    (completes : Completes seen before middle completion)
    (clears : Clears rest middle after done) :
    Clears (seen :: rest) before after (completion :: done) where
  tidy := clears.tidy
  stored key := by
    simp only [clears.stored, List.map_cons, List.mem_cons]
    by_cases same : key = seen.key
    · subst same
      simp [completes.gone]
    · simp [same, completes.others key same]
  subscribers := clears.subscribers.trans completes.subscribers
  seen := by rw [List.map_cons, completes.seen, clears.seen]
  isDone := List.forall_mem_cons.mpr ⟨completes.isDone, clears.isDone⟩
  completions := by
    rw [clears.completions, completes.completions, List.append_assoc]
    rfl

theorem run_offerAll_attended (handler : Handler) (first last : List Subscriber)
    (absent : System.subscriber ∉ first ++ last) {groups : List Group}
    (once : (groups.map Group.key).Nodup) (gone : List Subscriber)
    (failure : Option Error) {account : Account LockTable}
    (tidy : Tidy account.scene.store account.scene.rest)
    (held : ∀ group ∈ groups, account.scene.store.get? group.key = some group) :
    ∃ after done sweep, Clears groups account after done ∧
      sweep.failure = failure.or (done.findSome? Completion.failure?) ∧
      (System.subscriber ∉ gone → System.subscriber ∉ sweep.gone) ∧
      (attended handler surroundings).run (Sweep.offerAll
        ⟨first ++ System.subscriber :: last, gone, failure⟩ groups) account =
      (sweep, after) := by
  induction groups generalizing first last gone failure account with
  | nil =>
      refine ⟨account, [], _, ⟨tidy, ?_, rfl, rfl, ?_, ?_⟩, ?_, id, rfl⟩
      · simp
      · simp
      · exact (List.append_nil _).symm
      · exact Option.or_none.symm
  | cons group rest induction =>
      obtain ⟨different, onceLater⟩ := List.nodup_cons.mp once
      obtain ⟨heldFirst, heldLater⟩ := List.forall_mem_cons.mp held
      have logs := idles_log handler surroundings (.expiring group) account
      rw [← logs.scene] at tidy heldFirst
      obtain ⟨middle, completion, completes, offered⟩ :=
        run_offer_attended works handler absent (.start
          ⟨first ++ System.subscriber :: last, gone, failure⟩) tidy heldFirst
      have heldStill : ∀ other ∈ rest,
          middle.scene.store.get? other.key = some other := by
        intro other member
        have apart : other.key ≠ group.key := fun same =>
          different (same ▸ List.mem_map_of_mem member)
        rw [completes.others other.key apart, logs.scene]
        exact heldLater other member
      obtain ⟨after, done, sweep, clears, failed, stays, ran⟩ :=
        induction [] [] (by simp) onceLater (gone ++ first ++ last)
          (failure.or completion.failure?) completes.tidy heldStill
      refine ⟨after, completion :: done, sweep, (completes.after_idles
        logs).clears clears, ?_, fun present => stays ?_, ?_⟩
      · rw [failed, Option.or_assoc, List.findSome?_cons]
        cases completion.failure? <;> rfl
      · rw [List.append_assoc, List.mem_append]
        exact not_or.mpr ⟨present, absent⟩
      · have told : (attended handler surroundings).run (Sweep.offer group _ _)
              ((attended handler surroundings).run (Call.log (.expiring group))
                account).2 = _ := offered
        rw [Sweep.offerAll_cons, Company.run_bind, Company.run_bind,
          Company.run_bind, told]
        exact ran

end Working

theorem get?_of_survey {store : Store} (sound : store.Sound) {now : Int}
    {timeout : Nat}
    {order : List Group} (perm : order.Perm (store.overdue now timeout)) :
    (order.map Group.key).Nodup ∧
    ∀ group ∈ order, store.get? group.key = some group := by
  have keys : (store.groups.map Prod.snd).map Group.key =
        store.groups.map Prod.fst := by
    rw [List.map_map]
    exact List.map_congr_left
      fun entry member => (sound.proper entry member).sameKey
  constructor
  · rw [(perm.map Group.key).nodup_iff]
    refine List.Nodup.sublist (List.filter_sublist.map Group.key) ?_
    rw [keys]
    exact sound.distinct
  · intro group member
    obtain ⟨⟨key, held⟩, stored, rfl⟩ :=
      List.mem_map.mp (List.mem_filter.mp (perm.mem_iff.mp member)).1
    rw [(sound.proper _ stored).sameKey]
    exact sound.get?_of_mem stored

theorem isOverdue_iff {now : Int} {timeout : Nat} {group : Group} :
    Store.isOverdue now timeout group = true ↔
    (timeout : Int) ≤ group.age now := by
  simp only [Store.isOverdue, Bool.and_eq_true, decide_eq_true_eq]
  omega

theorem filter_of_survey {store : Store} (sound : store.Sound) {now : Int}
    {timeout : Nat} {order : List Group}
    (perm : order.Perm (store.overdue now timeout)) (key : Key) :
    (if key ∈ order.map Group.key then none else store.get? key) =
      (store.get? key).filter fun group => group.age now < (timeout : Int) := by
  obtain ⟨-, held⟩ := get?_of_survey sound perm
  cases found : store.get? key with
  | none => simp
  | some group =>
      have sameKey := (sound.proper_of_get? found).sameKey
      have overdue : key ∈ order.map Group.key ↔
          (timeout : Int) ≤ group.age now := by
        rw [← isOverdue_iff, List.mem_map]
        constructor
        · rintro ⟨other, member, rfl⟩
          obtain rfl := Option.some.inj ((held other member).symm.trans found)
          exact (List.mem_filter.mp (perm.mem_iff.mp member)).2
        · intro late
          refine ⟨group, perm.mem_iff.mpr (List.mem_filter.mpr ⟨?_, late⟩),
            sameKey⟩
          exact List.mem_map_of_mem (Assoc.mem_of_get? found)
      by_cases late : (timeout : Int) ≤ group.age now
      · rw [if_pos (overdue.mpr late)]
        simp [Option.filter, late]
      · rw [if_neg (mt overdue.mp late)]
        simp [Option.filter, not_le.mp late]

def IsAttended (store : Store) : Prop :=
  ∃ first last, System.subscriber ∉ first ++ last ∧
    store.subscribers = first ++ System.subscriber :: last

structure Cleared (scene : Scene LockTable) (now : Int) (timeout : Nat)
    (result : Except Error Nat) (account : Account LockTable) : Prop where
  tidy : Tidy account.scene.store account.scene.rest
  attended : IsAttended account.scene.store
  stored : ∀ key, account.scene.store.get? key =
    (scene.store.get? key).filter fun group => group.age now < (timeout : Int)
  seen : ((completions account).map Completion.seen).Perm
      (scene.store.overdue now timeout)
  isDone : ∀ completion ∈ completions account, completion.IsDone
  result :
    result = match (completions account).findSome? Completion.failure? with
    | some error => .error error
    | none => .ok (scene.store.overdue now timeout).length

theorem Cleared.of_completions {now : Int} {timeout : Nat}
    {result : Except Error Nat} {account : Account LockTable}
    {done : List Completion} (told : completions account = done)
    (tidy : Tidy account.scene.store account.scene.rest)
    (attended : IsAttended account.scene.store)
    (stored : ∀ key, account.scene.store.get? key = (scene.store.get?
      key).filter fun group => group.age now < (timeout : Int))
    (seen : (done.map Completion.seen).Perm (scene.store.overdue now timeout))
    (isDone : ∀ completion ∈ done, completion.IsDone)
    (result_eq : result = match done.findSome? Completion.failure? with
      | some error => .error error
      | none => .ok (scene.store.overdue now timeout).length) :
    Cleared scene now timeout result account := by
  subst told
  exact ⟨tidy, attended, stored, seen, isDone, result_eq⟩

theorem run_drop (handler : Handler) (surroundings : Nat → Nat → Circumstances)
    (gone : List Subscriber) (account : Account LockTable) :
    let dropped := ((attended handler surroundings).run
        (if gone.isEmpty then Program.done () else Call.ask (.unsubscribe gone))
        account).2
    dropped.scene =
      { account.scene with store := account.scene.store.unsubscribe gone } ∧
      completions dropped = completions account := by
  cases gone with
  | nil =>
      refine ⟨?_, rfl⟩
      simp [Store.unsubscribe, Company.run_done]
  | cons subscriber rest =>
      refine ⟨rfl, ?_⟩
      show completions ((attended handler surroundings).answer _ account).2 = _
      unfold completions Company.answer
      rw [List.filterMap_append]
      exact List.append_nil _

theorem IsAttended.of_subscribers {before after : Store}
    (attended : IsAttended before)
    (same : after.subscribers = before.subscribers) : IsAttended after := by
  obtain ⟨first, last, absent, subscribers⟩ := attended
  exact ⟨first, last, absent, same.trans subscribers⟩

theorem IsAttended.unsubscribe {store : Store} (attended : IsAttended store)
    {gone : List Subscriber} (stays : System.subscriber ∉ gone) :
    IsAttended (store.unsubscribe gone) := by
  obtain ⟨first, last, absent, subscribers⟩ := attended
  obtain ⟨absentFirst, absentLast⟩ := not_or.mp (mt List.mem_append.mpr absent)
  refine ⟨first.filter fun subscriber => !gone.contains subscriber,
    last.filter fun subscriber => !gone.contains subscriber, ?_, ?_⟩
  · rw [List.mem_append]
    exact not_or.mpr ⟨mt List.mem_of_mem_filter absentFirst,
      mt List.mem_of_mem_filter absentLast⟩
  · rw [Store.unsubscribe, subscribers, List.filter_append,
      List.filter_cons_of_pos]
    simpa using stays

theorem Tidy.of_subscribers {store : Store} {locks : LockTable}
    (tidy : Tidy store locks) (subscribers : List Subscriber) :
    Tidy { store with subscribers } locks where
  sound := tidy.sound
  unclaimed := tidy.unclaimed
  proper := ⟨tidy.proper.distinct, tidy.proper.proper, tidy.proper.counted,
    tidy.proper.bounded⟩
  agrees := tidy.agrees

theorem attended_sweep
    (works : ∀ turn inner, (surroundings turn inner).fault = none)
    (handler : Handler)
    (first last : List Subscriber) (absent : System.subscriber ∉ first ++ last)
    (tidy : Tidy scene.store scene.rest)
    (listens : scene.store.subscribers = first ++ System.subscriber :: last)
    (timeout : Nat) :
    Cleared scene (surroundings 0 0).time
      timeout ((attended handler surroundings).sweep timeout scene).1
      ((attended handler surroundings).sweep timeout scene).2 := by
  have perm : (((attended handler surroundings).answer (.survey timeout)
      (.start scene)).1.groups).Perm
        (scene.store.overdue (surroundings 0 0).time timeout) :=
    List.mergeSort_perm _ _
  have listed : ((attended handler surroundings).answer (.survey timeout)
      (.start scene)).1.subscribers = first ++ System.subscriber :: last :=
    listens
  have begun : ((attended handler surroundings).answer (.survey timeout)
    (.start scene)).2.scene =
      scene := rfl
  have untold : completions ((attended handler surroundings).answer
      (.survey timeout) (.start scene)).2 = [] := rfl
  rw [Company.sweep, Sweep.run_eq, Company.run_bind, Company.run_ask]
  generalize (attended handler surroundings).answer (.survey timeout)
    (.start scene) = surveyed at perm listed begun untold ⊢
  obtain ⟨⟨order, subscribers⟩, account⟩ := surveyed
  obtain rfl : subscribers = first ++ System.subscriber :: last := listed
  obtain ⟨once, held⟩ := get?_of_survey tidy.proper perm
  rw [← begun] at tidy held listens
  have attended : IsAttended account.scene.store :=
    ⟨first, last, absent, listens⟩
  cases empty : order.isEmpty with
  | true =>
      obtain rfl := List.isEmpty_iff.mp empty
      rw [if_pos rfl, Company.run_done]
      refine .of_completions untold tidy attended (fun key => ?_)
        perm (by simp) ?_
      · rw [← filter_of_survey (begun ▸ tidy).proper perm, ← begun]
        rfl
      · rw [List.nil_perm.mp perm]
        rfl
  | false =>
      obtain ⟨after, done, sweep, clears, failed, stays, ran⟩ :=
        run_offerAll_attended works handler first last absent once
          [] none tidy held
      rw [if_neg Bool.false_ne_true, Company.run_bind, Company.run_bind, ran,
        Company.run_done]
      obtain ⟨dropped, same⟩ := run_drop handler surroundings sweep.gone after
      have told :=
        same.trans (clears.completions.trans (by rw [untold, List.nil_append]))
      refine .of_completions told ?_ ?_ (fun key => ?_) ?_ clears.isDone ?_
      · rw [dropped]
        exact clears.tidy.of_subscribers _
      · rw [dropped]
        exact (attended.of_subscribers clears.subscribers).unsubscribe
          (stays (by simp))
      · rw [dropped, ← filter_of_survey (begun ▸ tidy).proper perm]
        refine (clears.stored key).trans ?_
        rw [begun]
      · rw [clears.seen]
        exact perm
      · rw [failed, Option.none_or]
        cases done.findSome? Completion.failure? with
        | some error => rfl
        | none => exact congrArg Except.ok perm.length_eq

theorem perm_filter_of_get? {before after : Store} (sound : before.Sound)
    (soundAfter : after.Sound) {keeps : Group → Bool}
    (kept : ∀ key, after.get? key = (before.get? key).filter keeps) :
    after.groups.Perm (before.groups.filter fun entry => keeps entry.2) := by
  have nodup : ∀ {store : Store}, store.Sound → store.groups.Nodup :=
    fun sound =>
      List.Nodup.of_map Prod.fst sound.distinct
  apply (List.perm_ext_iff_of_nodup (nodup soundAfter)
    ((nodup sound).filter _)).mpr
  rintro ⟨key, group⟩
  have member_iff : ∀ {store : Store}, store.Sound →
      ((key, group) ∈ store.groups ↔ store.get? key = some group) :=
    fun sound =>
      ⟨sound.get?_of_mem, Assoc.mem_of_get?⟩
  rw [List.mem_filter, member_iff soundAfter, member_iff sound, kept,
    Option.filter_eq_some_iff]

theorem messageCount_add_of_get? {before after : Store} (sound : before.Sound)
    (soundAfter : after.Sound) {keeps : Group → Bool}
    (kept : ∀ key, after.get? key = (before.get? key).filter keeps) :
    after.messageCount + (((before.groups.map Prod.snd).filter
      fun group => !keeps group).map Group.size).sum =
      before.messageCount := by
  have split := List.filter_append_perm
      (fun entry : Key × Group => keeps entry.2) before.groups
  have left := perm_filter_of_get? sound soundAfter kept
  rw [soundAfter.counted, sound.counted, Store.held, Store.held,
    (left.map fun entry => entry.2.size).sum_eq,
    ← (split.map fun entry => entry.2.size).sum_eq, List.map_append,
    List.sum_append, List.filter_map, List.map_map]
  rfl

/-- A sweep at a time when no call is busy leaves the groups that have not lived
for the timeout, and no others. The messages of the overdue groups are counted
no longer, every key has an entry in the lock table if it has a group, and only
then, and each overdue group has been finished once. The answer is the first
failure, or the number of overdue groups. -/
theorem sweep_leaves_younger (handler : Handler) (capacity : Nat)
    (environment : Environment) (calls : Nat → Invocation)
    (works : ∀ call turn, (environment call turn).fault = none)
    (schedule : List Nat)
    (first last : List Subscriber) (absent : System.subscriber ∉ first ++ last)
    (surroundings : Nat → Nat → Circumstances)
    (worksToo : ∀ turn inner, (surroundings turn inner).fault = none)
    (timeout : Nat) :
    let system :=
      (System.start capacity fun call => (calls call).program handler).run
        environment schedule
    let store :=
      { system.store with subscribers := first ++ System.subscriber :: last }
    let now := (surroundings 0 0).time
    let overdue := (store.groups.map Prod.snd).filter
        fun group => (timeout : Int) ≤ group.age now
    let swept :=
      (attended handler surroundings).sweep timeout ⟨store, system.locks⟩
    (∀ call, (system.phase call).ticket? = none) →
      swept.2.scene.store.groups.Perm (store.groups.filter
        fun entry => entry.2.age now < (timeout : Int)) ∧
      swept.2.scene.store.messageCount +
        (overdue.map Group.size).sum = store.messageCount ∧
      (∀ key, swept.2.scene.rest.contains key =
        (swept.2.scene.store.get? key).isSome) ∧
      ((completions swept.2).map Completion.seen).Perm overdue ∧
      (∀ completion ∈ completions swept.2, completion.IsDone) ∧
      swept.1 = match (completions swept.2).findSome? Completion.failure? with
          | some error => .error error
          | none => .ok overdue.length := by
  intro system store now overdue swept free
  have tidy : Tidy store system.locks :=
    (tidy_run handler capacity environment calls works schedule
      free).of_subscribers _
  have cleared : Cleared ⟨store, system.locks⟩ now timeout swept.1 swept.2 :=
    attended_sweep worksToo handler first last absent tidy rfl timeout
  have late : store.overdue now timeout = overdue :=
    List.filter_congr fun group _ => by
      rw [Bool.eq_iff_iff, isOverdue_iff, decide_eq_true_eq]
  have rest : ∀ group : Group, (!decide (group.age now < (timeout : Int))) =
      decide ((timeout : Int) ≤ group.age now) := fun group => by
    rw [← decide_not, decide_eq_decide, not_lt]
  refine ⟨?_, ?_, cleared.tidy.agrees, ?_, cleared.isDone, ?_⟩
  · exact perm_filter_of_get? tidy.proper cleared.tidy.proper cleared.stored
  · have counted :=
      messageCount_add_of_get? tidy.proper cleared.tidy.proper cleared.stored
    simp only [rest] at counted
    exact counted
  · rw [← late]
    exact cleared.seen
  · rw [← late]
    exact cleared.result

/-! Two groups of different ages. The older is finished, though nobody takes
what is discarded, and only the younger is left. -/

def byName : Handler :=
  { gatherer with correlation := fun message => some ⟨message.id.text⟩ }

def laterEach (call _ : Nat) : Circumstances :=
  { faltering with time := 50 * call }

def shut (_ _ : Nat) : Circumstances :=
  { faltering with
    time := 100, deliver := fun _ _ => .error (.internal "shut") }

def oneAfterOther : List Nat := List.replicate 8 0 ++ List.replicate 8 1

def aged : System :=
  (System.start 0 fun call => (crowding call).program byName).run
    laterEach oneAfterOther

def agedSwept : Except Error Nat × Account LockTable :=
  (attended byName shut).sweep 80 ⟨{ aged.store with
    subscribers := [⟨1⟩] ++ System.subscriber :: [⟨2⟩] }, aged.locks⟩

theorem aged_leaves_younger :
    aged.store.groups.map (fun entry => entry.2.createdAt) = [0, 50] ∧
      agedSwept.1.toOption = none ∧
      agedSwept.2.scene.store.groups.Perm
        (aged.store.groups.filter fun entry => entry.2.age 100 < 80) := by
  refine ⟨rfl, by decide +kernel, ?_⟩
  refine (sweep_leaves_younger byName 0 laterEach crowding (fun _ _ => rfl)
    oneAfterOther [⟨1⟩] [⟨2⟩] (by decide) shut (fun _ _ => rfl) 80 ?_).1
  intro call
  match call with
  | 0 => rfl
  | 1 => rfl
  | call + 2 =>
      have absent : call + 2 ∉ oneAfterOther := by simp [oneAfterOther]
      rw [System.phase_run_of_not_mem absent]
      rfl

end Collate.Interleaving
