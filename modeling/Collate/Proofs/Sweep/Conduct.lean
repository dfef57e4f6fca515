import Collate.Proofs.Sweep.Company

namespace Collate

namespace Store

theorem groups_remove (store : Store) (key : Key) :
    (store.remove key).groups = Assoc.erase key store.groups := by
  unfold remove
  cases found : store.get? key with
  | none =>
      exact (Assoc.erase_of_not_mem (Assoc.get?_eq_none_iff.mp found)).symm
  | some group => rfl

theorem get?_remove_self (store : Store) (key : Key) :
    (store.remove key).get? key = none := by
  rw [get?, groups_remove, Assoc.get?_erase_self]

theorem get?_remove_of_ne (store : Store) {key name : Key}
    (different : name ≠ key) :
    (store.remove key).get? name = store.get? name := by
  rw [get?, groups_remove, Assoc.get?_erase_of_ne different, get?]

theorem get?_removeUnchanged (store : Store) (group : Group) (key : Key) :
    (store.removeUnchanged group).get? key =
      if key = group.key ∧
        ∃ stored, store.get? key = some stored ∧
          stored.generation = group.generation then none
      else store.get? key := by
  unfold removeUnchanged
  by_cases same : key = group.key
  · subst same
    cases found : store.get? group.key with
    | none => simp [found]
    | some stored =>
        by_cases unchanged : stored.generation = group.generation
        · simp [unchanged, get?_remove_self]
        · simp [unchanged, found]
  · cases found : store.get? group.key with
    | none => simp [same]
    | some stored =>
        by_cases unchanged : stored.generation = group.generation
        · simp [same, unchanged, get?_remove_of_ne store same]
        · simp [same, unchanged]

theorem subscribers_removeUnchanged (store : Store) (group : Group) :
    (store.removeUnchanged group).subscribers = store.subscribers := by
  unfold removeUnchanged remove
  split
  · split
    · split <;> rfl
    · rfl
  · rfl

end Store

namespace Sweep

variable {Rest : Type} {company : Company Rest}

/-- What a sweep itself changes: it removes a group that has stayed what it was,
it drops subscribers, and it changes nothing else. What a subscriber changes who
is told about a group is not its doing. -/
def Exchange.IsOwn (exchange : Exchange Rest) : Prop :=
  match exchange.request with
  | .notify _ _ => True
  | .survey _ => exchange.left = exchange.found
  | .log _ => exchange.left = exchange.found
  | .removeUnchanged group =>
      exchange.left.rest = exchange.found.rest ∧
        exchange.left.store.subscribers = exchange.found.store.subscribers ∧
        ∀ key, exchange.left.store.get? key =
          if key = group.key ∧
            ∃ stored, exchange.found.store.get? key = some stored ∧
              stored.generation = group.generation then none
          else exchange.found.store.get? key
  | .unsubscribe gone =>
      exchange.left =
        { exchange.found with
          store :=
            { exchange.found.store with
              subscribers :=
                exchange.found.store.subscribers.filter fun subscriber =>
                  subscriber ∉ gone } }
  | _ => False

/-- What a sweep has done among its company, when it has offered groups and been
given replies. -/
structure Conduct (company : Company Rest) (timeout : Nat) (scene : Scene Rest)
    (offerings : List Offering) (result : Except Error Nat)
    (account : Account Rest) : Prop where
  overdue : (offerings.map Offering.group).Perm
    (((company.meanwhile 0 scene).store.groups.map Prod.snd).filter fun group =>
      0 ≤ group.age (company.circumstances 0).time ∧
        (timeout : Int) ≤ group.age (company.circumstances 0).time)
  /-- Each of them goes to those of the first subscribers who have not said that
  they are gone. -/
  offered :
    Offered (company.meanwhile 0 scene).store.subscribers.zipIdx offerings
  goesOn : company.Follows 0 scene account.exchanges account.scene
  deeds : deeds account.exchanges = ⟨.survey timeout, ⟨offerings.map
    Offering.group, (company.meanwhile 0 scene).store.subscribers⟩⟩ ::
    (offerings.flatMap Offering.deeds ++ farewell offerings)
  own : ∀ exchange ∈ account.exchanges, exchange.IsOwn
  dropped : leavers offerings ≠ [] → ∃ earlier last, account.exchanges =
    earlier ++ [last] ∧
    last.request = .unsubscribe (leavers offerings) ∧ account.scene = last.left
  result : result = match (failures offerings).head? with
    | some error => .error error
    | none => .ok offerings.length

def IsSweeping : Engine.Request → Prop
  | .survey _ => True
  | .notify _ _ => True
  | .removeUnchanged _ => True
  | .unsubscribe _ => True
  | .log _ => True
  | _ => False

theorem isOwn_of_reply {turn : Nat} {exchange : Exchange Rest}
    (sweeping : IsSweeping exchange.request)
    (replied : (exchange.answer, exchange.left) =
      company.reply turn exchange.found exchange.request) : exchange.IsOwn := by
  obtain ⟨request, answer, found, left⟩ := exchange
  have left_eq : left = (company.reply turn found request).2 :=
    congrArg Prod.snd replied
  subst left_eq
  cases request with
  | survey => exact rfl
  | log => exact rfl
  | notify => trivial
  | removeUnchanged group =>
      exact ⟨rfl, found.store.subscribers_removeUnchanged group,
        found.store.get?_removeUnchanged group⟩
  | unsubscribe gone =>
      simp [Exchange.IsOwn, Company.reply, Interleaving.Circumstances.answer,
        Store.unsubscribe]
  | _ => exact sweeping.elim

theorem isOwn_of_follows {turn : Nat} {scene last : Scene Rest}
    {exchanges : List (Exchange Rest)}
    (follows : company.Follows turn scene exchanges last)
    (sweeping : ∀ exchange ∈ exchanges, IsSweeping exchange.request) :
    ∀ exchange ∈ exchanges, exchange.IsOwn := by
  induction exchanges generalizing turn scene with
  | nil => simp
  | cons first rest induction =>
      obtain ⟨-, replied, later⟩ := follows
      obtain ⟨own, others⟩ := List.forall_mem_cons.mp sweeping
      exact List.forall_mem_cons.mpr ⟨isOwn_of_reply own replied,
        induction later others⟩

theorem sweeping_of_deeds {exchanges : List (Exchange Rest)}
    (among : ∀ deed ∈ deeds exchanges, IsSweeping deed.1) :
    ∀ exchange ∈ exchanges, IsSweeping exchange.request := by
  intro exchange member
  obtain ⟨request, answer, found, left⟩ := exchange
  have answered : ∀ deed ∈ Deed.ofAnswer request answer, IsSweeping deed.1 :=
    fun deed done =>
      among deed (List.mem_flatMap.mpr ⟨_, member, done⟩)
  cases request with
  | log => trivial
  | _ => exact answered _ List.mem_cons_self

theorem sweeping_of_offerings {offerings : List Offering} :
    ∀ deed ∈ offerings.flatMap Offering.deeds ++ farewell offerings,
      IsSweeping deed.1 := by
  intro deed member
  rcases List.mem_append.mp member with offered | last
  · obtain ⟨offering, -, done⟩ := List.mem_flatMap.mp offered
    rcases List.mem_append.mp done with told | removed
    · obtain ⟨reply, -, rfl⟩ := List.mem_map.mp told
      trivial
    · split at removed
      · simp at removed
      · rw [List.mem_singleton.mp removed]
        trivial
  · unfold farewell at last
    split at last
    · simp at last
    · rw [List.mem_singleton.mp last]
      trivial

theorem run_eq (timeout : Nat) :
    Sweep.run timeout = (Call.ask (.survey timeout)).bind fun survey =>
      if survey.groups.isEmpty then Program.done (.ok 0)
      else (offerAll ⟨survey.subscribers, [], none⟩ survey.groups).bind
        fun sweep =>
          (if sweep.gone.isEmpty then Program.done ()
            else Call.ask (.unsubscribe sweep.gone)).bind
            fun _ => Program.done (match sweep.failure with
              | some error => .error error
              | none => .ok survey.groups.length) := by
  unfold Sweep.run
  refine congrArg _ (funext fun survey => ?_)
  split
  · rfl
  · refine congrArg _ (funext fun sweep => ?_)
    cases sweep.gone.isEmpty <;> cases sweep.failure <;> rfl

theorem nodup_zipIdx (subscribers : List Subscriber) :
    subscribers.zipIdx.Nodup := by
  apply List.Nodup.of_map Prod.snd
  rw [List.zipIdx_map_snd]
  exact List.nodup_range'

theorem Company.continues_farewell (company : Company Rest)
    (offerings : List Offering) (account : Account Rest) :
    company.Continues account
      (company.run (if (leavers offerings).isEmpty then Program.done ()
      else Call.ask (.unsubscribe (leavers offerings))) account).2
        (farewell offerings) := by
  unfold farewell
  cases (leavers offerings).isEmpty with
  | true => exact .refl account
  | false =>
      exact company.continues_answer (.unsubscribe (leavers offerings)) account

theorem sweep_continues (company : Company Rest) (timeout : Nat)
    (scene : Scene Rest) {survey : Engine.Survey}
    (surveyed : (company.answer (.survey timeout) (.start scene)).1 = survey) :
    ∃ offerings : List Offering, offerings.map Offering.group = survey.groups ∧
      Offered survey.subscribers.zipIdx offerings ∧
      company.Continues (.start scene)
        (company.sweep timeout scene).2 (⟨.survey timeout, survey⟩ ::
          (offerings.flatMap Offering.deeds ++ farewell offerings)) ∧
      (leavers offerings ≠ [] → ∃ earlier last,
        (company.sweep timeout scene).2.exchanges = earlier ++ [last] ∧
          last.request = .unsubscribe (leavers offerings) ∧
          (company.sweep timeout scene).2.scene = last.left) ∧
      (company.sweep timeout scene).1 = match (failures offerings).head? with
        | some error => .error error
        | none => .ok offerings.length := by
  have asked := company.continues_answer (.survey timeout) (.start scene)
  rw [Company.sweep, run_eq, Company.run_bind, Company.run_ask]
  generalize company.answer (.survey timeout) (.start scene) = answered
    at surveyed asked ⊢
  obtain ⟨given, first⟩ := answered
  obtain rfl : given = survey := surveyed
  cases empty : given.groups.isEmpty with
  | true =>
      rw [if_pos rfl]
      refine ⟨[], (List.isEmpty_iff.mp empty).symm,
        offered_nil _, asked, ?_, rfl⟩
      exact fun someone => absurd rfl someone
  | false =>
      rw [if_neg Bool.false_ne_true, Company.run_bind, Company.run_bind]
      obtain ⟨offerings, groups, offered, gone, failure, continues⟩ :=
        company.run_offerAll (nodup_zipIdx given.subscribers) given.groups
          ⟨given.subscribers, [], none⟩ (List.zipIdx_map_fst 0 _).symm first
      generalize company.run (offerAll ⟨given.subscribers, [], none⟩
        given.groups) first = swept at gone failure continues ⊢
      obtain ⟨⟨listening, departed, error?⟩, middle⟩ := swept
      obtain rfl : departed = leavers offerings := gone
      obtain rfl : error? = (failures offerings).head? := failure
      have last := company.continues_farewell offerings middle
      refine ⟨offerings, groups, offered, asked.trans (continues.trans last),
        fun someone => ?_, ?_⟩
      · have someoneLeft : (leavers offerings).isEmpty = false := by
          rw [Bool.eq_false_iff, ne_eq, List.isEmpty_iff]
          exact someone
        simp only [someoneLeft, Bool.false_eq_true, if_false]
        exact ⟨_, _, rfl, rfl, rfl⟩
      · rw [← groups, List.length_map]
        rfl

/-- Whatever the subscribers do and whatever happens between its questions, a
sweep offers each group that is overdue when it begins to each subscriber that
is still there, and does nothing else. -/
theorem sweep_conduct (company : Company Rest) (timeout : Nat)
    (scene : Scene Rest) :
    ∃ offerings, Conduct company timeout scene offerings
      (company.sweep timeout scene).1 (company.sweep timeout scene).2 := by
  obtain ⟨offerings, groups, offered, continues, dropped, result⟩ :=
    sweep_continues company timeout scene rfl
  obtain ⟨new, -, exchanges, follows, done⟩ := continues
  rw [Account.start, List.nil_append] at exchanges
  subst exchanges
  refine ⟨offerings, ?_, offered, follows, ?_, ?_, dropped, result⟩
  · rw [groups]
    refine (List.mergeSort_perm _ _).trans (List.Perm.of_eq ?_)
    refine List.filter_congr fun group _ => ?_
    rw [Store.isOverdue, Bool.decide_and]
    rfl
  · rw [done, groups]
    rfl
  · apply isOwn_of_follows follows
    apply sweeping_of_deeds
    rw [done]
    exact List.forall_mem_cons.mpr ⟨trivial, sweeping_of_offerings⟩

end Sweep

end Collate
