import Collate.Proofs.Locks.Table

namespace Collate

namespace LockTable

variable {table : LockTable} {ticket other : Nat} {key name : Key}
  {stage : Claim.Stage}

theorem Sound.stage_unique (sound : table.Sound) {otherStage : Claim.Stage}
    (stands : table.Stands ticket key stage)
    (again : table.Stands ticket name otherStage) :
    key = name ∧ stage = otherStage := by
  obtain ⟨mutex, member⟩ := stands
  obtain ⟨otherMutex, otherMember⟩ := again
  have same := sound.eq_of_ticket member otherMember rfl
  exact ⟨congrArg Claim.key same, congrArg Claim.stage same⟩

theorem Sound.guard_ticket_unique (sound : table.Sound)
    {keeps otherKeeps : Bool} (stands : table.Stands ticket key (.guard keeps))
    (again : table.Stands other key (.guard otherKeeps)) : ticket = other := by
  obtain ⟨mutex, member⟩ := stands
  obtain ⟨otherMutex, otherMember⟩ := again
  exact congrArg Claim.ticket
    (sound.guard_unique member otherMember (by simp) (by simp) rfl)

theorem Sound.issued_of_stands (sound : table.Sound)
    (stands : table.Stands ticket key stage) : ticket < table.nextTicket := by
  obtain ⟨mutex, member⟩ := stands
  exact sound.issued _ member

theorem stands_join :
    (table.join key).1.Stands other name stage ↔
      table.Stands other name stage ∨
        other = table.nextTicket ∧ name = key ∧ stage = .pending := by
  simp only [Stands, claims_join, List.mem_append, List.mem_singleton,
    newClaim, Claim.mk.injEq]
  constructor
  · rintro ⟨mutex, old | ⟨ticketEquality, keyEquality, _, stageEquality⟩⟩
    · exact .inl ⟨mutex, old⟩
    · exact .inr ⟨ticketEquality, keyEquality, stageEquality⟩
  · rintro (⟨mutex, old⟩ | ⟨rfl, rfl, rfl⟩)
    · exact ⟨mutex, .inl old⟩
    · exact ⟨_, .inr ⟨rfl, rfl, rfl, rfl⟩⟩

theorem stands_setStage_of_ne (different : other ≠ ticket)
    {otherStage : Claim.Stage} :
    (table.setStage ticket stage).Stands other name otherStage ↔
      table.Stands other name otherStage := by
  simp only [Stands, claims_setStage, List.mem_map]
  constructor
  · rintro ⟨mutex, claim, member, equality⟩
    have ticketEquality : claim.ticket = other := by
      simpa using congrArg Claim.ticket equality
    have unchanged : restage ticket stage claim = claim := by
      simp [restage, ticketEquality, different]
    exact ⟨mutex, by rw [← equality, unchanged]; exact member⟩
  · rintro ⟨mutex, member⟩
    exact ⟨mutex, _, member, by simp [restage, different]⟩

theorem stands_setStage_self {otherStage : Claim.Stage} :
    (table.setStage ticket stage).Stands ticket name otherStage ↔
      (∃ earlier, table.Stands ticket name earlier) ∧ otherStage = stage := by
  simp only [Stands, claims_setStage, List.mem_map]
  constructor
  · rintro ⟨mutex, claim, member, equality⟩
    have ticketEquality : claim.ticket = ticket := by
      simpa using congrArg Claim.ticket equality
    obtain ⟨number, claimKey, claimMutex, claimStage⟩ := claim
    simp only [restage] at equality ticketEquality
    subst ticketEquality
    simp only [if_true, Claim.mk.injEq, true_and] at equality
    obtain ⟨rfl, rfl, rfl⟩ := equality
    exact ⟨⟨claimStage, claimMutex, member⟩, rfl⟩
  · rintro ⟨⟨earlier, mutex, member⟩, rfl⟩
    exact ⟨mutex, _, member, by simp [restage]⟩

theorem Sound.stands_setStage (sound : table.Sound)
    {earlier otherStage : Claim.Stage}
    (stands : table.Stands ticket key earlier) :
    (table.setStage ticket stage).Stands other name otherStage ↔
    other ≠ ticket ∧ table.Stands other name otherStage ∨
    other = ticket ∧ name = key ∧ otherStage = stage := by
  by_cases same : other = ticket
  · subst same
    rw [stands_setStage_self]
    constructor
    · rintro ⟨⟨past, again⟩, rfl⟩
      exact .inr ⟨rfl, (sound.stage_unique stands again).1.symm, rfl⟩
    · rintro (⟨different, _⟩ | ⟨_, rfl, rfl⟩)
      · exact absurd rfl different
      · exact ⟨⟨earlier, stands⟩, rfl⟩
  · simp [stands_setStage_of_ne same, same]

theorem Sound.setStage_same (sound : table.Sound)
    (stands : table.Stands ticket key stage) :
    table.setStage ticket stage = table := by
  obtain ⟨mutex, member⟩ := stands
  have unchanged :
      ∀ claim ∈ table.claims, restage ticket stage claim = claim := by
    intro claim claimMember
    unfold restage
    split
    · rename_i same
      rw [sound.eq_of_ticket claimMember member same]
    · rfl
  have claims : (table.setStage ticket stage).claims = table.claims := by
    rw [claims_setStage, List.map_congr_left unchanged, List.map_id']
  unfold LockTable.setStage at claims ⊢
  simp only at claims
  rw [claims]

theorem stands_withdraw :
    (table.withdraw ticket).Stands other name stage ↔
      other ≠ ticket ∧ table.Stands other name stage := by
  simp only [Stands, claims_withdraw, List.mem_filter]
  constructor
  · rintro ⟨mutex, member, different⟩
    exact ⟨by simpa using different, mutex, member⟩
  · rintro ⟨different, mutex, member⟩
    exact ⟨mutex, member, by simpa using different⟩

theorem Sound.isGuard_of_stands (sound : table.Sound) {keeps : Bool}
    (stands : table.Stands ticket key (.guard keeps)) :
    table.isGuard ticket = true := by
  obtain ⟨mutex, member⟩ := stands
  exact (sound.isGuard_iff member).mpr (by simp)

theorem Sound.enter_eq (sound : table.Sound)
    (stands : table.Stands ticket key .pending)
    (owning : table.isOwner ticket = true) :
    table.enter ticket = table.setStage ticket (.guard false) := by
  obtain ⟨mutex, member⟩ := stands
  have notGuard : table.isGuard ticket = false := by
    rw [Bool.eq_false_iff]
    exact fun guarding => (sound.isGuard_iff member).mp guarding rfl
  simp [LockTable.enter, owning, notGuard]

theorem Sound.retain_eq (sound : table.Sound) {keeps : Bool}
    (stands : table.Stands ticket key (.guard keeps)) :
    table.retain ticket = table.setStage ticket (.guard true) := by
  simp [LockTable.retain, sound.isGuard_of_stands stands]

theorem Sound.retire_eq (sound : table.Sound) {keeps : Bool}
    (stands : table.Stands ticket key (.guard keeps)) :
    table.retire ticket = table.setStage ticket (.guard false) := by
  simp [LockTable.retire, sound.isGuard_of_stands stands]

theorem Sound.release_eq (sound : table.Sound) {keeps : Bool}
    (stands : table.Stands ticket key (.guard keeps)) :
    table.release ticket =
      if keeps then table.withdraw ticket
      else (table.withdraw ticket).reclaim key := by
  obtain ⟨mutex, member⟩ := stands
  have found := sound.claim?_of_mem member
  simp only at found
  simp only [LockTable.release, found]

theorem stands_reclaim :
    (table.reclaim key).Stands other name stage ↔
    table.Stands other name stage := by
  unfold reclaim
  split <;> rfl

theorem Sound.stands_release (sound : table.Sound) {keeps : Bool}
    (stands : table.Stands ticket key (.guard keeps)) :
    (table.release ticket).Stands other name stage ↔
      other ≠ ticket ∧ table.Stands other name stage := by
  rw [sound.release_eq stands]
  split
  · exact stands_withdraw
  · rw [stands_reclaim, stands_withdraw]

theorem Sound.isOwner_of_alone (sound : table.Sound)
    (stands : table.Stands ticket key stage)
    (alone : ∀ other name stage, table.Stands other name stage →
      other = ticket) : table.isOwner ticket = true := by
  obtain ⟨mutex, member⟩ := stands
  apply (sound.isOwner_iff member).mpr
  cases found : table.owner? mutex with
  | none =>
      have nobody := List.find?_eq_none.mp found _ member
      simp at nobody
  | some owner =>
      have ownerMember := List.mem_of_find?_eq_some found
      have same :=
        alone owner.ticket owner.key owner.stage ⟨owner.mutex, ownerMember⟩
      exact congrArg some (sound.eq_of_ticket ownerMember member same)

theorem Sound.no_guard_of_isOwner (sound : table.Sound)
    (stands : table.Stands ticket key .pending)
    (owning : table.isOwner ticket = true) (keeps : Bool) :
    ¬ table.Stands other key (.guard keeps) := by
  rintro ⟨otherMutex, otherMember⟩
  obtain ⟨mutex, member⟩ := stands
  have owner := (sound.isOwner_iff member).mp owning
  have first := sound.first _ otherMember (by simp)
  have mutexOfKey := sound.current _ member
  have otherMutexOfKey := sound.current _ otherMember
  simp only [mutexOfKey, Option.some.injEq] at otherMutexOfKey
  simp only [otherMutexOfKey, first, Option.some.injEq, Claim.mk.injEq] at owner
  exact absurd owner.2.2.2 (by simp)

theorem Sound.exists_owner (sound : table.Sound)
    (stands : table.Stands ticket key stage) :
    ∃ owner ownerStage, table.Stands owner key ownerStage ∧
      table.isOwner owner = true := by
  obtain ⟨mutex, member⟩ := stands
  cases found : table.owner? mutex with
  | none => exact absurd (List.find?_eq_none.mp found _ member) (by simp)
  | some owner =>
      have ownerMember := List.mem_of_find?_eq_some found
      have sameMutex : owner.mutex = mutex := by
        simpa using List.find?_some found
      have ownerCurrent := sound.current owner ownerMember
      rw [sameMutex] at ownerCurrent
      obtain rfl := sound.eq_of_mutex ownerCurrent (sound.current _ member)
      refine ⟨owner.ticket, owner.stage, ⟨owner.mutex, ownerMember⟩, ?_⟩
      apply (sound.isOwner_iff ownerMember).mpr
      rw [sameMutex, found]

theorem Sound.isOwner_join (sound : table.Sound)
    (unclaimed : ∀ other stage, ¬ table.Stands other key stage) :
    (table.join key).1.isOwner (table.join key).2 = true := by
  have joined : (table.join key).1.Stands table.nextTicket key .pending :=
    stands_join.mpr (.inr ⟨rfl, rfl, rfl⟩)
  obtain ⟨owner, stage, stands, owning⟩ := (sound.join key).exists_owner joined
  rw [ticket_join]
  rcases stands_join.mp stands with earlier | ⟨rfl, -, -⟩
  · exact absurd earlier (unclaimed owner stage)
  · exact owning

theorem length_claims_setStage (table : LockTable) (ticket : Nat)
    (stage : Claim.Stage) :
    (table.setStage ticket stage).claims.length = table.claims.length := by
  rw [claims_setStage, List.length_map]

theorem Sound.length_claims_release (sound : table.Sound) {keeps : Bool}
    (stands : table.Stands ticket key (.guard keeps)) :
    (table.release ticket).claims.length < table.claims.length := by
  have shorter :
      (table.withdraw ticket).claims.length < table.claims.length := by
    obtain ⟨mutex, member⟩ := stands
    rw [claims_withdraw]
    exact List.length_filter_lt_length_iff_exists.mpr ⟨_, member, by simp⟩
  have same :
      (table.release ticket).claims = (table.withdraw ticket).claims := by
    rw [sound.release_eq stands]
    split
    · rfl
    · unfold LockTable.reclaim
      split <;> rfl
  rwa [same]

def keepsEntry (table : LockTable) (key : Key) : Bool :=
  table.claims.any fun claim => claim.key = key && claim.stage = .guard true

theorem keepsEntry_iff :
    table.keepsEntry key = true ↔
    ∃ ticket, table.Stands ticket key (.guard true) := by
  simp only [keepsEntry, Stands, List.any_eq_true, Bool.and_eq_true,
    decide_eq_true_eq]
  constructor
  · rintro ⟨⟨ticket, claimKey, mutex, claimStage⟩, member, rfl, rfl⟩
    exact ⟨ticket, mutex, member⟩
  · rintro ⟨ticket, mutex, member⟩
    exact ⟨_, member, rfl, rfl⟩

theorem keepsEntry_congr {after : LockTable}
    (same : ∀ ticket, after.Stands ticket key (.guard true) ↔
      table.Stands ticket key (.guard true)) :
    after.keepsEntry key = table.keepsEntry key := by
  rw [Bool.eq_iff_iff, keepsEntry_iff, keepsEntry_iff]
  exact exists_congr same

theorem Sound.keepsEntry_of_stands (sound : table.Sound) {keeps : Bool}
    (stands : table.Stands ticket key (.guard keeps)) :
    table.keepsEntry key = keeps := by
  rw [Bool.eq_iff_iff, keepsEntry_iff]
  constructor
  · rintro ⟨other, keeping⟩
    obtain rfl := sound.guard_ticket_unique stands keeping
    exact (Claim.Stage.guard.inj (sound.stage_unique stands keeping).2)
  · rintro rfl
    exact ⟨ticket, stands⟩

theorem keepsEntry_of_no_guard
    (free : ∀ ticket keeps, ¬ table.Stands ticket key (.guard keeps)) :
    table.keepsEntry key = false := by
  rw [Bool.eq_false_iff, ne_eq, keepsEntry_iff]
  rintro ⟨ticket, stands⟩
  exact free ticket true stands

theorem Sound.contains_of_stands (sound : table.Sound)
    (stands : table.Stands ticket key stage) : table.contains key = true := by
  obtain ⟨mutex, member⟩ := stands
  have found := sound.current _ member
  simp only at found
  simp [contains, found]

theorem contains_join :
    (table.join key).1.contains name =
      (decide (name = key) || table.contains name) := by
  unfold contains
  rw [entries_join]
  by_cases same : name = key
  · subst same
    simp
  · rw [get?_mutexFor_of_ne table same]
    simp [same]

theorem contains_reclaim_of_ne (different : name ≠ key) :
    (table.reclaim key).contains name = table.contains name := by
  unfold reclaim
  split
  · simp [contains, Assoc.get?_erase_of_ne different]
  · rfl

theorem Sound.isClaimed_iff (sound : table.Sound) {mutex : Nat}
    (found : Assoc.get? key table.entries = some mutex) :
    table.isClaimed mutex = true ↔
    ∃ ticket stage, table.Stands ticket key stage := by
  simp only [isClaimed, Stands, List.any_eq_true, decide_eq_true_eq]
  constructor
  · rintro ⟨⟨ticket, claimKey, claimMutex, claimStage⟩, member, rfl⟩
    have foundOfClaim := sound.current _ member
    obtain rfl := sound.eq_of_mutex found foundOfClaim
    exact ⟨ticket, claimStage, _, member⟩
  · rintro ⟨ticket, stage, claimMutex, member⟩
    have foundOfClaim := sound.current _ member
    simp only [found, Option.some.injEq] at foundOfClaim
    exact ⟨_, member, foundOfClaim.symm⟩

theorem Sound.contains_reclaim_self (sound : table.Sound) :
    (table.reclaim key).contains key = true ↔
    ∃ ticket stage, table.Stands ticket key stage := by
  constructor
  · intro present
    by_contra unclaimed
    unfold LockTable.reclaim at present
    split at present
    · simp [contains] at present
    · rename_i kept
      apply kept
      obtain ⟨mutex, found⟩ := Option.isSome_iff_exists.mp present
      rw [isReclaimable, found]
      simp only [Bool.not_eq_eq_eq_not, Bool.not_true, Bool.eq_false_iff, ne_eq]
      rwa [sound.isClaimed_iff found]
  · rintro ⟨ticket, stage, stands⟩
    have stillStands : (table.reclaim key).Stands ticket key stage :=
      stands_reclaim.mpr stands
    exact (sound.reclaim key).contains_of_stands stillStands

theorem Sound.contains_release_of_ne (sound : table.Sound) {keeps : Bool}
    (stands : table.Stands ticket key (.guard keeps)) (different : name ≠ key) :
    (table.release ticket).contains name = table.contains name := by
  rw [sound.release_eq stands]
  split
  · rfl
  · exact contains_reclaim_of_ne different

theorem Sound.contains_release_self (sound : table.Sound) {keeps : Bool}
    (stands : table.Stands ticket key (.guard keeps))
    (last : ∀ other stage, ¬ (table.release ticket).Stands other key stage) :
    (table.release ticket).contains key = keeps := by
  have present := sound.contains_of_stands stands
  rw [sound.release_eq stands] at last ⊢
  cases keeps with
  | true => exact present
  | false =>
      rw [Bool.eq_false_iff]
      intro stays
      obtain ⟨other, stage, still⟩ :=
        (sound.withdraw ticket).contains_reclaim_self.mp stays
      exact last other stage (stands_reclaim.mpr still)

end LockTable

end Collate
