import Collate.LockTable
import Mathlib.Data.List.Nodup
import Mathlib.Tactic.Common

namespace Collate

namespace LockTable

variable {table : LockTable} {ticket other : Nat} {key name : Key}
  {stage : Claim.Stage}

@[simp] theorem claims_mutexFor (table : LockTable) (key : Key) :
    (table.mutexFor key).1.claims = table.claims := by
  unfold mutexFor
  cases Assoc.get? key table.entries <;> rfl

@[simp] theorem nextTicket_mutexFor (table : LockTable) (key : Key) :
    (table.mutexFor key).1.nextTicket = table.nextTicket := by
  unfold mutexFor
  cases Assoc.get? key table.entries <;> rfl

@[simp] theorem get?_mutexFor_self (table : LockTable) (key : Key) :
    Assoc.get? key (table.mutexFor key).1.entries =
      some (table.mutexFor key).2 := by
  unfold mutexFor
  cases found : Assoc.get? key table.entries with
  | none => simp [Assoc.get?_append, found, Assoc.get?]
  | some mutex => simp [found]

theorem get?_mutexFor_of_ne (table : LockTable) (different : name ≠ key) :
    Assoc.get? name (table.mutexFor key).1.entries =
      Assoc.get? name table.entries := by
  unfold mutexFor
  cases Assoc.get? key table.entries with
  | none => simp [Assoc.get?_append, Assoc.get?, Ne.symm different]
  | some mutex => rfl

theorem get?_mutexFor_of_some (table : LockTable) {mutex : Nat}
    (found : Assoc.get? name table.entries = some mutex) :
    Assoc.get? name (table.mutexFor key).1.entries = some mutex := by
  unfold mutexFor
  cases Assoc.get? key table.entries with
  | none => simp [Assoc.get?_append, found]
  | some held => exact found

def newClaim (table : LockTable) (key : Key) : Claim :=
  { ticket := table.nextTicket, key, mutex := (table.mutexFor key).2,
    stage := .pending }

@[simp] theorem claims_join (table : LockTable) (key : Key) :
    (table.join key).1.claims = table.claims ++ [table.newClaim key] := by
  simp [join, newClaim]

@[simp] theorem entries_join (table : LockTable) (key : Key) :
    (table.join key).1.entries = (table.mutexFor key).1.entries := rfl

@[simp] theorem ticket_join (table : LockTable) (key : Key) :
    (table.join key).2 = table.nextTicket := by
  simp [join]

@[simp] theorem nextTicket_join (table : LockTable) (key : Key) :
    (table.join key).1.nextTicket = table.nextTicket + 1 := by
  simp [join]

def Stands (table : LockTable) (ticket : Nat) (key : Key)
    (stage : Claim.Stage) : Prop :=
  ∃ mutex, { ticket, key, mutex, stage } ∈ table.claims

/-- What holds of every lock table that is used by its own steps alone. -/
structure Sound (table : LockTable) : Prop where
  ordered : table.claims.Pairwise fun left right => left.ticket < right.ticket
  issued : ∀ claim ∈ table.claims, claim.ticket < table.nextTicket
  keys_nodup : (table.entries.map Prod.fst).Nodup
  mutexes_nodup : (table.entries.map Prod.snd).Nodup
  made : ∀ entry ∈ table.entries, entry.2 < table.nextMutex
  current : ∀ claim ∈ table.claims,
    Assoc.get? claim.key table.entries = some claim.mutex
  first : ∀ claim ∈ table.claims, claim.stage ≠ .pending →
    table.owner? claim.mutex = some claim

theorem Sound.tickets_nodup (sound : table.Sound) :
    (table.claims.map Claim.ticket).Nodup :=
  List.pairwise_map.mpr (sound.ordered.imp fun less => Nat.ne_of_lt less)

theorem Sound.eq_of_ticket (sound : table.Sound) {left right : Claim}
    (leftMember : left ∈ table.claims) (rightMember : right ∈ table.claims)
    (same : left.ticket = right.ticket) : left = right :=
  List.inj_on_of_nodup_map sound.tickets_nodup leftMember rightMember same

theorem Sound.claim?_of_mem (sound : table.Sound) {claim : Claim}
    (member : claim ∈ table.claims) :
    table.claim? claim.ticket = some claim := by
  unfold claim?
  cases found : table.claims.find? fun other => other.ticket = claim.ticket with
  | none =>
      have absent := List.find?_eq_none.mp found claim member
      simp at absent
  | some other =>
      have same : other.ticket = claim.ticket := by
        simpa using List.find?_some found
      rw [sound.eq_of_ticket (List.mem_of_find?_eq_some found) member same]

theorem mem_of_claim? {claim : Claim}
    (found : table.claim? ticket = some claim) :
    claim ∈ table.claims ∧ claim.ticket = ticket :=
  ⟨List.mem_of_find?_eq_some found, by simpa using List.find?_some found⟩

theorem Sound.eq_of_mutex (sound : table.Sound) {mutex : Nat}
    (found : Assoc.get? key table.entries = some mutex)
    (otherFound : Assoc.get? name table.entries = some mutex) : key = name := by
  have equality := List.inj_on_of_nodup_map sound.mutexes_nodup
    (Assoc.mem_of_get? found) (Assoc.mem_of_get? otherFound) rfl
  exact congrArg Prod.fst equality

theorem Sound.guard_unique (sound : table.Sound) {left right : Claim}
    (leftMember : left ∈ table.claims) (rightMember : right ∈ table.claims)
    (leftGuard : left.stage ≠ .pending) (rightGuard : right.stage ≠ .pending)
    (same : left.key = right.key) : left = right := by
  have leftMutex := sound.current left leftMember
  have rightMutex := sound.current right rightMember
  rw [same, rightMutex] at leftMutex
  have leftFirst := sound.first left leftMember leftGuard
  have rightFirst := sound.first right rightMember rightGuard
  rw [← Option.some.inj leftMutex, rightFirst] at leftFirst
  exact (Option.some.inj leftFirst).symm

theorem empty_sound : LockTable.empty.Sound := by
  constructor <;> simp [empty]

theorem Sound.mutexFor (sound : table.Sound) (key : Key) :
    (table.mutexFor key).1.Sound where
  ordered := by simpa using sound.ordered
  issued := by simpa using sound.issued
  keys_nodup := by
    unfold LockTable.mutexFor
    cases found : Assoc.get? key table.entries with
    | some mutex => exact sound.keys_nodup
    | none =>
        have absent := Assoc.get?_eq_none_iff.mp found
        simp only [List.map_append, List.map_cons, List.map_nil]
        exact List.nodup_append.mpr ⟨sound.keys_nodup, by simp,
          fun name member other singleton =>
            by rintro rfl; rw [List.mem_singleton.mp
              singleton] at member; exact absent member⟩
  mutexes_nodup := by
    unfold LockTable.mutexFor
    cases found : Assoc.get? key table.entries with
    | some mutex => exact sound.mutexes_nodup
    | none =>
        simp only [List.map_append, List.map_cons, List.map_nil]
        refine List.nodup_append.mpr ⟨sound.mutexes_nodup, by simp, ?_⟩
        intro mutex member other singleton equality
        obtain ⟨entry, entryMember, rfl⟩ := List.mem_map.mp member
        have less := sound.made entry entryMember
        rw [equality, List.mem_singleton.mp singleton] at less
        exact Nat.lt_irrefl _ less
  made := by
    unfold LockTable.mutexFor
    cases found : Assoc.get? key table.entries with
    | some mutex => exact sound.made
    | none =>
        intro entry member
        rcases List.mem_append.mp member with old | new
        · exact Nat.lt_succ_of_lt (sound.made entry old)
        · rw [List.mem_singleton.mp new]
          exact Nat.lt_succ_self _
  current := by
    intro claim member
    rw [claims_mutexFor] at member
    exact table.get?_mutexFor_of_some (sound.current claim member)
  first := by
    intro claim member stage
    rw [claims_mutexFor] at member
    simpa [owner?] using sound.first claim member stage

theorem Sound.join (sound : table.Sound) (key : Key) :
    (table.join key).1.Sound where
  ordered := by
    rw [claims_join]
    refine List.pairwise_append.mpr
      ⟨sound.ordered, List.pairwise_singleton _ _, ?_⟩
    intro claim member new singleton
    rw [List.mem_singleton.mp singleton]
    exact sound.issued claim member
  issued := by
    intro claim member
    rw [claims_join] at member
    rw [nextTicket_join]
    rcases List.mem_append.mp member with old | new
    · exact Nat.lt_succ_of_lt (sound.issued claim old)
    · rw [List.mem_singleton.mp new]
      exact Nat.lt_succ_self _
  keys_nodup := (sound.mutexFor key).keys_nodup
  mutexes_nodup := (sound.mutexFor key).mutexes_nodup
  made := (sound.mutexFor key).made
  current := by
    intro claim member
    rw [claims_join] at member
    rcases List.mem_append.mp member with old | new
    · exact table.get?_mutexFor_of_some (sound.current claim old)
    · rw [List.mem_singleton.mp new]
      exact table.get?_mutexFor_self key
  first := by
    intro claim member stage
    rw [claims_join] at member
    rcases List.mem_append.mp member with old | new
    · have leader := sound.first claim old stage
      unfold owner? at leader ⊢
      rw [claims_join, List.find?_append, leader]
      rfl
    · rw [List.mem_singleton.mp new] at stage
      exact absurd rfl stage

def restage (ticket : Nat) (stage : Claim.Stage) (claim : Claim) : Claim :=
  if claim.ticket = ticket then { claim with stage } else claim

theorem claims_setStage (table : LockTable) (ticket : Nat)
    (stage : Claim.Stage) :
    (table.setStage ticket stage).claims =
      table.claims.map (restage ticket stage) := rfl

@[simp] theorem ticket_restage (claim : Claim) :
    (restage ticket stage claim).ticket = claim.ticket := by
  unfold restage
  split <;> rfl

@[simp] theorem key_restage (claim : Claim) :
    (restage ticket stage claim).key = claim.key := by
  unfold restage
  split <;> rfl

@[simp] theorem mutex_restage (claim : Claim) :
    (restage ticket stage claim).mutex = claim.mutex := by
  unfold restage
  split <;> rfl

theorem owner?_setStage (table : LockTable) (mutex : Nat) :
    (table.setStage ticket stage).owner? mutex =
      (table.owner? mutex).map (restage ticket stage) := by
  unfold owner?
  rw [claims_setStage, List.find?_map]
  simp only [Function.comp_def, mutex_restage]

theorem Sound.setStage (sound : table.Sound)
    (leader : stage ≠ .pending → ∀ claim ∈ table.claims, claim.ticket = ticket →
      table.owner? claim.mutex = some claim) :
    (table.setStage ticket stage).Sound where
  ordered := by
    rw [claims_setStage, List.pairwise_map]
    simpa using sound.ordered
  issued := by
    intro claim member
    rw [claims_setStage] at member
    obtain ⟨earlier, earlierMember, rfl⟩ := List.mem_map.mp member
    rw [ticket_restage]
    exact sound.issued earlier earlierMember
  keys_nodup := sound.keys_nodup
  mutexes_nodup := sound.mutexes_nodup
  made := sound.made
  current := by
    intro claim member
    rw [claims_setStage] at member
    obtain ⟨earlier, earlierMember, rfl⟩ := List.mem_map.mp member
    rw [key_restage, mutex_restage]
    exact sound.current earlier earlierMember
  first := by
    intro claim member isGuard
    rw [claims_setStage] at member
    obtain ⟨earlier, earlierMember, rfl⟩ := List.mem_map.mp member
    rw [owner?_setStage, mutex_restage]
    have owner : table.owner? earlier.mutex = some earlier := by
      by_cases same : earlier.ticket = ticket
      · refine leader ?_ earlier earlierMember same
        simpa [restage, same] using isGuard
      · apply sound.first earlier earlierMember
        simpa [restage, same] using isGuard
    rw [owner]
    rfl

theorem Sound.isOwner_iff (sound : table.Sound) {claim : Claim}
    (member : claim ∈ table.claims) :
    table.isOwner claim.ticket = true ↔
    table.owner? claim.mutex = some claim := by
  unfold isOwner
  rw [sound.claim?_of_mem member]
  constructor
  · intro owning
    obtain ⟨owner, found, same⟩ := (Option.any_eq_true _ _).mp owning
    have ownerMember : owner ∈ table.claims := List.mem_of_find?_eq_some found
    rw [found, sound.eq_of_ticket ownerMember member (by simpa using same)]
  · intro found
    simp [found]

theorem Sound.isGuard_iff (sound : table.Sound) {claim : Claim}
    (member : claim ∈ table.claims) :
    table.isGuard claim.ticket = true ↔ claim.stage ≠ .pending := by
  unfold isGuard
  rw [sound.claim?_of_mem member]
  simp

theorem Sound.enter (sound : table.Sound) (ticket : Nat) :
    (table.enter ticket).Sound := by
  unfold LockTable.enter
  split
  · rename_i allowed
    apply sound.setStage
    intro _ claim member same
    subst same
    exact (sound.isOwner_iff member).mp (Bool.and_eq_true_iff.mp allowed).1
  · exact sound

theorem Sound.setStage_guard (sound : table.Sound)
    (isGuard : table.isGuard ticket = true) :
    (table.setStage ticket stage).Sound := by
  apply sound.setStage
  intro _ claim member same
  subst same
  exact sound.first claim member ((sound.isGuard_iff member).mp isGuard)

theorem Sound.retain (sound : table.Sound) (ticket : Nat) :
    (table.retain ticket).Sound := by
  unfold LockTable.retain
  split
  · exact sound.setStage_guard ‹_›
  · exact sound

theorem Sound.retire (sound : table.Sound) (ticket : Nat) :
    (table.retire ticket).Sound := by
  unfold LockTable.retire
  split
  · exact sound.setStage_guard ‹_›
  · exact sound

theorem claims_withdraw (table : LockTable) (ticket : Nat) :
    (table.withdraw ticket).claims =
      table.claims.filter fun claim => claim.ticket ≠ ticket := rfl

theorem Sound.withdraw (sound : table.Sound) (ticket : Nat) :
    (table.withdraw ticket).Sound where
  ordered := sound.ordered.filter _
  issued :=
    fun claim member => sound.issued claim (List.mem_of_mem_filter member)
  keys_nodup := sound.keys_nodup
  mutexes_nodup := sound.mutexes_nodup
  made := sound.made
  current :=
    fun claim member => sound.current claim (List.mem_of_mem_filter member)
  first := by
    intro claim member isGuard
    obtain ⟨earlierMember, kept⟩ := List.mem_filter.mp member
    have owner := sound.first claim earlierMember isGuard
    obtain ⟨owns, before, after, split, earlier⟩ :=
      List.find?_eq_some_iff_append.mp owner
    unfold owner?
    rw [claims_withdraw, split, List.filter_append,
      List.filter_cons, if_pos kept]
    refine List.find?_eq_some_iff_append.mpr ⟨owns, _, _, rfl, ?_⟩
    exact fun other otherMember =>
      earlier other (List.mem_of_mem_filter otherMember)

theorem Sound.erase (sound : table.Sound)
    (unclaimed : table.isReclaimable key = true) :
    { table with
      entries := Assoc.erase key table.entries : LockTable }.Sound where
  ordered := sound.ordered
  issued := sound.issued
  keys_nodup := sound.keys_nodup.sublist (List.filter_sublist.map _)
  mutexes_nodup := sound.mutexes_nodup.sublist (List.filter_sublist.map _)
  made := fun entry member => sound.made entry (List.mem_of_mem_filter member)
  current := by
    intro claim member
    have found := sound.current claim member
    have different : claim.key ≠ key := by
      rintro rfl
      simp [isReclaimable, found, isClaimed] at unclaimed
      exact unclaimed claim member rfl
    rw [Assoc.get?_erase_of_ne different]
    exact found
  first := sound.first

theorem Sound.reclaim (sound : table.Sound) (key : Key) :
    (table.reclaim key).Sound := by
  unfold LockTable.reclaim
  split
  · exact sound.erase ‹_›
  · exact sound

theorem Sound.release (sound : table.Sound) (ticket : Nat) :
    (table.release ticket).Sound := by
  unfold LockTable.release
  split
  · dsimp only
    split
    · exact sound.withdraw ticket
    · exact (sound.withdraw ticket).reclaim _
  · exact sound

theorem Sound.abandon (sound : table.Sound) (ticket : Nat) :
    (table.abandon ticket).Sound := by
  unfold LockTable.abandon
  split
  · exact sound.withdraw ticket
  · exact sound

end LockTable

end Collate
