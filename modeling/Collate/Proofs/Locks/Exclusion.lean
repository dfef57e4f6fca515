import Collate.Proofs.Locks.Table

namespace Collate

namespace LockTable

/-- What may happen to a lock table, at any time and in any order. -/
inductive Operation where
  | join (key : Key)
  | enter (ticket : Nat)
  /-- Somebody who waits gives up, also one to whom the lock has come. -/
  | abandon (ticket : Nat)
  | retain (ticket : Nat)
  | retire (ticket : Nat)
  | release (ticket : Nat)
  | reclaim (key : Key)

def perform (table : LockTable) : Operation → LockTable
  | .join key => (table.join key).1
  | .enter ticket => table.enter ticket
  | .abandon ticket => table.abandon ticket
  | .retain ticket => table.retain ticket
  | .retire ticket => table.retire ticket
  | .release ticket => table.release ticket
  | .reclaim key => table.reclaim key

def guards (table : LockTable) (key : Key) : List Claim :=
  table.claims.filter fun claim => claim.key = key && claim.stage ≠ .pending

def waiting (table : LockTable) (key : Key) : List Nat :=
  (table.claims.filter
    fun claim => claim.key = key && claim.stage = .pending).map Claim.ticket

def isWaiting (table : LockTable) (ticket : Nat) : Bool :=
  (table.claim? ticket).any fun claim => claim.stage = .pending

/-- A lock table and its past: who has asked for which key, who has got a guard
of which key, both in order, and who has given up. -/
structure History where
  table : LockTable
  asked : List (Nat × Key)
  granted : List (Nat × Key)
  abandoned : List Nat

namespace History

def start : History :=
  { table := .empty, asked := [], granted := [], abandoned := [] }

def next (history : History) (operation : Operation) : History :=
  let noted : History := match operation with
    | .join key =>
        { history with
          asked := history.asked ++ [(history.table.nextTicket, key)] }
    | .enter ticket =>
        match history.table.claim? ticket with
        | some claim =>
            if history.table.isOwner ticket &&
              !history.table.isGuard ticket then
              { history with
                granted := history.granted ++ [(ticket, claim.key)] }
            else history
        | none => history
    | .abandon ticket =>
        if history.table.isWaiting ticket then
          { history with abandoned := history.abandoned ++ [ticket] }
        else history
    | _ => history
  { noted with table := history.table.perform operation }

def after (operations : List Operation) : History := operations.foldl next start

/-- Who has asked for a key and has not given up, in the order of asking. -/
def patient (history : History) (key : Key) : List Nat :=
  ((history.asked.filter fun entry => entry.2 = key).map Prod.fst).filter
    fun ticket =>
      ticket ∉ history.abandoned

def served (history : History) (key : Key) : List Nat :=
  (history.granted.filter fun entry => entry.2 = key).map Prod.fst

end History

theorem Sound.perform {table : LockTable} (sound : table.Sound)
    (operation : Operation) : (table.perform operation).Sound := by
  cases operation with
  | join key => exact sound.join key
  | enter ticket => exact sound.enter ticket
  | abandon ticket => exact sound.abandon ticket
  | retain ticket => exact sound.retain ticket
  | retire ticket => exact sound.retire ticket
  | release ticket => exact sound.release ticket
  | reclaim key => exact sound.reclaim key

theorem Sound.guards_length {table : LockTable} (sound : table.Sound)
    (key : Key) : (table.guards key).length ≤ 1 := by
  have distinct : (table.guards key).Nodup :=
    (List.Nodup.of_map _ sound.tickets_nodup).filter _
  match guardsOfKey : table.guards key with
  | [] => simp
  | [_] => simp
  | left :: right :: rest =>
      have leftMember : left ∈ table.guards key := by simp [guardsOfKey]
      have rightMember : right ∈ table.guards key := by simp [guardsOfKey]
      obtain ⟨leftClaim, leftHolds⟩ := List.mem_filter.mp leftMember
      obtain ⟨rightClaim, rightHolds⟩ := List.mem_filter.mp rightMember
      simp only [ne_eq, decide_not, Bool.and_eq_true, decide_eq_true_eq,
        Bool.not_eq_eq_eq_not, Bool.not_true, decide_eq_false_iff_not]
          at leftHolds rightHolds
      have same := sound.guard_unique leftClaim rightClaim leftHolds.2
          rightHolds.2 (leftHolds.1.trans rightHolds.1.symm)
      rw [guardsOfKey, same] at distinct
      simp at distinct

theorem mem_waiting {table : LockTable} {ticket : Nat} {key : Key} :
    ticket ∈ table.waiting key ↔
    ∃ claim ∈ table.claims, claim.key = key ∧ claim.stage = .pending ∧
      claim.ticket = ticket := by
  simp [waiting, and_assoc]

theorem waiting_join (table : LockTable) (key name : Key) :
    (table.join key).1.waiting name =
      table.waiting name ++ if key = name then [table.nextTicket] else [] := by
  unfold waiting
  rw [claims_join, List.filter_append, List.map_append]
  congr 1
  by_cases same : key = name <;> simp [newClaim, same]

theorem waiting_withdraw (table : LockTable) (ticket : Nat) (key : Key) :
    (table.withdraw ticket).waiting key = (table.waiting key).filter
      fun other => other ≠ ticket := by
  unfold waiting
  rw [claims_withdraw, List.filter_map, List.filter_filter, List.filter_filter]
  congr 1
  apply List.filter_congr
  intro claim _
  simp [Bool.and_comm]

theorem waiting_reclaim (table : LockTable) (key name : Key) :
    (table.reclaim key).waiting name = table.waiting name := by
  unfold reclaim
  split <;> rfl

theorem Sound.waiting_setStage_guard {table : LockTable} (sound : table.Sound)
    {ticket : Nat}
    (isGuard : table.isGuard ticket = true) (keepsEntry : Bool) (key : Key) :
    (table.setStage ticket (.guard keepsEntry)).waiting key =
      table.waiting key := by
  unfold waiting
  rw [claims_setStage, List.filter_map, List.map_map]
  have kept : ∀ claim ∈ table.claims,
      (decide ((restage ticket (.guard keepsEntry) claim).key = key) &&
        decide ((restage ticket (.guard keepsEntry) claim).stage = .pending)) =
      (decide (claim.key = key) && decide (claim.stage = .pending)) := by
    intro claim member
    rw [key_restage]
    by_cases same : claim.ticket = ticket
    · subst same
      have guarding := (sound.isGuard_iff member).mp isGuard
      simp [restage, guarding]
    · simp [restage, same]
  rw [List.filter_congr
    (q := fun claim => claim.key = key && claim.stage = .pending) kept]
  apply List.map_congr_left
  intro claim _
  simp

theorem Sound.waiting_release {table : LockTable} (sound : table.Sound)
    (ticket : Nat) (key : Key) :
    (table.release ticket).waiting key = table.waiting key := by
  unfold LockTable.release
  split
  · rename_i claim other mutex keepsEntry found
    have absent : ticket ∉ table.waiting key := by
      intro member
      obtain ⟨waiter, waiterMember, _, pending, same⟩ := mem_waiting.mp member
      obtain ⟨holderMember, holderTicket⟩ := mem_of_claim? found
      have equality := sound.eq_of_ticket waiterMember holderMember
          (same.trans holderTicket.symm)
      rw [equality] at pending
      cases pending
    have kept : (table.withdraw ticket).waiting key = table.waiting key := by
      rw [waiting_withdraw, List.filter_eq_self]
      intro other member
      simp only [decide_eq_true_eq]
      rintro rfl
      exact absent member
    dsimp only
    split
    · exact kept
    · rw [waiting_reclaim, kept]
  · rfl

theorem Sound.waiting_enter {table : LockTable} (sound : table.Sound)
    {claim : Claim}
    (member : claim ∈ table.claims) (pending : claim.stage = .pending)
    (owning : table.isOwner claim.ticket = true) (key : Key) :
    table.waiting key = (if claim.key = key then [claim.ticket] else []) ++
      (table.setStage claim.ticket (.guard false)).waiting key := by
  obtain ⟨_, before, after, split, earlier⟩ :=
    List.find?_eq_some_iff_append.mp ((sound.isOwner_iff member).mp owning)
  have othersBefore : ∀ other ∈ before, other.key ≠ claim.key := by
    intro other otherMember same
    have found := sound.current other (by rw [split]; simp [otherMember])
    rw [same, sound.current claim member] at found
    simpa [Option.some.inj found] using earlier other otherMember
  have distinct := sound.tickets_nodup
  rw [split, List.map_append, List.map_cons] at distinct
  obtain ⟨_, tailDistinct, apart⟩ := List.nodup_append.mp distinct
  have same :
      ∀ others : List Claim, (∀ other ∈ others, other.ticket ≠ claim.ticket) →
        others.map (restage claim.ticket (.guard false)) = others := by
    intro others different
    refine (List.map_congr_left fun other otherMember => ?_).trans
      (List.map_id _)
    simp [restage, different other otherMember]
  have restaged : (table.setStage claim.ticket (.guard false)).claims =
      before ++ { claim with stage := .guard false } :: after := by
    rw [claims_setStage, split, List.map_append, List.map_cons,
      same before, same after]
    · simp [restage]
    · intro other otherMember equality
      exact (List.nodup_cons.mp tailDistinct).1
        (equality ▸ List.mem_map_of_mem otherMember)
    · intro other otherMember equality
      exact apart _ (List.mem_map_of_mem otherMember) _
        List.mem_cons_self equality
  unfold waiting
  rw [restaged, split]
  by_cases named : claim.key = key
  · have nobodyBefore : before.filter
        (fun other => other.key = key && other.stage = .pending) = [] := by
      rw [List.filter_eq_nil_iff]
      intro other otherMember
      simp [named ▸ othersBefore other otherMember]
    simp [List.filter_append, nobodyBefore, named, pending]
  · simp [List.filter_append, named]

theorem Sound.isOwner_of_head {table : LockTable} (sound : table.Sound)
    {ticket : Nat} {key : Key} (free : table.guards key = [])
    (head : (table.waiting key).head? = some ticket) :
    table.isOwner ticket = true := by
  unfold waiting at head
  rw [List.head?_map, List.head?_filter] at head
  obtain ⟨claim, found, rfl⟩ := Option.map_eq_some_iff.mp head
  obtain ⟨holds, before, after, split, earlier⟩ :=
    List.find?_eq_some_iff_append.mp found
  simp only [Bool.and_eq_true, decide_eq_true_eq] at holds
  have member : claim ∈ table.claims := by rw [split]; simp
  apply (sound.isOwner_iff member).mpr
  refine List.find?_eq_some_iff_append.mpr ⟨decide_eq_true rfl, before,
    after, split, ?_⟩
  intro other otherMember
  have otherClaim : other ∈ table.claims := by rw [split]; simp [otherMember]
  have notWaiting := earlier other otherMember
  have notGuard : other ∉ table.guards key := by simp [free]
  simp only [guards, List.mem_filter, otherClaim, true_and] at notGuard
  have different : other.key ≠ claim.key := by
    intro same
    rw [holds.1] at same
    by_cases pending : other.stage = .pending <;> simp [same, pending]
      at notWaiting notGuard
  simp only [Bool.not_eq_eq_eq_not, Bool.not_true, decide_eq_false_iff_not]
  intro same
  have otherMutex := sound.current other otherClaim
  rw [same] at otherMutex
  exact different (sound.eq_of_mutex otherMutex (sound.current claim member))

theorem nextTicket_le_perform (table : LockTable) (operation : Operation) :
    table.nextTicket ≤ (table.perform operation).nextTicket := by
  cases operation with
  | join key => simp [perform]
  | enter ticket => simp only [perform, enter]; split <;> exact Nat.le_refl _
  | abandon ticket =>
      simp only [perform, abandon]; split <;> exact Nat.le_refl _
  | retain ticket => simp only [perform, retain]; split <;> exact Nat.le_refl _
  | retire ticket => simp only [perform, retire]; split <;> exact Nat.le_refl _
  | release ticket =>
      simp only [perform, LockTable.release, reclaim]
      repeat' split
      all_goals exact Nat.le_refl _
  | reclaim key => simp only [perform, reclaim]; split <;> exact Nat.le_refl _

namespace History

/-- What holds of every history: those who have asked for a key and have not
given up are those who have got a guard of it, followed by those who wait for
it. -/
structure Orderly (history : History) : Prop where
  sound : history.table.Sound
  asked_issued : ∀ entry ∈ history.asked, entry.1 < history.table.nextTicket
  abandoned_issued :
    ∀ ticket ∈ history.abandoned, ticket < history.table.nextTicket
  asked_nodup : (history.asked.map Prod.fst).Nodup
  line :
    ∀ key, history.patient key = history.served key ++ history.table.waiting key

variable {history : History}

theorem mem_asked_of_mem_patient {ticket : Nat} {key : Key}
    (member : ticket ∈ history.patient key) :
    (ticket, key) ∈ history.asked := by
  obtain ⟨entry, entryMember, rfl⟩ :=
    List.mem_map.mp (List.mem_of_mem_filter member)
  obtain ⟨askedMember, same⟩ := List.mem_filter.mp entryMember
  rw [← of_decide_eq_true same]
  exact askedMember

theorem Orderly.patient_nodup (orderly : history.Orderly) (key : Key) :
    (history.patient key).Nodup :=
  (orderly.asked_nodup.sublist (List.filter_sublist.map _)).filter _

theorem Orderly.not_served_of_waiting (orderly : history.Orderly) {ticket : Nat}
    {key name : Key} (waits : ticket ∈ history.table.waiting key) :
    ticket ∉ history.served name := by
  intro wasServed
  have patient : ticket ∈ history.patient key := by
    rw [orderly.line]; simp [waits]
  have servedPatient : ticket ∈ history.patient name := by
    rw [orderly.line]; simp [wasServed]
  have same := List.inj_on_of_nodup_map orderly.asked_nodup
      (mem_asked_of_mem_patient patient)
      (mem_asked_of_mem_patient servedPatient) rfl
  obtain rfl : key = name := congrArg Prod.snd same
  have distinct := orderly.patient_nodup key
  rw [orderly.line] at distinct
  exact (List.nodup_append.mp distinct).2.2 ticket wasServed ticket waits rfl

theorem start_orderly : start.Orderly := by
  refine ⟨empty_sound, ?_, ?_, ?_, ?_⟩ <;>
    simp [start, patient, served, waiting, LockTable.empty]

theorem Orderly.perform (orderly : history.Orderly) (operation : Operation)
    (same : ∀ key, (history.table.perform operation).waiting key =
      history.table.waiting key) :
    { history with
      table := history.table.perform operation : History }.Orderly where
  sound := orderly.sound.perform operation
  asked_issued entry member :=
    Nat.lt_of_lt_of_le (orderly.asked_issued entry member)
      (nextTicket_le_perform _ _)
  abandoned_issued ticket member :=
    Nat.lt_of_lt_of_le (orderly.abandoned_issued ticket member)
      (nextTicket_le_perform _ _)
  asked_nodup := orderly.asked_nodup
  line key := by
    have line := orderly.line key
    simp only [patient, served] at line ⊢
    rw [line, same]

theorem Orderly.join (orderly : history.Orderly) (key : Key) :
    (history.next (.join key)).Orderly where
  sound := orderly.sound.join key
  asked_issued := by
    intro entry member
    have old := orderly.asked_issued entry
    simp only [next, LockTable.perform, nextTicket_join] at member ⊢
    rcases List.mem_append.mp member with earlier | new
    · exact Nat.lt_succ_of_lt (old earlier)
    · rw [List.mem_singleton.mp new]
      exact Nat.lt_succ_self _
  abandoned_issued := by
    intro ticket member
    simp only [next, LockTable.perform, nextTicket_join] at member ⊢
    exact Nat.lt_succ_of_lt (orderly.abandoned_issued ticket member)
  asked_nodup := by
    simp only [next, List.map_append, List.map_cons, List.map_nil]
    refine List.nodup_append.mpr ⟨orderly.asked_nodup, by simp, ?_⟩
    intro ticket member other singleton equality
    obtain ⟨entry, entryMember, rfl⟩ := List.mem_map.mp member
    have less := orderly.asked_issued entry entryMember
    rw [equality, List.mem_singleton.mp singleton] at less
    exact Nat.lt_irrefl _ less
  line := by
    intro name
    have fresh : history.table.nextTicket ∉ history.abandoned := fun member =>
      Nat.lt_irrefl _ (orderly.abandoned_issued _ member)
    have line := orderly.line name
    simp only [patient, served] at line
    simp only [patient, served, next, LockTable.perform, waiting_join,
      List.filter_append, List.map_append]
    rw [← List.append_assoc, ← line]
    congr 1
    by_cases same : key = name <;> simp [same, fresh]

theorem Orderly.enter (orderly : history.Orderly) (ticket : Nat) :
    (history.next (.enter ticket)).Orderly := by
  have unchanged :
      ¬(history.table.isOwner ticket && !history.table.isGuard ticket) →
      { history with
        table := history.table.perform (.enter ticket) : History }.Orderly := by
    intro refused
    apply orderly.perform (.enter ticket)
    intro key
    simp [LockTable.perform, LockTable.enter, refused]
  unfold next
  dsimp only
  cases found : history.table.claim? ticket with
  | none =>
      apply unchanged
      simp [isOwner, found]
  | some claim =>
      dsimp only
      split
      · rename_i allowed
        obtain ⟨member, rfl⟩ := mem_of_claim? found
        obtain ⟨owning, notGuard⟩ := Bool.and_eq_true_iff.mp allowed
        have pending : claim.stage = .pending := by
          by_contra guarding
          simp [(orderly.sound.isGuard_iff member).mpr guarding] at notGuard
        have entered : history.table.perform (.enter claim.ticket) =
            history.table.setStage claim.ticket (.guard false) := by
          simp only [LockTable.perform, LockTable.enter, if_pos allowed]
        refine ⟨orderly.sound.perform (.enter claim.ticket), ?_, ?_,
          orderly.asked_nodup, ?_⟩
        · exact fun entry entryMember =>
            Nat.lt_of_lt_of_le (orderly.asked_issued entry entryMember)
              (nextTicket_le_perform _ _)
        · exact fun other otherMember =>
            Nat.lt_of_lt_of_le (orderly.abandoned_issued other otherMember)
              (nextTicket_le_perform _ _)
        · intro key
          have line := orderly.line key
          rw [orderly.sound.waiting_enter member pending owning key] at line
          simp only [patient, served] at line
          simp only [patient, served, line, entered, List.filter_append,
            List.map_append, List.append_assoc]
          by_cases same : claim.key = key <;> simp [same]
      · exact unchanged ‹_›

theorem Orderly.abandon (orderly : history.Orderly) (ticket : Nat) :
    (history.next (.abandon ticket)).Orderly := by
  unfold next
  dsimp only
  split
  · rename_i isWaiting
    obtain ⟨claim, found, pending⟩ := (Option.any_eq_true _ _).mp isWaiting
    obtain ⟨member, rfl⟩ := mem_of_claim? found
    have stage : claim.stage = .pending := of_decide_eq_true pending
    have waits : claim.ticket ∈ history.table.waiting claim.key :=
      mem_waiting.mpr ⟨claim, member, rfl, stage, rfl⟩
    have left : history.table.perform (.abandon claim.ticket) =
        history.table.withdraw claim.ticket := by
      obtain ⟨number, key, mutex, claimStage⟩ := claim
      subst stage
      simp only [LockTable.perform, LockTable.abandon, found]
    refine ⟨orderly.sound.perform (.abandon claim.ticket), ?_, ?_,
      orderly.asked_nodup, ?_⟩
    · exact fun entry entryMember =>
        Nat.lt_of_lt_of_le (orderly.asked_issued entry entryMember)
          (nextTicket_le_perform _ _)
    · intro other otherMember
      refine Nat.lt_of_lt_of_le ?_ (nextTicket_le_perform _ _)
      rcases List.mem_append.mp otherMember with earlier | new
      · exact orderly.abandoned_issued other earlier
      · rw [List.mem_singleton.mp new]
        exact orderly.sound.issued claim member
    · intro key
      have line := orderly.line key
      have notServed :
        (history.served key).filter (fun other => other ≠ claim.ticket) =
          history.served key := by
        rw [List.filter_eq_self]
        intro other otherMember
        simp only [decide_eq_true_eq]
        rintro rfl
        exact orderly.not_served_of_waiting waits otherMember
      have narrowed :=
        congrArg (List.filter fun other => other ≠ claim.ticket) line
      rw [List.filter_append, notServed, ← waiting_withdraw, patient,
        List.filter_filter] at narrowed
      simp only [patient, served, left]
      rw [← served, ← narrowed]
      apply List.filter_congr
      intro other _
      simp [and_comm]
  · rename_i notWaiting
    apply orderly.perform (.abandon ticket)
    intro key
    simp only [LockTable.perform, LockTable.abandon]
    split
    · rename_i found
      simp [isWaiting, found] at notWaiting
    · rfl

theorem Orderly.next (orderly : history.Orderly) (operation : Operation) :
    (history.next operation).Orderly := by
  cases operation with
  | join key => exact orderly.join key
  | enter ticket => exact orderly.enter ticket
  | abandon ticket => exact orderly.abandon ticket
  | retain ticket =>
      apply orderly.perform (.retain ticket)
      intro key
      simp only [LockTable.perform, LockTable.retain]
      split
      · exact orderly.sound.waiting_setStage_guard ‹_› true key
      · rfl
  | retire ticket =>
      apply orderly.perform (.retire ticket)
      intro key
      simp only [LockTable.perform, LockTable.retire]
      split
      · exact orderly.sound.waiting_setStage_guard ‹_› false key
      · rfl
  | release ticket =>
      exact orderly.perform (.release ticket) fun key =>
        orderly.sound.waiting_release ticket key
  | reclaim name =>
      exact orderly.perform (.reclaim name)
        fun key => waiting_reclaim _ name key

theorem Orderly.foldl (orderly : history.Orderly)
    (operations : List Operation) :
    (operations.foldl History.next history).Orderly := by
  induction operations generalizing history with
  | nil => exact orderly
  | cons operation rest induction => exact induction (orderly.next operation)

theorem orderly_after (operations : List Operation) :
    (after operations).Orderly :=
  start_orderly.foldl operations

/-- After any operations in any order, a key has at most one guard, whoever has
a claim on a key has it on the mutex that the table holds for the key, and those
who have asked for a key and have not given up are, in the order of asking,
those who have got a guard of it, followed by those who wait. The first of these
can get a guard as soon as there is none. -/
theorem one_guard_one_mutex_in_order (operations : List Operation) (key : Key) :
    ((after operations).table.guards key).length ≤ 1 ∧
      (∀ claim ∈ (after operations).table.claims, claim.key = key →
        Assoc.get? key (after operations).table.entries = some claim.mutex) ∧
      (after operations).patient key =
        (after operations).served key ++ (after operations).table.waiting key ∧
      ((after operations).table.guards key = [] →
        ∀ ticket ∈ ((after operations).table.waiting key).head?,
          (after operations).table.isOwner ticket = true) := by
  have orderly := orderly_after operations
  refine ⟨orderly.sound.guards_length key, ?_, orderly.line key,
    fun free ticket head => orderly.sound.isOwner_of_head free head⟩
  rintro claim member rfl
  exact orderly.sound.current claim member

end History

end LockTable

end Collate
