import Collate.Proofs.Locks.Exclusion
import Collate.Proofs.Locks.Standing

namespace Collate

namespace LockTable

/-- What may become of the entry of a key by an operation. -/
inductive Parting where
  | released (keepsEntry : Bool)
  /-- Someone who waited gave up, and the lock had come to them or not. -/
  | gaveUp (owning : Bool)
  | reclaimed
deriving DecidableEq, Inhabited

def parting? (table : LockTable) : Operation → Option (Key × Parting)
  | .abandon ticket =>
      match table.claim? ticket with
      | some { key, stage := .pending, .. } =>
          some (key, .gaveUp (table.isOwner ticket))
      | _ => none
  | .release ticket =>
      match table.claim? ticket with
      | some { key, stage := .guard keepsEntry, .. } =>
          some (key, .released keepsEntry)
      | _ => none
  | .reclaim key => some (key, .reclaimed)
  | _ => none

def Unclaimed (table : LockTable) (key : Key) : Prop :=
  table.guards key = [] ∧ table.waiting key = []

instance (table : LockTable) (key : Key) : Decidable (table.Unclaimed key) :=
  inferInstanceAs (Decidable (table.guards key = [] ∧ table.waiting key = []))

variable {table : LockTable} {ticket : Nat} {key name : Key}

theorem unclaimed_iff :
    table.Unclaimed key ↔ ∀ ticket stage, ¬ table.Stands ticket key stage := by
  unfold Unclaimed guards waiting Stands
  rw [List.map_eq_nil_iff, List.filter_eq_nil_iff, List.filter_eq_nil_iff]
  constructor
  · rintro ⟨unguarded, unawaited⟩ ticket stage ⟨mutex, member⟩
    have notGuard := unguarded _ member
    have notPending := unawaited _ member
    by_cases pending : stage = .pending <;>
      simp [pending] at notGuard notPending
  · intro free
    constructor <;>
      · rintro ⟨ticket, claimKey, mutex, stage⟩ member holds
        obtain rfl : claimKey = key := by simp at holds; exact holds.1
        exact free ticket stage ⟨mutex, member⟩

theorem stands_of_claim? {claim : Claim}
    (found : table.claim? ticket = some claim) :
    table.Stands ticket claim.key claim.stage := by
  obtain ⟨member, rfl⟩ := mem_of_claim? found
  exact ⟨claim.mutex, member⟩

theorem unclaimed_reclaim :
    (table.reclaim key).Unclaimed name ↔ table.Unclaimed name := by
  simp only [unclaimed_iff, stands_reclaim]

def Leaves (table after : LockTable) (name : Key) : Prop :=
  after.Unclaimed name → table.Unclaimed name ∧
    after.contains name = table.contains name

theorem Leaves.of_setStage {stage : Claim.Stage} :
    table.Leaves (table.setStage ticket stage) name := by
  refine fun free => ⟨unclaimed_iff.mpr fun other otherStage stands => ?_, rfl⟩
  by_cases same : other = ticket
  · subst same
    exact unclaimed_iff.mp free other stage
      (stands_setStage_self.mpr ⟨⟨otherStage, stands⟩, rfl⟩)
  · exact unclaimed_iff.mp free other otherStage
      ((stands_setStage_of_ne same).mpr stands)

theorem Leaves.refl : table.Leaves table name := fun free => ⟨free, rfl⟩

theorem Leaves.join : table.Leaves (table.join key).1 name := by
  intro free
  have apart : name ≠ key := by
    rintro rfl
    exact unclaimed_iff.mp free _ _ (stands_join.mpr (.inr ⟨rfl, rfl, rfl⟩))
  refine ⟨unclaimed_iff.mpr fun other stage stands => ?_, ?_⟩
  · exact unclaimed_iff.mp free other stage (stands_join.mpr (.inl stands))
  · simp [contains_join, apart]

theorem Leaves.reclaim_of_ne (different : name ≠ key) :
    table.Leaves (table.reclaim key) name :=
  fun free => ⟨unclaimed_reclaim.mp free, contains_reclaim_of_ne different⟩

theorem Sound.leaves_withdraw_of_ne (sound : table.Sound) {stage : Claim.Stage}
    (stands : table.Stands ticket key stage) (different : name ≠ key) :
    table.Leaves (table.withdraw ticket) name := by
  refine fun free =>
    ⟨unclaimed_iff.mpr fun other otherStage otherStands => ?_, rfl⟩
  refine unclaimed_iff.mp free other otherStage
    (stands_withdraw.mpr ⟨?_, otherStands⟩)
  rintro rfl
  exact different (sound.stage_unique otherStands stands).1

theorem Sound.leaves_perform (sound : table.Sound) {operation : Operation}
    (apart : ∀ parting, table.parting? operation ≠ some (name, parting)) :
    table.Leaves (table.perform operation) name := by
  cases operation with
  | join key => exact .join
  | enter ticket | retain ticket | retire ticket =>
      simp only [LockTable.perform, LockTable.enter, LockTable.retain,
        LockTable.retire]
      split
      · exact .of_setStage
      · exact .refl
  | abandon ticket =>
      simp only [parting?, LockTable.perform, LockTable.abandon] at apart ⊢
      split
      · rename_i key mutex found
        refine sound.leaves_withdraw_of_ne (stands_of_claim? found) ?_
        rintro rfl
        simp [found] at apart
      · exact .refl
  | release ticket =>
      simp only [parting?, LockTable.perform, LockTable.release] at apart ⊢
      split
      · rename_i key mutex keepsEntry found
        have different : name ≠ key := by
          rintro rfl
          simp [found] at apart
        have withdrawn :=
          sound.leaves_withdraw_of_ne (stands_of_claim? found) different
        split
        · exact withdrawn
        · intro free
          obtain ⟨freeBefore, same⟩ := Leaves.reclaim_of_ne different free
          exact ⟨(withdrawn freeBefore).1, same⟩
      · exact .refl
  | reclaim key =>
      refine .reclaim_of_ne ?_
      rintro rfl
      exact apart _ rfl

theorem of_parting?_abandon {parting : Parting}
    (found : table.parting? (.abandon ticket) = some (key, parting)) :
    table.Stands ticket key .pending ∧
    table.abandon ticket = table.withdraw ticket ∧
    parting = .gaveUp (table.isOwner ticket) := by
  simp only [parting?] at found
  split at found
  · rename_i claim
    obtain ⟨rfl, rfl⟩ := Prod.mk.inj (Option.some.inj found)
    exact ⟨stands_of_claim? claim, by simp only [LockTable.abandon, claim], rfl⟩
  · simp at found

theorem of_parting?_release {parting : Parting}
    (found : table.parting? (.release ticket) = some (key, parting)) :
    ∃ keepsEntry, table.Stands ticket key (.guard keepsEntry) ∧
      parting = .released keepsEntry := by
  simp only [parting?] at found
  split at found
  · rename_i claim
    obtain ⟨rfl, rfl⟩ := Prod.mk.inj (Option.some.inj found)
    exact ⟨_, stands_of_claim? claim, rfl⟩
  · simp at found

theorem Sound.claimed_withdraw (sound : table.Sound)
    (stands : table.Stands ticket key .pending)
    (behind : table.isOwner ticket = false) :
    ¬ (table.withdraw ticket).Unclaimed key := by
  obtain ⟨owner, stage, ownerStands, owning⟩ := sound.exists_owner stands
  intro free
  refine unclaimed_iff.mp free owner stage
    (stands_withdraw.mpr ⟨?_, ownerStands⟩)
  rintro rfl
  simp [owning] at behind

theorem Sound.contains_perform (sound : table.Sound) {operation : Operation}
    {parting : Parting} (found : table.parting? operation = some (key, parting))
    (free : (table.perform operation).Unclaimed key) :
    (table.perform operation).contains key = true ↔
    parting = .released true ∨ parting = .gaveUp true := by
  cases operation with
  | abandon ticket =>
      obtain ⟨stands, withdrawn, rfl⟩ := of_parting?_abandon found
      simp only [LockTable.perform, withdrawn] at free ⊢
      have stays : (table.withdraw ticket).contains key = true :=
        sound.contains_of_stands stands
      cases owning : table.isOwner ticket with
      | true => simp [stays]
      | false => exact absurd free (sound.claimed_withdraw stands owning)
  | release ticket =>
      obtain ⟨keepsEntry, stands, rfl⟩ := of_parting?_release found
      have left := sound.contains_release_self stands (unclaimed_iff.mp free)
      simp [LockTable.perform, left]
  | reclaim name =>
      obtain ⟨rfl, rfl⟩ := Prod.mk.inj (Option.some.inj found)
      simp only [LockTable.perform, reduceCtorEq, or_self, iff_false]
      intro stays
      obtain ⟨other, stage, stands⟩ := sound.contains_reclaim_self.mp stays
      exact unclaimed_iff.mp free other stage (stands_reclaim.mpr stands)
  | join | enter | retain | retire => simp [parting?] at found

/-- A lock table and all partings that it has seen. -/
structure Chronicle where
  table : LockTable
  partings : List (Key × Parting)

namespace Chronicle

def start : Chronicle := { table := .empty, partings := [] }

def next (chronicle : Chronicle) (operation : Operation) : Chronicle :=
  { table := chronicle.table.perform operation
    partings :=
      chronicle.partings ++ (chronicle.table.parting? operation).toList }

def after (operations : List Operation) : Chronicle :=
  operations.foldl next start

def of (chronicle : Chronicle) (key : Key) : List Parting :=
  (chronicle.partings.filter fun entry => entry.1 = key).map Prod.snd

def lastReleased? (chronicle : Chronicle) (key : Key) : Option Bool :=
  ((chronicle.of key).filterMap fun parting =>
    match parting with
    | .released keepsEntry => some keepsEntry
    | _ => none).getLast?

variable {chronicle : Chronicle}

theorem of_next_of_ne {operation : Operation}
    (apart :
      ∀ parting, chronicle.table.parting? operation ≠ some (key, parting)) :
    (chronicle.next operation).of key = chronicle.of key := by
  unfold of next
  rw [List.filter_append, List.map_append]
  cases found : chronicle.table.parting? operation with
  | none => simp
  | some entry =>
      have different : entry.1 ≠ key := by
        rintro rfl
        exact apart entry.2 found
      simp [different]

theorem of_next {operation : Operation} {parting : Parting}
    (found : chronicle.table.parting? operation = some (key, parting)) :
    (chronicle.next operation).of key = chronicle.of key ++ [parting] := by
  unfold of next
  rw [List.filter_append, List.map_append]
  simp [found]

/-- What holds of every chronicle: where nobody has a claim on a key, the last
parting of the key says whether the entry is there, and it is not that of
someone behind another. -/
structure Faithful (chronicle : Chronicle) : Prop where
  sound : chronicle.table.Sound
  left : ∀ key, chronicle.table.Unclaimed key →
    (chronicle.table.contains key = true ↔
      (chronicle.of key).getLast? = some (.released true) ∨
        (chronicle.of key).getLast? = some (.gaveUp true))

theorem start_faithful : start.Faithful where
  sound := empty_sound
  left := by simp [start, of, LockTable.empty, contains]

theorem Faithful.next (faithful : chronicle.Faithful) (operation : Operation) :
    (chronicle.next operation).Faithful where
  sound := faithful.sound.perform operation
  left := by
    intro key free
    by_cases apart : ∀ parting,
      chronicle.table.parting? operation ≠ some (key, parting)
    · obtain ⟨freeBefore, same⟩ := faithful.sound.leaves_perform apart free
      rw [of_next_of_ne apart]
      exact (Eq.congr_left same).trans (faithful.left key freeBefore)
    · obtain ⟨parting, found⟩ := not_forall_not.mp apart
      rw [of_next found, List.getLast?_concat, Option.some.injEq,
        Option.some.injEq]
      exact faithful.sound.contains_perform found free

theorem Faithful.foldl (faithful : chronicle.Faithful)
    (operations : List Operation) :
    (operations.foldl Chronicle.next chronicle).Faithful := by
  induction operations generalizing chronicle with
  | nil => exact faithful
  | cons operation rest induction => exact induction (faithful.next operation)

/-- Whatever has happened to a table, with anyone giving up at any time: when
nobody has a guard of a key or waits for one, the table has an entry for the key
if the last who went away was a guard that was to keep it or someone who gave up
when the lock had come to them, with no reclaiming since, and only then. So
unless somebody has given up a lock that had come to them, there is an entry
only if the last guard that was given back was to keep it. -/
theorem entry_left_by_last (operations : List Operation) (key : Key)
    (unclaimed : (after operations).table.Unclaimed key) :
    ((after operations).table.contains key = true ↔
      ((after operations).of key).getLast? = some (.released true) ∨
        ((after operations).of key).getLast? = some (.gaveUp true)) ∧
    (Parting.gaveUp true ∉ (after operations).of key →
      (after operations).table.contains key = true →
      (after operations).lastReleased? key = some true) := by
  have left := (start_faithful.foldl operations).left key unclaimed
  refine ⟨left, fun never stays => ?_⟩
  rcases left.mp stays with kept | gaveUp
  · obtain ⟨earlier, split⟩ := List.getLast?_eq_some_iff.mp kept
    rw [lastReleased?, after, split, List.filterMap_append]
    exact List.getLast?_concat
  · exact absurd (List.mem_of_getLast? gaveUp) never

/-! A guard that is not to keep the entry, given back while somebody waits, who
gives up before going on. -/

def handedOver : List Operation :=
  [.join ⟨"k"⟩, .enter 0, .join ⟨"k"⟩, .release 0, .abandon 1]

theorem handedOver_leaves_entry :
    (after handedOver).table.Unclaimed ⟨"k"⟩ ∧
    (after handedOver).table.contains ⟨"k"⟩ = true ∧
    (after handedOver).lastReleased? ⟨"k"⟩ = some false := by
  decide

theorem handedOver_left_by_waiter :
    (after handedOver).table.Unclaimed ⟨"k"⟩ ∧
      ((after handedOver).of ⟨"k"⟩).getLast? = some (.gaveUp true) := by
  have unclaimed : (after handedOver).table.Unclaimed ⟨"k"⟩ := by decide
  have left := (entry_left_by_last handedOver ⟨"k"⟩ unclaimed).1.mp (by decide)
  exact ⟨unclaimed, left.resolve_left (by decide)⟩

end Chronicle

end LockTable

end Collate
