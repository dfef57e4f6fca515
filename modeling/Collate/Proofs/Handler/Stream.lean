import Collate.Correlation
import Collate.Proofs.Release.Runs
import Mathlib.Data.List.Infix
import Mathlib.Data.List.Perm.Subperm
import Mathlib.Order.Bounds.Basic

namespace Collate

/-- Whether a message has a place in a sequence of a length that it declares. -/
structure IsPlaced (count : Nat) (message : Message) : Prop where
  positive : 1 ≤ message.sequenceNumber
  within : message.sequenceNumber ≤ count
  sized : message.sequenceSize = count

/-- Messages of which those of a key have places in a sequence of a length, and
are all different. -/
structure IsStream (correlation : Correlation) (key : Key) (count : Nat)
    (message : Nat → Message) : Prop where
  placed : ∀ call, correlation (message call) = some key →
    IsPlaced count (message call)
  distinct : ∀ left right, correlation (message left) = some key →
    correlation (message right) = some key →
    (message left).id = (message right).id → left = right

def Covers (count : Nat) (numbers : List Nat) : Prop :=
  ∀ number, 1 ≤ number → number ≤ count → number ∈ numbers

def IsRun (numbers : List Nat) : Prop :=
  numbers.Perm (List.range' 1 numbers.length)

/-- Whether there was a moment at which all numbers up to one had come, and no
others. -/
def HasReached (numbers : List Nat) (greatest : Nat) : Prop :=
  ∃ earlier, earlier <+: numbers ∧ ∀ number, number ∈ earlier ↔
    1 ≤ number ∧ number ≤ greatest

section Numbers

variable {count number greatest : Nat} {numbers : List Nat}

theorem hasReached_concat :
    HasReached (numbers ++ [number]) greatest ↔
    HasReached numbers greatest ∨
    ∀ other, other ∈ numbers ++ [number] ↔ 1 ≤ other ∧ other ≤ greatest := by
  constructor
  · rintro ⟨earlier, isPrefix, exact⟩
    rcases List.prefix_concat_iff.mp isPrefix with rfl | before
    · exact .inr exact
    · exact .inl ⟨earlier, before, exact⟩
  · rintro (⟨earlier, isPrefix, exact⟩ | exact)
    · exact ⟨earlier, isPrefix.trans (List.prefix_append _ _), exact⟩
    · exact ⟨_, List.prefix_refl _, exact⟩

theorem HasReached.eq_zero_or_mem (reached : HasReached numbers greatest) :
    greatest = 0 ∨ greatest ∈ numbers := by
  obtain ⟨earlier, isPrefix, exact⟩ := reached
  rcases Nat.eq_zero_or_pos greatest with zero | positive
  · exact .inl zero
  · exact .inr
      (isPrefix.subset ((exact greatest).mpr ⟨positive, Nat.le_refl _⟩))

theorem isGreatest_reached_nil :
    IsGreatest {other | HasReached [] other} 0 := by
  constructor
  · refine ⟨[], List.prefix_refl _, fun other => ?_⟩
    simp only [List.not_mem_nil, false_iff]
    omega
  · intro other reached
    rcases reached.eq_zero_or_mem with rfl | member
    · exact Nat.le_refl _
    · simp at member

theorem isGreatest_reached_of_not_run
    (before : IsGreatest {other | HasReached numbers other} greatest)
    (stays : ∀ other,
      (∀ value, value ∈ numbers ++ [number] ↔ 1 ≤ value ∧ value ≤ other) →
        number ∈ numbers) :
    IsGreatest {other | HasReached (numbers ++ [number]) other} greatest := by
  have same : ∀ other, HasReached (numbers ++ [number]) other ↔
      HasReached numbers other := by
    intro other
    refine hasReached_concat.trans (or_iff_left_of_imp fun exact => ?_)
    have known := stays other exact
    refine ⟨numbers, List.prefix_refl _, fun value => ?_⟩
    rw [← exact value, List.mem_append, List.mem_singleton]
    exact ⟨.inl, fun member => member.elim id fun same => same ▸ known⟩
  simpa only [same] using before

theorem isGreatest_reached_of_run
    (run : ∀ other, other ∈ numbers ++ [number] ↔
      1 ≤ other ∧ other ≤ greatest) :
    IsGreatest {other | HasReached (numbers ++ [number]) other} greatest := by
  refine ⟨hasReached_concat.mpr (.inr run), fun other reached => ?_⟩
  rcases reached.eq_zero_or_mem with rfl | member
  · exact Nat.zero_le _
  · exact ((run other).mp member).2

theorem isGreatest_reached_of_covers (covers : Covers count numbers)
    (bounded : ∀ number ∈ numbers, 1 ≤ number ∧ number ≤ count) :
    IsGreatest {other | HasReached numbers other} count := by
  constructor
  · refine ⟨numbers, List.prefix_refl _,
      fun other => ⟨bounded other, fun within => ?_⟩⟩
    exact covers other within.1 within.2
  · intro other reached
    rcases reached.eq_zero_or_mem with rfl | member
    · exact Nat.zero_le _
    · exact (bounded other member).2

theorem isRun_iff (distinct : numbers.Nodup) :
    IsRun numbers ↔
      ∃ greatest, ∀ other, other ∈ numbers ↔ 1 ≤ other ∧ other ≤ greatest := by
  have ranges :
      ∀ greatest, (∀ other, other ∈ numbers ↔ 1 ≤ other ∧ other ≤ greatest) ↔
        numbers.Perm (List.range' 1 greatest) := by
    intro greatest
    rw [List.perm_ext_iff_of_nodup distinct List.nodup_range']
    refine forall_congr' fun other => iff_congr Iff.rfl ?_
    rw [List.mem_range'_1]
    omega
  constructor
  · intro perm
    exact ⟨_, (ranges _).mpr perm⟩
  · rintro ⟨greatest, all⟩
    have perm := (ranges greatest).mp all
    have length := perm.length_eq
    rw [List.length_range'] at length
    rwa [IsRun, length]

theorem covers_iff_of_nodup (distinct : numbers.Nodup)
    (bounded : ∀ number ∈ numbers, 1 ≤ number ∧ number ≤ count) :
    (Covers count numbers ↔ count ≤ numbers.length) ∧
      (count ≤ numbers.length → IsRun numbers) := by
  have below : numbers.Subperm (List.range' 1 count) := by
    apply List.subperm_of_subset distinct
    intro number member
    have within := bounded number member
    exact List.mem_range'_1.mpr (by omega)
  have perm : count ≤ numbers.length → numbers.Perm (List.range' 1 count) :=
    fun enough =>
      below.perm_of_length_le (by simpa using enough)
  refine ⟨⟨fun covers => ?_, fun enough number positive within => ?_⟩,
    fun enough => ?_⟩
  · have above : (List.range' 1 count).Subperm numbers := by
      apply List.subperm_of_subset List.nodup_range'
      intro number member
      have within := List.mem_range'_1.mp member
      exact covers number within.1 (by omega)
    simpa using above.length_le
  · apply (perm enough).symm.subset
    exact List.mem_range'_1.mpr (by omega)
  · have length := (perm enough).length_eq
    rw [List.length_range'] at length
    rw [IsRun, length]
    exact perm enough

theorem range'_append_range' (released waiting : Nat) :
    List.range' 1 released ++ List.range' (released + 1) waiting =
      List.range' 1 (released + waiting) := by
  rw [Nat.add_comm released 1]
  exact List.range'_append_1

theorem perm_drop_iff {released : Nat}
    (run : (numbers.take released).Perm (List.range' 1 released))
    (within : released ≤ numbers.length) :
    (numbers.drop released).Perm
      (List.range' (released + 1) (numbers.length - released)) ↔
      IsRun numbers := by
  have ranges : List.range' 1 numbers.length = List.range' 1 released ++
      List.range' (released + 1) (numbers.length - released) := by
    rw [range'_append_range', Nat.add_sub_cancel' within]
  calc
    (numbers.drop released).Perm
        (List.range' (released + 1) (numbers.length - released)) ↔
        (numbers.take released ++ numbers.drop released).Perm (numbers.take
          released ++ List.range' (released + 1) (numbers.length - released)) :=
        (List.perm_append_left_iff _).symm
    _ ↔ IsRun numbers := by
        rw [List.take_append_drop, IsRun, ranges]
        exact (run.append_right _).congr_right _

end Numbers

/-- The messages that were the first with their numbers, and those that brought
a number again. -/
structure Arrivals where
  firsts : List Message
  repeats : List Message

namespace Arrivals

def none : Arrivals := ⟨[], []⟩

def numbers (arrivals : Arrivals) : List Nat :=
  arrivals.firsts.map Message.sequenceNumber

def add (arrivals : Arrivals) (message : Message) : Arrivals :=
  if message.sequenceNumber ∈ arrivals.numbers then
    { arrivals with repeats := arrivals.repeats ++ [message] }
  else { arrivals with firsts := arrivals.firsts ++ [message] }

def ofMessages (messages : List Message) : Arrivals :=
  messages.foldl add none

variable {messages : List Message} {message : Message} {arrivals : Arrivals}

theorem ofMessages_concat (messages : List Message) (message : Message) :
    ofMessages (messages ++ [message]) = (ofMessages messages).add message := by
  simp [ofMessages]

theorem add_of_mem (known : message.sequenceNumber ∈ arrivals.numbers) :
    arrivals.add message =
      { arrivals with repeats := arrivals.repeats ++ [message] } :=
  if_pos known

theorem add_of_not_mem (fresh : message.sequenceNumber ∉ arrivals.numbers) :
    arrivals.add message =
      { arrivals with firsts := arrivals.firsts ++ [message] } :=
  if_neg fresh

theorem mem_numbers_add {number : Nat} :
    number ∈ (arrivals.add message).numbers ↔
      number ∈ arrivals.numbers ∨ number = message.sequenceNumber := by
  by_cases known : message.sequenceNumber ∈ arrivals.numbers
  · rw [add_of_mem known]
    exact ⟨.inl, fun member => member.elim id fun same => same ▸ known⟩
  · rw [add_of_not_mem known]
    simp [numbers]

theorem mem_numbers_ofMessages {number : Nat} :
    number ∈ (ofMessages messages).numbers ↔
    number ∈ messages.map Message.sequenceNumber := by
  induction messages using List.reverseRecOn with
  | nil => exact Iff.rfl
  | append_singleton messages message induction =>
      rw [ofMessages_concat, mem_numbers_add, induction]
      simp

theorem nodup_numbers_ofMessages (messages : List Message) :
    (ofMessages messages).numbers.Nodup := by
  induction messages using List.reverseRecOn with
  | nil => exact List.nodup_nil
  | append_singleton messages message induction =>
      rw [ofMessages_concat]
      by_cases known : message.sequenceNumber ∈ (ofMessages messages).numbers
      · rw [add_of_mem known]
        exact induction
      · rw [add_of_not_mem known, numbers, List.map_append]
        exact List.concat_eq_append ▸ induction.concat known

theorem firsts_subset (messages : List Message) :
    (ofMessages messages).firsts ⊆ messages := by
  induction messages using List.reverseRecOn with
  | nil => exact List.Subset.refl _
  | append_singleton messages message induction =>
      rw [ofMessages_concat]
      have before : (ofMessages messages).firsts ⊆ messages ++ [message] :=
        fun _ member =>
          List.mem_append_left _ (induction member)
      by_cases known : message.sequenceNumber ∈ (ofMessages messages).numbers
      · rwa [add_of_mem known]
      · rw [add_of_not_mem known]
        exact List.append_subset.mpr ⟨before, List.subset_append_right _ _⟩

theorem firsts_concat
    (fresh : message.sequenceNumber ∉ (ofMessages messages).numbers) :
    ofMessages (messages ++ [message]) = { ofMessages messages with
      firsts := (ofMessages messages).firsts ++ [message] } := by
  rw [ofMessages_concat, add_of_not_mem fresh]

theorem numbers_concat
    (fresh : message.sequenceNumber ∉ (ofMessages messages).numbers) :
    (ofMessages (messages ++ [message])).numbers =
      (ofMessages messages).numbers ++ [message.sequenceNumber] := by
  rw [firsts_concat fresh]
  simp [numbers]

theorem bounded_numbers {count : Nat}
    (placed : ∀ message ∈ messages, IsPlaced count message) :
    ∀ number ∈ (ofMessages messages).numbers, 1 ≤ number ∧ number ≤ count := by
  intro number member
  obtain ⟨message, isMember, rfl⟩ :=
    List.mem_map.mp (mem_numbers_ofMessages.mp member)
  exact ⟨(placed message isMember).positive, (placed message isMember).within⟩

theorem covers_iff {count : Nat}
    (placed : ∀ message ∈ messages, IsPlaced count message) :
    Covers count (messages.map Message.sequenceNumber) ↔
    count ≤ (ofMessages messages).numbers.length := by
  rw [← (covers_iff_of_nodup (nodup_numbers_ofMessages messages)
    (bounded_numbers placed)).1]
  simp only [Covers, mem_numbers_ofMessages]

theorem run_of_covers {count : Nat}
    (placed : ∀ message ∈ messages, IsPlaced count message)
    (covers : Covers count (messages.map Message.sequenceNumber)) :
    IsRun (ofMessages messages).numbers :=
  (covers_iff_of_nodup (nodup_numbers_ofMessages messages)
    (bounded_numbers placed)).2 ((covers_iff placed).mp covers)

end Arrivals

structure Buffers (key : Key) (messages : List Message) (released : Nat)
    (group : Group) : Prop where
  sameKey : group.key = key
  members : group.members = messages
  marked : group.markedCount = released

namespace Buffers

variable {key : Key} {count released : Nat} {messages : List Message}
  {message : Message} {group : Group}

theorem add (buffers : Buffers key messages released group) (message : Message)
    (time : Int) :
    Buffers key (messages ++ [message]) released (group.add message time) where
  sameKey := buffers.sameKey
  members := by rw [Group.add, buffers.members]
  marked := buffers.marked

theorem markAll (buffers : Buffers key messages released group) (time : Int) :
    Buffers key messages messages.length (group.markAll time) where
  sameKey := buffers.sameKey
  members := buffers.members
  marked := by rw [Group.markAll, buffers.members]

theorem unmarked (buffers : Buffers key messages released group) :
    group.unmarked = messages.drop released := by
  rw [Group.unmarked, buffers.members, buffers.marked]

variable (buffers : Buffers key messages released group)

include buffers

theorem canAdd_of_known (isPlaced : IsPlaced count message)
    (known : message.sequenceNumber ∈ messages.map Message.sequenceNumber) :
    group.canAdd message = false := by
  obtain ⟨holder, member, same⟩ := List.mem_map.mp known
  have nonempty := List.ne_nil_of_mem member
  have taken : (group.members.any fun member =>
      member.sequenceNumber = message.sequenceNumber) = true := by
    rw [buffers.members, List.any_eq_true]
    exact ⟨holder, member, decide_eq_true same⟩
  have isNumbered : message.sequenceNumber ≠ 0 := Nat.ne_of_gt isPlaced.positive
  have notEmpty : group.isEmpty = false := by
    simp [Group.isEmpty, buffers.members, nonempty]
  unfold Group.canAdd
  rw [taken, notEmpty]
  simp [isNumbered]

variable (placed : ∀ message ∈ messages, IsPlaced count message)

include placed

theorem sequenceSize (nonempty : messages ≠ []) :
    group.sequenceSize = count := by
  cases messages with
  | nil => exact absurd rfl nonempty
  | cons first rest =>
      have sized := (placed first List.mem_cons_self).sized
      simpa [Group.sequenceSize, Group.first?, buffers.members] using sized

theorem canAdd_of_fresh (isPlaced : IsPlaced count message)
    (unknown : ∀ other ∈ messages, other.id ≠ message.id)
    (fresh : message.sequenceNumber ∉ messages.map Message.sequenceNumber) :
    group.canAdd message = true := by
  have noSameId :
      (group.members.any fun member => member.id = message.id) = false := by
    rw [buffers.members, List.any_eq_false]
    intro other member same
    exact unknown other member (of_decide_eq_true same)
  have noSameNumber : (group.members.any fun member =>
      member.sequenceNumber = message.sequenceNumber) = false := by
    rw [buffers.members, List.any_eq_false]
    intro other member same
    exact fresh (of_decide_eq_true same ▸ List.mem_map_of_mem member)
  unfold Group.canAdd
  rw [noSameId, noSameNumber]
  by_cases nonempty : messages = []
  · simp [Group.isEmpty, buffers.members, nonempty]
  · rw [buffers.sequenceSize placed nonempty, isPlaced.sized]
    simp

theorem isComplete (nonempty : messages ≠ []) :
    group.isComplete = decide (count ≤ messages.length) := by
  obtain ⟨first, member⟩ := List.exists_mem_of_ne_nil messages nonempty
  have isPlaced := placed first member
  have positive : 0 < count :=
    Nat.lt_of_lt_of_le isPlaced.positive isPlaced.within
  unfold Group.isComplete
  rw [buffers.sequenceSize placed nonempty, Group.size, buffers.members]
  simp [positive]

theorem sequence_iff
    (run : ((messages.map Message.sequenceNumber).take released).Perm
      (List.range' 1 released)) (waiting : released < messages.length)
    (distinct : (messages.map Message.sequenceNumber).Nodup) :
    Release.sequence true group = true ↔
    IsRun (messages.map Message.sequenceNumber) := by
  have marked : group.marked.map Message.sequenceNumber =
      (messages.map Message.sequenceNumber).take released := by
    rw [Group.marked, buffers.members, buffers.marked, List.map_take]
  have released_eq : group.lastReleased = released := by
    have length : group.marked.length = released := by
      rw [Group.marked, buffers.members, buffers.marked, List.length_take]
      omega
    rw [Group.lastReleased_of_perm (by rwa [marked, length]), length]
  have goesOn := perm_drop_iff run (by simpa using Nat.le_of_lt waiting)
  rw [List.length_map] at goesOn
  have continues : Release.continuesSequence group = true ↔
      IsRun (messages.map Message.sequenceNumber) := by
    rw [Release.continuesSequence_iff, released_eq, buffers.unmarked,
      List.map_drop, List.length_drop, goesOn]
    refine and_iff_right_of_imp fun _ => ?_
    rw [ne_eq, List.drop_eq_nil_iff]
    omega
  have nonempty : messages ≠ [] :=
    List.ne_nil_of_length_pos (Nat.zero_lt_of_lt waiting)
  have bounded : ∀ number ∈ messages.map Message.sequenceNumber, 1 ≤ number ∧
      number ≤ count := by
    intro number member
    obtain ⟨message, isMember, rfl⟩ := List.mem_map.mp member
    exact ⟨(placed message isMember).positive, (placed message isMember).within⟩
  have complete : group.isComplete = true →
      IsRun (messages.map Message.sequenceNumber) := by
    intro isComplete
    rw [buffers.isComplete placed nonempty, decide_eq_true_eq] at isComplete
    exact (covers_iff_of_nodup distinct bounded).2 (by rwa [List.length_map])
  simp only [Release.sequence, Bool.true_and, Bool.or_eq_true, continues]
  exact or_iff_right_of_imp complete

end Buffers

end Collate
