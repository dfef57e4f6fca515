import Collate.Proofs.Processing.Equality
import Collate.Proofs.Processing.Order

namespace Collate

namespace Processing

variable {group : Group} {messages : List Message}
  {left middle right first : Message} {name : String} {value : HeaderValue}

def CarryEqual (name : String) (left right : Message) : Prop :=
  ∃ value other, left.headers.get? name = some value ∧
    right.headers.get? name = some other ∧
    value.same other = true

theorem CarryEqual.symm (equal : CarryEqual name left right) :
    CarryEqual name right left := by
  obtain ⟨value, other, carries, carriesToo, same⟩ := equal
  exact ⟨other, value, carriesToo, carries, HeaderValue.same_symm same⟩

theorem CarryEqual.trans (first : CarryEqual name left middle)
    (second : CarryEqual name middle right) : CarryEqual name left right := by
  obtain ⟨value, between, carries, found, same⟩ := first
  obtain ⟨again, other, foundAgain, carriesToo, sameAgain⟩ := second
  obtain rfl := Option.some.inj (found.symm.trans foundAgain)
  exact ⟨value, other, carries, carriesToo,
    HeaderValue.same_trans same sameAgain⟩

/-- Messages have a header in common: all carry it, and any two of them with
equal values. -/
structure HaveCommon (name : String) (messages : List Message) : Prop where
  carried : ∀ message ∈ messages, message.headers.contains name = true
  equal : messages.Pairwise (CarryEqual name)

theorem HaveCommon.perm {others : List Message}
    (common : HaveCommon name messages) (perm : messages.Perm others) :
    HaveCommon name others where
  carried :=
    fun message member => common.carried message (perm.symm.subset member)
  equal := (perm.pairwise_iff CarryEqual.symm).mp common.equal

theorem haveCommon_cons_iff : HaveCommon name (first :: messages) ↔
    first.headers.contains name = true ∧
      ∀ message ∈ messages, CarryEqual name first message := by
  constructor
  · intro common
    exact ⟨common.carried first List.mem_cons_self,
      (List.pairwise_cons.mp common.equal).1⟩
  · rintro ⟨carries, equal⟩
    constructor
    · intro message member
      rcases List.mem_cons.mp member with rfl | later
      · exact carries
      · obtain ⟨value, other, -, found, -⟩ := equal message later
        rw [Headers.contains, found, Option.isSome_some]
    · refine List.pairwise_cons.mpr
        ⟨equal, List.pairwise_of_forall_sublist fun {left right} both => ?_⟩
      have here : CarryEqual name first left :=
        equal left (both.subset (by simp))
      exact here.symm.trans (equal right (both.subset (by simp)))

theorem agrees_iff (carries : first.headers.get? name = some value)
    {message : Message} :
    agrees name value message = true ↔ CarryEqual name first message := by
  unfold agrees CarryEqual
  rw [carries]
  cases found : message.headers.get? name with
  | none => simp
  | some other =>
      constructor
      · exact fun same => ⟨value, other, rfl, rfl, HeaderValue.same_symm same⟩
      · rintro ⟨_, _, ⟨⟩, ⟨⟩, same⟩
        exact HeaderValue.same_symm same

theorem isSequenceHeader_eq_false_iff : isSequenceHeader name = false ↔
    name ≠ Header.sequenceNumber ∧ name ≠ Header.sequenceSize := by
  simp [isSequenceHeader]

theorem get?_commonHeaders_iff :
    (commonHeaders (first :: messages)).get? name = some value ↔
      isSequenceHeader name = false ∧ first.headers.get? name = some value ∧
        ∀ message ∈ messages, CarryEqual name first message := by
  rw [commonHeaders, Headers.get?_filter, Option.filter_eq_some_iff]
  simp only [Bool.and_eq_true, Bool.not_eq_true', List.all_eq_true]
  constructor
  · rintro ⟨carries, apart, agree⟩
    exact ⟨apart, carries,
      fun message member => (agrees_iff carries).mp (agree message member)⟩
  · rintro ⟨apart, carries, equal⟩
    exact ⟨carries, apart,
      fun message member => (agrees_iff carries).mpr (equal message member)⟩

theorem contains_commonHeaders_iff :
    (commonHeaders messages).contains name = true ↔
    isSequenceHeader name = false ∧ messages ≠ [] ∧
    HaveCommon name messages := by
  cases messages with
  | nil => simp [commonHeaders, Headers.contains]
  | cons first rest =>
      rw [Headers.contains, Option.isSome_iff_exists, haveCommon_cons_iff,
        Headers.contains, Option.isSome_iff_exists]
      simp only [get?_commonHeaders_iff]
      constructor
      · rintro ⟨value, apart, carries, equal⟩
        exact ⟨apart, List.cons_ne_nil first rest, ⟨value, carries⟩, equal⟩
      · rintro ⟨apart, -, ⟨value, carries⟩, equal⟩
        exact ⟨value, apart, carries, equal⟩

theorem inSequence_eq_of_perm {other : Group}
    (perm : other.unmarked.Perm group.unmarked)
    (distinct : (group.unmarked.map Message.sequenceNumber).Nodup) :
    inSequence other = inSequence group := by
  have here := arranges_inSequence group
  have there := arranges_inSequence other
  have numbers := here.perm.map Message.sequenceNumber
  exact eq_of_ascending (there.perm.trans (perm.trans here.perm.symm))
    (numbers.nodup_iff.mpr distinct) there.ascending here.ascending

/-- What is made of a group is one message. It has the payloads of the unmarked
members by number, those of one number in the order of arrival and those without
a number first. It has the headers that all unmarked members have with equal
values, apart from those on the sequence, with the values of the first. Marked
members do not matter, nor does the order of arrival where all numbers
differ. -/
theorem aggregate_unites (group : Group) (stamp : Stamp) :
    ∃ message arranged, aggregate group stamp = .single (.message message) ∧
      Arranges group arranged ∧
      (group.unmarked.filter fun member => member.sequenceNumber = 0) <+:
        arranged ∧
      message.payload = .array (arranged.map Message.payload) ∧
      (∀ name, message.headers.contains name = true ↔
        (name ≠ Header.sequenceNumber ∧ name ≠ Header.sequenceSize) ∧
        group.unmarked ≠ [] ∧
        HaveCommon name group.unmarked) ∧
      (∀ name value, message.headers.get? name = some value →
        ∃ first rest, arranged = first :: rest ∧
          first.headers.get? name = some value) ∧
      (group.unmarked = [] → message.payload = .array [] ∧
        message.headers = .empty) ∧
      ∀ (other : Group) (later : Stamp),
        (other.unmarked = group.unmarked ∨ other.unmarked.Perm group.unmarked ∧
          (group.unmarked.map Message.sequenceNumber).Nodup) →
          aggregate other later =
            .single (.message { message with stamp := later }) := by
  have arranges := arranges_inSequence group
  have perm := arranges.perm
  refine ⟨_, inSequence group, rfl, arranges, arranges.unnumbered_prefix, rfl,
    ?_, ?_, ?_, ?_⟩
  · intro name
    rw [contains_commonHeaders_iff, isSequenceHeader_eq_false_iff]
    refine and_congr_right fun _ => and_congr ?_
      ⟨fun common => common.perm perm, fun common => common.perm perm.symm⟩
    rw [ne_eq, ne_eq, ← List.length_eq_zero_iff, perm.length_eq,
      List.length_eq_zero_iff]
  · intro name value found
    cases arranged : inSequence group with
    | nil =>
        rw [arranged] at found
        exact absurd found nofun
    | cons first rest =>
        rw [arranged] at found
        exact ⟨first, rest, rfl, (get?_commonHeaders_iff.mp found).2.1⟩
  · intro none
    have nothing : inSequence group = [] := List.perm_nil.mp (none ▸ perm)
    rw [nothing]
    exact ⟨rfl, rfl⟩
  · intro other later same
    have arranged : inSequence other = inSequence group := by
      rcases same with same | ⟨perm, distinct⟩
      · rw [inSequence, same, inSequence]
      · exact inSequence_eq_of_perm perm distinct
    rw [aggregate, arranged]
    rfl

/-! A group with one marked member and two that are not, which have come in the
wrong order. Both are red, and they differ in shape. -/

def colored (number : Nat) (shape : String) : Message :=
  ((((Draft.ofPayload (.ofNat number)).header "color" (.text "red")).header
    "shape" (.text shape)).sequence number 3).build ⟨⟨number⟩, 0⟩

def halfMarked : Group :=
  { Group.empty ⟨"all"⟩ 0 0 with
    members := [colored 1 "line", colored 3 "disc", colored 2 "line"]
    markedCount := 1 }

theorem halfMarked_unites :
    ∃ message, aggregate halfMarked ⟨⟨7⟩, 0⟩ = .single (.message message) ∧
      message.payload = .array [.ofNat 2, .ofNat 3] ∧
      message.headers.contains "color" = true ∧
      message.headers.contains "shape" = false ∧
      message.headers.contains Header.sequenceNumber = false ∧
      ∀ other : Group, other.unmarked = [colored 2 "line", colored 3 "disc"] →
        aggregate other ⟨⟨7⟩, 0⟩ = aggregate halfMarked ⟨⟨7⟩, 0⟩ := by
  have unmarked : halfMarked.unmarked = [colored 3 "disc", colored 2 "line"] :=
    rfl
  obtain ⟨message, arranged, aggregated, arranges, -, payload,
      present, -, -, same⟩ :=
    aggregate_unites halfMarked ⟨⟨7⟩, 0⟩
  have swapped :
      halfMarked.unmarked.Perm [colored 2 "line", colored 3 "disc"] :=
    unmarked ▸ List.Perm.swap _ _ _
  have distinct : (halfMarked.unmarked.map Message.sequenceNumber).Nodup := by
    decide +kernel
  have inOrder : arranged = [colored 2 "line", colored 3 "disc"] :=
    eq_of_ascending (arranges.perm.trans swapped) (by decide +kernel)
      arranges.ascending (by decide +kernel)
  refine ⟨message, aggregated, payload.trans (by rw [inOrder]; rfl),
    ?_, ?_, ?_, ?_⟩
  · refine (present "color").mpr ⟨by decide, by simp [unmarked], ?_⟩
    rw [unmarked]
    exact haveCommon_cons_iff.mpr ⟨by decide +kernel, by
      simpa using ⟨.text "red", .text "red", rfl, rfl, rfl⟩⟩
  · refine Bool.eq_false_iff.mpr fun has => ?_
    obtain ⟨-, -, common⟩ := (present "shape").mp has
    rw [unmarked] at common
    obtain ⟨value, other, disc, line, equal⟩ :=
      (List.pairwise_pair.mp common.equal)
    obtain rfl : .text "disc" = value := Option.some.inj disc
    obtain rfl : .text "line" = other := Option.some.inj line
    exact absurd equal (by decide)
  · exact Bool.eq_false_iff.mpr fun has => ((present _).mp has).1.1 rfl
  · intro other otherUnmarked
    have turned : other.unmarked.Perm halfMarked.unmarked :=
      otherUnmarked ▸ swapped.symm
    exact (same other _ (.inr ⟨turned, distinct⟩)).trans
      (same halfMarked _ (.inl rfl)).symm

end Processing

end Collate
