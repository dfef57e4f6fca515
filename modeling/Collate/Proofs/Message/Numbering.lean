import Collate.Message
import Collate.Proofs.Number.Written

namespace Collate

open Number (Writes unsigned32Limit)

variable {value : HeaderValue} {headers : Headers} {message : Message}
  {draft : Draft} {entries further : List (String × HeaderValue)}
  {name : String} {number size : Nat}

/-- A value is a number, or the text of its decimal digits, which a plus may
precede. -/
inductive HeaderValue.Tells : HeaderValue → Nat → Prop where
  | integer (number : Nat) : Tells (.integer number) number
  | digits {text : String} {number : Nat} (writes : Writes text.toList number) :
      Tells (.text text) number
  | signed {text : String} {digits : List Char} {number : Nat}
      (isSigned : text.toList = '+' :: digits) (writes : Writes digits number) :
      Tells (.text text) number

namespace HeaderValue

theorem tells_text_iff {text : String} :
    (HeaderValue.text text).Tells number ↔
    Writes text.toList number ∨
    ∃ digits, text.toList = '+' :: digits ∧ Writes digits number := by
  constructor
  · rintro (_ | writes | ⟨isSigned, writes⟩)
    · exact Or.inl writes
    · exact Or.inr ⟨_, isSigned, writes⟩
  · rintro (writes | ⟨digits, isSigned, writes⟩)
    · exact .digits writes
    · exact .signed isSigned writes

theorem Tells.integer?_eq (tells : value.Tells number)
    (below : number < unsigned32Limit) :
    value.integer? = some (number : Int) := by
  have limit : unsigned32Limit = 4294967296 := rfl
  have within : Number.leastSigned ≤ number ∧
      (number : Int) < Number.signedLimit := by
    have least : Number.leastSigned = -9223372036854775808 := rfl
    have greatest : Number.signedLimit = 9223372036854775808 := rfl
    omega
  cases tells with
  | integer => rfl
  | digits writes =>
      exact Number.signed64?_eq_some_iff.mpr
        ⟨Number.integer?_of_writes writes, within⟩
  | signed isSigned writes =>
      refine Number.signed64?_eq_some_iff.mpr ⟨?_, within⟩
      rw [isSigned]
      exact Number.integer?_of_signed writes

theorem tells_of_integer? (positive : 0 < number)
    (reads : value.integer? = some (number : Int)) :
    value.Tells number := by
  cases value with
  | text text =>
      obtain ⟨isInteger, -⟩ := Number.signed64?_eq_some_iff.mp reads
      exact tells_text_iff.mpr
        ((Number.integer?_eq_some_iff_of_pos positive).mp isInteger)
  | integer value =>
      obtain rfl : value = number := Option.some.inj reads
      exact .integer number
  | bool value => exact absurd reads nofun
  | json value => exact absurd reads nofun
  | channel channel => exact absurd reads nofun

end HeaderValue

namespace Headers

def Tells (headers : Headers) (name : String) (number : Nat) : Prop :=
  number < unsigned32Limit ∧
    ∃ value, headers.get? name = some value ∧ value.Tells number

theorem number_eq_getD (headers : Headers) (name : String) :
    headers.number name = (((headers.get? name).bind HeaderValue.integer?).bind
      Number.unsigned32?).getD 0 := by
  rw [Headers.number]
  cases (headers.get? name).bind HeaderValue.integer? <;> rfl

theorem Tells.number_eq (tells : headers.Tells name number) :
    headers.number name = number := by
  obtain ⟨below, value, isThere, tells⟩ := tells
  rw [number_eq_getD, isThere, Option.bind_some, tells.integer?_eq below,
    Option.bind_some, Number.unsigned32?_eq_some_iff.mpr ⟨rfl, below⟩,
    Option.getD_some]

theorem number_eq_iff (positive : 0 < number) :
    headers.number name = number ↔ headers.Tells name number := by
  refine ⟨fun isRead => ?_, Tells.number_eq⟩
  rw [number_eq_getD] at isRead
  cases reads : ((headers.get? name).bind HeaderValue.integer?).bind
    Number.unsigned32? with
  | none =>
      rw [reads, Option.getD_none] at isRead
      exact absurd isRead.symm (Nat.ne_of_gt positive)
  | some found =>
      obtain rfl : found = number := by rwa [reads, Option.getD_some] at isRead
      obtain ⟨integer, isInteger, inRange⟩ := Option.bind_eq_some_iff.mp reads
      obtain ⟨value, isThere, isValue⟩ := Option.bind_eq_some_iff.mp isInteger
      obtain ⟨rfl, below⟩ := Number.unsigned32?_eq_some_iff.mp inRange
      exact ⟨below, value, isThere,
        HeaderValue.tells_of_integer? positive isValue⟩

theorem number_eq_zero
    (silent : ∀ number, 0 < number → ¬ headers.Tells name number) :
    headers.number name = 0 := by
  by_contra isRead
  have positive : 0 < headers.number name := Nat.pos_of_ne_zero isRead
  exact silent _ positive ((number_eq_iff positive).mp rfl)

example :
    (["", "+", "-", "+-7", " 7", "7 ", "-7", "4294967296",
      "9223372036854775808"].map fun text =>
        (Headers.empty.set "n" (.text text)).number "n") =
          List.replicate 9 0 := by decide +kernel

end Headers

namespace Draft

def headed (draft : Draft) (entries : List (String × HeaderValue)) : Draft :=
  entries.foldl (fun draft entry => draft.header entry.1 entry.2) draft

theorem get?_headed_of_not_mem (absent : name ∉ entries.map Prod.fst) :
    (draft.headed entries).headers.get? name = draft.headers.get? name := by
  induction entries generalizing draft with
  | nil => rfl
  | cons entry rest induction =>
      obtain ⟨different, later⟩ := not_or.mp (mt List.mem_cons.mpr absent)
      exact (induction later).trans (Headers.get?_set_of_ne _ different entry.2)

theorem exists_get?_headed (present : name ∈ entries.map Prod.fst)
    (draft : Draft) :
    ∃ value, (name, value) ∈ entries ∧
      (draft.headed entries).headers.get? name = some value := by
  induction entries generalizing draft with
  | nil => exact absurd present List.not_mem_nil
  | cons entry rest induction =>
      by_cases again : name ∈ rest.map Prod.fst
      · obtain ⟨value, isSet, isThere⟩ :=
          induction again (draft.header entry.1 entry.2)
        exact ⟨value, List.mem_cons_of_mem _ isSet, isThere⟩
      · obtain rfl : name = entry.1 :=
          (List.mem_cons.mp present).resolve_right again
        exact ⟨entry.2, List.mem_cons_self,
          (get?_headed_of_not_mem again).trans (Headers.get?_set_self _ _ _)⟩

/-- Under a name, a number is set, and nothing else. -/
structure Sets (entries : List (String × HeaderValue)) (name : String)
    (number : Nat) : Prop where
  present : name ∈ entries.map Prod.fst
  tells : ∀ value, (name, value) ∈ entries → value.Tells number

theorem Sets.tells_headed (sets : Sets entries name number)
    (below : number < unsigned32Limit) (draft : Draft) :
    (draft.headed entries).headers.Tells name number := by
  obtain ⟨value, isSet, isThere⟩ := exists_get?_headed sets.present draft
  exact ⟨below, value, isThere, sets.tells value isSet⟩

theorem Sets.cons_self (tells : value.Tells number)
    (absent : name ∉ further.map Prod.fst) :
    Sets ((name, value) :: further) name number where
  present := List.mem_cons_self
  tells other isSet := by
    rcases List.mem_cons.mp isSet with same | later
    · rwa [(Prod.mk.inj same).2]
    · exact absurd (List.mem_map_of_mem later) absent

theorem Sets.cons_of_ne (sets : Sets further name number) {other : String}
    (different : name ≠ other) (value : HeaderValue) :
    Sets ((other, value) :: further) name number where
  present := List.mem_cons_of_mem _ sets.present
  tells told isSet := by
    rcases List.mem_cons.mp isSet with same | later
    · exact absurd (Prod.mk.inj same).1 different
    · exact sets.tells told later

end Draft

structure Message.HasPlace (message : Message) (number size : Nat) : Prop where
  number_eq : message.sequenceNumber = number
  size_eq : message.sequenceSize = size

structure LeavesPlace (entries : List (String × HeaderValue)) : Prop where
  number : Header.sequenceNumber ∉ entries.map Prod.fst
  size : Header.sequenceSize ∉ entries.map Prod.fst

/-- The messages that a draft makes have a place, and so have those that are
made from them with other headers. -/
def Draft.Places (draft : Draft) (number size : Nat) : Prop :=
  ∀ stamp, (draft.build stamp).HasPlace number size ∧
    ∀ further later, LeavesPlace further →
      (((Draft.ofMessage (draft.build stamp)).headed further).build
        later).HasPlace number size

theorem Message.HasPlace.copy (place : message.HasPlace number size)
    (leaves : LeavesPlace further) (stamp : Stamp) :
    (((Draft.ofMessage message).headed further).build stamp).HasPlace
      number size where
  number_eq := by
    rw [← place.number_eq]
    simp only [sequenceNumber, Headers.sequenceNumber, Headers.number,
      Draft.build, Draft.get?_headed_of_not_mem leaves.number, Draft.ofMessage]
  size_eq := by
    rw [← place.size_eq]
    simp only [sequenceSize, Headers.sequenceSize, Headers.number, Draft.build,
      Draft.get?_headed_of_not_mem leaves.size, Draft.ofMessage]

namespace Draft

theorem places_headed (isNumber : number < unsigned32Limit)
    (isSize : size < unsigned32Limit)
    (numbered : Sets entries Header.sequenceNumber number)
    (sized : Sets entries Header.sequenceSize size) (draft : Draft) :
    (draft.headed entries).Places number size := fun stamp =>
      have place : ((draft.headed entries).build stamp).HasPlace number size :=
        ⟨(numbered.tells_headed isNumber draft).number_eq,
          (sized.tells_headed isSize draft).number_eq⟩
      ⟨place, fun _ later leaves => place.copy leaves later⟩

theorem places_of_tells {length : HeaderValue}
    (isNumber : number < unsigned32Limit)
    (isSize : size < unsigned32Limit) (numbered : value.Tells number)
    (sized : length.Tells size) (leaves : LeavesPlace further) (draft : Draft) :
    (((draft.header Header.sequenceNumber value).header Header.sequenceSize
      length).headed further).Places number size := by
  have different : Header.sequenceNumber ≠ Header.sequenceSize := by decide
  have setsSize : Sets ((Header.sequenceSize, length) :: further)
        Header.sequenceSize size :=
    .cons_self sized leaves.size
  have setsNumber : Sets
    ((Header.sequenceNumber, value) :: (Header.sequenceSize, length) :: further)
      Header.sequenceNumber number := by
    refine .cons_self numbered fun present => ?_
    exact (List.mem_cons.mp present).elim different leaves.number
  exact places_headed isNumber isSize setsNumber
    (setsSize.cons_of_ne different.symm value) draft

end Draft

/-- A positive number is read as the place of a message in its sequence exactly
if the header for it is that number, or the text of its decimal digits, with
zeros in front or not and behind a plus or not, and has 32 bits; from all other
headers zero is read. The same is true of the length of the sequence. So what a
draft is told, as numbers or as texts, is read back from the messages that it
makes and from those that are made from them, whatever other headers they
get. -/
theorem place_told_is_read :
    (∀ (message : Message) (number : Nat), 0 < number →
      (message.sequenceNumber = number ↔
        message.headers.Tells Header.sequenceNumber number) ∧
      (message.sequenceSize = number ↔
        message.headers.Tells Header.sequenceSize number)) ∧
    (∀ message : Message,
      ((∀ number, 0 < number →
        ¬ message.headers.Tells Header.sequenceNumber number) →
        message.sequenceNumber = 0) ∧
        ((∀ number, 0 < number →
          ¬ message.headers.Tells Header.sequenceSize number) →
          message.sequenceSize = 0)) ∧
    ∀ (draft : Draft) (number size : Nat), number < unsigned32Limit →
      size < unsigned32Limit →
      (∀ further, LeavesPlace further →
        ((draft.sequence number size).headed further).Places number size ∧
        (((draft.header Header.sequenceNumber (.text (toString number))).header
          Header.sequenceSize (.text (toString size))).headed further).Places
        number size) ∧
      ∀ entries, Draft.Sets entries Header.sequenceNumber number →
        Draft.Sets entries Header.sequenceSize size →
        (draft.headed entries).Places number size := by
  refine ⟨fun message number positive => ⟨?_, ?_⟩, fun message => ⟨?_, ?_⟩,
    fun draft number size isNumber isSize =>
      ⟨fun further leaves => ⟨?_, ?_⟩, ?_⟩⟩
  · exact Headers.number_eq_iff positive
  · exact Headers.number_eq_iff positive
  · exact Headers.number_eq_zero
  · exact Headers.number_eq_zero
  · exact Draft.places_of_tells isNumber isSize (.integer number)
      (.integer size) leaves draft
  · exact Draft.places_of_tells isNumber isSize
      (.digits (Number.writes_toString number))
      (.digits (Number.writes_toString size)) leaves draft
  · exact fun _ numbered sized =>
      Draft.places_headed isNumber isSize numbered sized draft

/-! A place in texts, of which one has a plus and zeros, among other headers. -/

def seventhOfNine : List (String × HeaderValue) :=
  [("tenant", .text "acme"), (Header.sequenceSize, .text "9"),
    (Header.sequenceNumber, .text "+007")]

theorem seventhOfNine_is_read :
    ((Draft.ofPayload .null).headed seventhOfNine).Places 7 9 := by
  obtain ⟨-, -, asTold⟩ := place_told_is_read
  have writes : Writes "007".toList 7 :=
    Number.natural?_eq_some_iff.mp (by decide)
  refine (asTold (Draft.ofPayload .null) 7 9 (by decide) (by decide)).2
    seventhOfNine ⟨by decide, fun value isSet => ?_⟩
    ⟨by decide, fun value isSet => ?_⟩
  · obtain rfl : value = .text "+007" := by
      simpa [seventhOfNine, Header.sequenceNumber, Header.sequenceSize]
        using isSet
    exact .signed rfl writes
  · obtain rfl : value = .text "9" := by
      simpa [seventhOfNine, Header.sequenceNumber, Header.sequenceSize]
        using isSet
    exact .digits (Number.writes_toString 9)

end Collate
