import Collate.Header

namespace Collate

namespace Number.Binary64

variable {left middle right : Binary64}

theorem same_symm (equal : left.same right = true) :
    right.same left = true := by
  simp only [same, Bool.and_eq_true, Bool.or_eq_true, Bool.not_eq_true',
    decide_eq_true_eq] at equal ⊢
  obtain ⟨⟨leftNumber, rightNumber⟩, identical | ⟨leftZero, rightZero⟩⟩ := equal
  · exact ⟨⟨rightNumber, leftNumber⟩, .inl identical.symm⟩
  · exact ⟨⟨rightNumber, leftNumber⟩, .inr ⟨rightZero, leftZero⟩⟩

theorem same_trans (first : left.same middle = true)
    (second : middle.same right = true) : left.same right = true := by
  simp only [same, Bool.and_eq_true, Bool.or_eq_true, Bool.not_eq_true',
    decide_eq_true_eq] at *
  obtain ⟨⟨leftNumber, -⟩, rfl | ⟨leftZero, middleZero⟩⟩ := first
  · exact second
  · obtain ⟨⟨-, rightNumber⟩, rfl | ⟨-, rightZero⟩⟩ := second
    · exact ⟨⟨leftNumber, rightNumber⟩, .inr ⟨leftZero, middleZero⟩⟩
    · exact ⟨⟨leftNumber, rightNumber⟩, .inr ⟨leftZero, rightZero⟩⟩

end Number.Binary64

namespace Json

section Number

variable {left middle right : Json.Number}

theorem Number.same_symm (equal : left.same right = true) :
    right.same left = true := by
  cases left <;> cases right <;>
    simp only [Number.same, Bool.false_eq_true] at equal ⊢
  · exact decide_eq_true (of_decide_eq_true equal).symm
  · exact Number.Binary64.same_symm equal

theorem Number.same_trans (first : left.same middle = true)
    (second : middle.same right = true) : left.same right = true := by
  cases left <;> cases middle <;>
    simp only [Number.same, Bool.false_eq_true] at first
  · rw [of_decide_eq_true first]
    exact second
  · cases right <;> simp only [Number.same, Bool.false_eq_true] at second ⊢
    exact Number.Binary64.same_trans first second

end Number

variable {right : Json}

theorem null_same_iff : null.same right = true ↔ right = .null := by
  cases right <;> simp [same]

theorem bool_same_iff {value : Bool} :
    (bool value).same right = true ↔ right = .bool value := by
  cases right <;> simp [same, eq_comm]

theorem number_same_iff {value : Json.Number} :
    (number value).same right = true ↔
    ∃ other, right = .number other ∧ value.same other = true := by
  cases right <;> simp [same]

theorem text_same_iff {value : String} :
    (text value).same right = true ↔ right = .text value := by
  cases right <;> simp [same, eq_comm]

theorem array_same_iff {items : List Json} :
    (array items).same right = true ↔
      ∃ others, right = .array others ∧ sameItems items others = true := by
  cases right <;> simp [same]

theorem object_same_iff {fields : List (String × Json)} :
    (object fields).same right = true ↔
      ∃ others, right = .object others ∧ sameFields fields others = true := by
  cases right <;> simp [same]

theorem cons_sameItems_iff {item : Json} {items others : List Json} :
    sameItems (item :: items) others = true ↔
    ∃ other rest, others = other :: rest ∧
      item.same other = true ∧ sameItems items rest = true := by
  cases others with
  | nil => simp [sameItems]
  | cons other rest =>
      simp only [sameItems, Bool.and_eq_true]
      constructor
      · rintro ⟨equal, rests⟩
        exact ⟨other, rest, rfl, equal, rests⟩
      · rintro ⟨_, _, ⟨⟩, equal, rests⟩
        exact ⟨equal, rests⟩

theorem cons_sameFields_iff {name : String} {field : Json}
    {fields others : List (String × Json)} :
    sameFields ((name, field) :: fields) others = true ↔
    ∃ other rest, others = (name, other) :: rest ∧
      field.same other = true ∧ sameFields fields rest = true := by
  rcases others with - | ⟨⟨otherName, other⟩, rest⟩
  · simp [sameFields]
  · simp only [sameFields, Bool.and_eq_true, decide_eq_true_eq]
    constructor
    · rintro ⟨⟨rfl, equal⟩, rests⟩
      exact ⟨other, rest, rfl, equal, rests⟩
    · rintro ⟨_, _, ⟨⟩, equal, rests⟩
      exact ⟨⟨rfl, equal⟩, rests⟩

/-! The induction is on the first document, with one statement for each kind of
its parts. -/

mutual

theorem same_symm :
    ∀ {left right : Json}, left.same right = true → right.same left = true
  | .null, right, equal => by
      rw [null_same_iff.mp equal]
      rfl
  | .bool value, right, equal => by
      rw [bool_same_iff.mp equal]
      exact bool_same_iff.mpr rfl
  | .number value, right, equal => by
      obtain ⟨other, rfl, equal⟩ := number_same_iff.mp equal
      exact number_same_iff.mpr ⟨value, rfl, Number.same_symm equal⟩
  | .text value, right, equal => by
      rw [text_same_iff.mp equal]
      exact text_same_iff.mpr rfl
  | .array items, right, equal => by
      obtain ⟨others, rfl, equal⟩ := array_same_iff.mp equal
      exact array_same_iff.mpr ⟨items, rfl, sameItems_symm equal⟩
  | .object fields, right, equal => by
      obtain ⟨others, rfl, equal⟩ := object_same_iff.mp equal
      exact object_same_iff.mpr ⟨fields, rfl, sameFields_symm equal⟩

theorem sameItems_symm : ∀ {items others : List Json},
    sameItems items others = true → sameItems others items = true
  | [], others, equal => by
      cases others with
      | nil => rfl
      | cons other rest => simp [sameItems] at equal
  | item :: items, others, equal => by
      obtain ⟨other, rest, rfl, heads, tails⟩ := cons_sameItems_iff.mp equal
      exact cons_sameItems_iff.mpr ⟨item, items, rfl, same_symm heads,
        sameItems_symm tails⟩

theorem sameFields_symm : ∀ {fields others : List (String × Json)},
    sameFields fields others = true → sameFields others fields = true
  | [], others, equal => by
      cases others with
      | nil => rfl
      | cons other rest => simp [sameFields] at equal
  | (name, field) :: fields, others, equal => by
      obtain ⟨other, rest, rfl, heads, tails⟩ := cons_sameFields_iff.mp equal
      exact cons_sameFields_iff.mpr ⟨field, fields, rfl, same_symm heads,
        sameFields_symm tails⟩

end

mutual

theorem same_trans : ∀ {left middle right : Json}, left.same middle = true →
    middle.same right = true → left.same right = true
  | .null, middle, right, first, second => by
      rwa [null_same_iff.mp first] at second
  | .bool value, middle, right, first, second => by
      rwa [bool_same_iff.mp first] at second
  | .number value, middle, right, first, second => by
      obtain ⟨between, rfl, first⟩ := number_same_iff.mp first
      obtain ⟨other, rfl, second⟩ := number_same_iff.mp second
      exact number_same_iff.mpr ⟨other, rfl, Number.same_trans first second⟩
  | .text value, middle, right, first, second => by
      rwa [text_same_iff.mp first] at second
  | .array items, middle, right, first, second => by
      obtain ⟨between, rfl, first⟩ := array_same_iff.mp first
      obtain ⟨others, rfl, second⟩ := array_same_iff.mp second
      exact array_same_iff.mpr ⟨others, rfl, sameItems_trans first second⟩
  | .object fields, middle, right, first, second => by
      obtain ⟨between, rfl, first⟩ := object_same_iff.mp first
      obtain ⟨others, rfl, second⟩ := object_same_iff.mp second
      exact object_same_iff.mpr ⟨others, rfl, sameFields_trans first second⟩

theorem sameItems_trans :
    ∀ {items between others : List Json}, sameItems items between = true →
      sameItems between others = true → sameItems items others = true
  | [], between, others, first, second => by
      cases between with
      | nil => exact second
      | cons item rest => simp [sameItems] at first
  | item :: items, between, others, first, second => by
      obtain ⟨middle, rest, rfl, firstHeads, firstTails⟩ :=
        cons_sameItems_iff.mp first
      obtain ⟨other, last, rfl, secondHeads, secondTails⟩ :=
        cons_sameItems_iff.mp second
      exact cons_sameItems_iff.mpr ⟨other, last, rfl, same_trans firstHeads
        secondHeads, sameItems_trans firstTails secondTails⟩

theorem sameFields_trans : ∀ {fields between others : List (String × Json)},
    sameFields fields between = true → sameFields between others = true →
      sameFields fields others = true
  | [], between, others, first, second => by
      cases between with
      | nil => exact second
      | cons field rest => simp [sameFields] at first
  | (name, field) :: fields, between, others, first, second => by
      obtain ⟨middle, rest, rfl, firstHeads, firstTails⟩ :=
        cons_sameFields_iff.mp first
      obtain ⟨other, last, rfl, secondHeads, secondTails⟩ :=
        cons_sameFields_iff.mp second
      exact cons_sameFields_iff.mpr ⟨other, last, rfl, same_trans firstHeads
        secondHeads, sameFields_trans firstTails secondTails⟩

end

end Json

namespace HeaderValue

variable {left middle right : HeaderValue}

theorem same_symm (equal : left.same right = true) :
    right.same left = true := by
  cases left <;> cases right <;>
    simp only [same, Bool.false_eq_true, decide_eq_true_eq] at equal ⊢
  case json.json => exact Json.same_symm equal
  all_goals exact equal.symm

theorem same_trans (first : left.same middle = true)
    (second : middle.same right = true) : left.same right = true := by
  cases left <;> cases middle <;>
    simp only [same, Bool.false_eq_true, decide_eq_true_eq] at first
  case json.json =>
    cases right <;> simp only [same, Bool.false_eq_true] at second ⊢
    exact Json.same_trans first second
  all_goals rwa [first]

end HeaderValue

end Collate
