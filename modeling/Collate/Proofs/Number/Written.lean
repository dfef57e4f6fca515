import Collate.Number.Integer
import Collate.Text.Blank
import Mathlib.Tactic.Common

namespace Collate.Number

/-- Decimal digits, of which there is at least one, and the number that they
write. -/
structure Writes (digits : List Char) (value : Nat) : Prop where
  nonempty : digits ≠ []
  decimal : ∀ character ∈ digits, character.isDigit = true
  value_eq : Nat.ofDigitChars 10 digits 0 = value

theorem writes_toString (value : Nat) :
    Writes (toString value).toList value := by
  rw [Nat.toString_eq_ofList_toDigits, String.toList_ofList]
  exact
    { nonempty := Nat.toDigits_ne_nil
      decimal := fun _ isDigit =>
        Nat.isDigit_of_mem_toDigits (by decide) (by decide) isDigit
      value_eq := Nat.ofDigitChars_ten_toDigits }

variable {characters digits : List Char} {value : Nat}

theorem digitsFrom?_eq_some_iff {start : Nat} :
    digitsFrom? start characters = some value ↔
    (∀ character ∈ characters, character.isDigit = true) ∧
    Nat.ofDigitChars 10 characters start = value := by
  induction characters generalizing start with
  | nil => simp [digitsFrom?, Nat.ofDigitChars_nil]
  | cons character rest induction =>
      rw [digitsFrom?, List.forall_mem_cons, Nat.ofDigitChars_cons]
      by_cases isDigit : character.isDigit
      · simp only [digit?, isDigit, if_true, induction, true_and]
      · simp [digit?, isDigit]

theorem natural?_eq_some_iff :
    natural? characters = some value ↔ Writes characters value := by
  cases characters with
  | nil => exact ⟨nofun, fun writes => absurd rfl writes.nonempty⟩
  | cons character rest =>
      have reads : natural? (character :: rest) =
            digitsFrom? 0 (character :: rest) := rfl
      rw [reads, digitsFrom?_eq_some_iff]
      exact ⟨fun ⟨decimal, value⟩ => ⟨List.cons_ne_nil _ _, decimal, value⟩,
        fun writes => ⟨writes.decimal, writes.value_eq⟩⟩

theorem Writes.unsigned (writes : Writes characters value) (sign : Char)
    (isSign : sign.isDigit = false) (rest : List Char) :
    characters ≠ sign :: rest := by
  rintro rfl
  have isDigit := writes.decimal sign List.mem_cons_self
  rw [isSign] at isDigit
  exact Bool.false_ne_true isDigit

theorem integer?_of_writes (writes : Writes characters value) :
    integer? characters = some (value : Int) := by
  unfold integer?
  split
  · exact absurd rfl (writes.unsigned '+' (by decide) _)
  · exact absurd rfl (writes.unsigned '-' (by decide) _)
  · rw [natural?_eq_some_iff.mpr writes]
    rfl

theorem integer?_of_signed (writes : Writes digits value) :
    integer? ('+' :: digits) = some (value : Int) := by
  rw [integer?, natural?_eq_some_iff.mpr writes]
  rfl

theorem integer?_eq_some_iff_of_pos (positive : 0 < value) :
    integer? characters = some (value : Int) ↔
    Writes characters value ∨
    ∃ digits, characters = '+' :: digits ∧ Writes digits value := by
  constructor
  · intro reads
    unfold integer? at reads
    split at reads
    · obtain ⟨number, isNumber, same⟩ := Option.map_eq_some_iff.mp reads
      obtain rfl : number = value := Int.ofNat.inj same
      exact Or.inr ⟨_, rfl, natural?_eq_some_iff.mp isNumber⟩
    · obtain ⟨number, -, same⟩ := Option.map_eq_some_iff.mp reads
      have below : -Int.ofNat number ≤ 0 :=
        Int.neg_nonpos_of_nonneg (Int.natCast_nonneg number)
      omega
    · obtain ⟨number, isNumber, same⟩ := Option.map_eq_some_iff.mp reads
      obtain rfl : number = value := Int.ofNat.inj same
      exact Or.inl (natural?_eq_some_iff.mp isNumber)
  · rintro (writes | ⟨digits, rfl, writes⟩)
    · exact integer?_of_writes writes
    · exact integer?_of_signed writes

theorem toList_toString_negSucc (value : Nat) :
    (toString (Int.negSucc value)).toList =
      '-' :: (toString (value + 1)).toList := by
  change ("-" ++ (value + 1).repr).toList = _
  rw [String.toList_append]
  rfl

theorem integer?_toString (value : Int) :
    integer? (toString value).toList = some value := by
  cases value with
  | ofNat value => exact integer?_of_writes (writes_toString value)
  | negSucc value =>
      rw [toList_toString_negSucc, integer?,
        natural?_eq_some_iff.mpr (writes_toString (value + 1))]
      rfl

theorem exists_isDigit_toString (value : Int) :
    ∃ character ∈ (toString value).toList, character.isDigit = true := by
  have natural : ∀ value : Nat,
      ∃ character ∈ (toString value).toList, character.isDigit = true := by
    intro value
    have writes := writes_toString value
    obtain ⟨character, isThere⟩ := List.exists_mem_of_ne_nil _ writes.nonempty
    exact ⟨character, isThere, writes.decimal character isThere⟩
  cases value with
  | ofNat value => exact natural value
  | negSucc value =>
      obtain ⟨character, isThere, isDigit⟩ := natural (value + 1)
      exact ⟨character,
        toList_toString_negSucc value ▸ List.mem_cons_of_mem _ isThere, isDigit⟩

theorem isAlpha_of_isDigit {character : Char}
    (isDigit : character.isDigit = true) : character.isAlpha = false := by
  obtain ⟨-, atMost⟩ := Char.isDigit_iff_toNat.mp isDigit
  have nine : '9'.toNat = 57 := rfl
  rw [Bool.eq_false_iff, ne_eq, Text.isAlpha_iff_toNat]
  omega

theorem isAlpha_of_integer? {first : Char} {rest : List Char} {value : Int}
    (reads : integer? (first :: rest) = some value) :
    first.isAlpha = false := by
  unfold integer? at reads
  split at reads
  · rename_i same
    rw [(List.cons.inj same).1]
    decide
  · rename_i same
    rw [(List.cons.inj same).1]
    decide
  · obtain ⟨number, isNumber, -⟩ := Option.map_eq_some_iff.mp reads
    exact isAlpha_of_isDigit
      ((natural?_eq_some_iff.mp isNumber).decimal first List.mem_cons_self)

theorem signed64?_eq_some_iff {text : String} {value : Int} :
    signed64? text = some value ↔
    integer? text.toList = some value ∧ leastSigned ≤ value ∧
    value < signedLimit := by
  rw [signed64?, Option.filter_eq_some_iff, Bool.and_eq_true, decide_eq_true_eq,
    decide_eq_true_eq]

theorem unsigned32?_eq_some_iff {value : Int} {number : Nat} :
    unsigned32? value = some number ↔
    value = number ∧ number < unsigned32Limit := by
  rw [unsigned32?]
  split
  · rename_i within
    rw [Bool.and_eq_true, decide_eq_true_eq, decide_eq_true_eq] at within
    rw [Option.some.injEq]
    omega
  · rename_i beyond
    rw [Bool.and_eq_true, decide_eq_true_eq, decide_eq_true_eq] at beyond
    refine ⟨nofun, fun ⟨same, below⟩ => absurd ?_ beyond⟩
    omega

end Collate.Number
