namespace Collate.Text

/-- The code points with the `White_Space` property, as inclusive ranges. -/
def blankRanges : List (Nat × Nat) :=
  [(0x9, 0xD), (0x20, 0x20), (0x85, 0x85), (0xA0, 0xA0), (0x1680, 0x1680),
    (0x2000, 0x200A), (0x2028, 0x2029), (0x202F, 0x202F), (0x205F, 0x205F),
    (0x3000, 0x3000)]

def isBlank (character : Char) : Bool :=
  blankRanges.any
    fun range => range.1 ≤ character.toNat && character.toNat ≤ range.2

def isBlankText (text : String) : Bool :=
  text.toList.all isBlank

theorem isAlpha_iff_toNat {character : Char} : character.isAlpha = true ↔
    (65 ≤ character.toNat ∧ character.toNat ≤ 90) ∨
      (97 ≤ character.toNat ∧ character.toNat ≤ 122) := by
  have upper : character.isUpper = true ↔ 65 ≤ character.toNat ∧
      character.toNat ≤ 90 :=
    decide_eq_true_iff
  have lower : character.isLower = true ↔ 97 ≤ character.toNat ∧
      character.toNat ≤ 122 := by
    change (decide (97 ≤ character.toNat) && decide (character.toNat ≤ 122)) =
      true ↔ _
    rw [Bool.and_eq_true, decide_eq_true_eq, decide_eq_true_eq]
  rw [← upper, ← lower]
  exact Bool.or_eq_true_iff

theorem isBlank_of_isAlphanum {character : Char}
    (isAlphanum : character.isAlphanum = true) : isBlank character = false := by
  have within : 48 ≤ character.toNat ∧ character.toNat ≤ 122 := by
    rcases Bool.or_eq_true_iff.mp isAlphanum with isAlpha | isDigit
    · rw [isAlpha_iff_toNat] at isAlpha
      omega
    · rw [Char.isDigit_iff_toNat] at isDigit
      have zero : '0'.toNat = 48 := rfl
      have nine : '9'.toNat = 57 := rfl
      omega
  have apart : ∀ range ∈ blankRanges, range.2 < 48 ∨ 122 < range.1 := by decide
  refine List.any_eq_false.mpr fun range isRange => ?_
  have outside := apart range isRange
  rw [Bool.and_eq_true, decide_eq_true_eq, decide_eq_true_eq]
  omega

theorem isBlankText_of_isAlphanum {text : String} {character : Char}
    (isThere : character ∈ text.toList)
    (isAlphanum : character.isAlphanum = true) : isBlankText text = false := by
  refine List.all_eq_false.mpr ⟨character, isThere, ?_⟩
  rw [isBlank_of_isAlphanum isAlphanum]
  exact Bool.false_ne_true

def trim (characters : List Char) : List Char :=
  ((characters.dropWhile isBlank).reverse.dropWhile isBlank).reverse

end Collate.Text
