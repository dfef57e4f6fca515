import Collate.Number.Shortest

namespace Collate.Number

structure Layout where
  tie : Tie
  positional : Option (Int × Int)
  wholeEnd : String
  powerMark : String × String
  notANumber : String
  infinite : String

private def digitText (digits : List Nat) : String :=
  String.join (digits.map fun digit => toString digit)

private def zeros (count : Nat) : String :=
  String.ofList (List.replicate count '0')

private def Layout.positionalText (layout : Layout)
    (decimal : Decimal) : String :=
  let count := decimal.digits.length
  if decimal.exponent < 0 then
    "0." ++ zeros ((-decimal.exponent).toNat - 1) ++ digitText decimal.digits
  else
    let whole := decimal.exponent.toNat + 1
    if count ≤ whole then
      digitText decimal.digits ++ zeros (whole - count) ++ layout.wholeEnd
    else
      digitText (decimal.digits.take whole) ++ "." ++
        digitText (decimal.digits.drop whole)

private def Layout.scientificText (layout : Layout)
    (decimal : Decimal) : String :=
  let mark :=
    if decimal.exponent < 0 then layout.powerMark.2 else layout.powerMark.1
  let fraction := decimal.digits.drop 1
  digitText (decimal.digits.take 1) ++
    (if fraction.isEmpty then "" else "." ++ digitText fraction) ++
    mark ++ toString decimal.exponent.natAbs

private def Layout.magnitudeText (layout : Layout)
    (number : Binary64) : String :=
  if number.isZero then "0" ++ layout.wholeEnd
  else if number.isInfinite then layout.infinite
  else
    let decimal := number.shortest layout.tie
    let isPositional := match layout.positional with
      | some (least, greatest) =>
          least ≤ decimal.exponent && decimal.exponent ≤ greatest
      | none => true
    if isPositional then layout.positionalText decimal
    else layout.scientificText decimal

def Layout.text (layout : Layout) (number : Binary64) : String :=
  if number.isNaN then layout.notANumber
  else (if number.isNegative then "-" else "") ++ layout.magnitudeText number

/-- Numbers in documents: always with a point or a power of ten, and a power of
ten from `1e+16` up and from `1e-6` down. -/
def Layout.document : Layout where
  tie := .even
  positional := some (-5, 15)
  wholeEnd := ".0"
  powerMark := ("e+", "e-")
  notANumber := "null"
  infinite := "null"

/-- Numbers in plain text: never a power of ten, and no point after a whole
number. -/
def Layout.plain : Layout where
  tie := .away
  positional := none
  wholeEnd := ""
  powerMark := ("e", "e-")
  notANumber := "NaN"
  infinite := "inf"

private theorem exists_alphanum_digitText {digits : List Nat}
    (some : digits ≠ []) :
    ∃ character ∈ (digitText digits).toList, character.isAlphanum = true := by
  obtain ⟨digit, rest, rfl⟩ := List.exists_cons_of_ne_nil some
  obtain ⟨character, written⟩ :=
    List.exists_mem_of_ne_nil (Nat.toDigits 10 digit) Nat.toDigits_ne_nil
  have isDigit := Nat.isDigit_of_mem_toDigits (by decide) (by decide) written
  refine ⟨character, ?_, by rw [Char.isAlphanum, isDigit, Bool.or_true]⟩
  rw [digitText, List.map_cons, String.join_cons, String.toList_append,
    Nat.toString_eq_ofList_toDigits, String.toList_ofList]
  exact List.mem_append_left _ written

private theorem Layout.exists_alphanum_positionalText (layout : Layout)
    (decimal : Decimal) :
    ∃ character ∈ (layout.positionalText decimal).toList,
      character.isAlphanum = true := by
  rw [positionalText]
  dsimp only
  split
  · exact ⟨'0', by simp, by decide⟩
  · split
    · by_cases none : decimal.digits = []
      · exact ⟨'0', by simp [none, zeros], by decide⟩
      · obtain ⟨character, written, isAlphanum⟩ :=
          exists_alphanum_digitText none
        exact ⟨character, by simp [written], isAlphanum⟩
    · rename_i longer
      have some : decimal.digits.take (decimal.exponent.toNat + 1) ≠ [] := by
        intro empty
        have short := congrArg List.length empty
        rw [List.length_take, List.length_nil] at short
        omega
      obtain ⟨character, written, isAlphanum⟩ := exists_alphanum_digitText some
      exact ⟨character, by simp [written], isAlphanum⟩

theorem Layout.exists_alphanum_plain_text (number : Binary64) :
    ∃ character ∈ (plain.text number).toList, character.isAlphanum = true := by
  rw [text]
  split
  · exact ⟨'N', by decide, by decide⟩
  · obtain ⟨character, written, isAlphanum⟩ :
        ∃ character ∈ (plain.magnitudeText number).toList,
          character.isAlphanum = true := by
      rw [magnitudeText]
      split
      · exact ⟨'0', by decide, by decide⟩
      · split
        · exact ⟨'i', by decide, by decide⟩
        · exact exists_alphanum_positionalText plain _
    exact ⟨character, by simp [written], isAlphanum⟩

end Collate.Number
