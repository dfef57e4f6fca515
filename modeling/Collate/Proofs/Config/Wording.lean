import Collate.Config.Environment
import Collate.Proofs.Number.Written
import Collate.Text.Blank

namespace Collate.Config

open Number (Layout float? signed64? leastSigned signedLimit)

variable {text header : String}

def IsTruth (text : String) : Prop :=
  text.toLower = "true" ∨ text.toLower = "false"

/-- What a text is written as: truth values in small letters, numbers of 64 bits
in their digits, others as they are. -/
inductive Rewrites : String → String → Prop where
  | truth {text : String} (isTruth : IsTruth text) : Rewrites text text.toLower
  | integer {text : String} {value : Int} (noTruth : ¬ IsTruth text)
      (isInteger : signed64? text = some value) : Rewrites text (toString value)
  | real {text : String} {value : Number.Binary64} (noTruth : ¬ IsTruth text)
      (noInteger : signed64? text = none) (isReal : float? text = some value) :
      Rewrites text (Layout.plain.text value)
  | verbatim {text : String} (noTruth : ¬ IsTruth text)
      (noInteger : signed64? text = none) (noReal : float? text = none) :
      Rewrites text text

theorem Rewrites.text?_valueOf (rewrites : Rewrites text header) :
    (Environment.valueOf text).text? = some header := by
  unfold Environment.valueOf
  cases rewrites with
  | truth isTruth =>
      rcases isTruth with isTrue | isFalse
      · rw [isTrue, if_pos rfl]
        rfl
      · rw [isFalse, if_neg (by decide), if_pos rfl]
        rfl
  | integer noTruth isInteger =>
      obtain ⟨notTrue, notFalse⟩ := not_or.mp noTruth
      simp only [if_neg notTrue, if_neg notFalse, isInteger, Value.text?]
  | real noTruth noInteger isReal =>
      obtain ⟨notTrue, notFalse⟩ := not_or.mp noTruth
      simp only [if_neg notTrue, if_neg notFalse, noInteger,
        isReal, Value.text?]
  | verbatim noTruth noInteger noReal =>
      obtain ⟨notTrue, notFalse⟩ := not_or.mp noTruth
      simp only [if_neg notTrue, if_neg notFalse, noInteger,
        noReal, Value.text?]

theorem exists_rewrites (text : String) : ∃ header, Rewrites text header := by
  by_cases isTruth : IsTruth text
  · exact ⟨_, .truth isTruth⟩
  · cases integer : signed64? text with
    | some value => exact ⟨_, .integer isTruth integer⟩
    | none =>
        cases real : float? text with
        | some value => exact ⟨_, .real isTruth integer real⟩
        | none => exact ⟨_, .verbatim isTruth integer real⟩

theorem Rewrites.unique {other : String} (rewrites : Rewrites text header)
    (rewritesOther : Rewrites text other) : header = other :=
  Option.some.inj
    (rewrites.text?_valueOf.symm.trans rewritesOther.text?_valueOf)

theorem Rewrites.nonblank (rewrites : Rewrites text header)
    (nonblank : Text.isBlankText text = false) :
    Text.isBlankText header = false := by
  cases rewrites with
  | truth isTruth =>
      rcases isTruth with isTrue | isFalse
      · rw [isTrue]
        decide
      · rw [isFalse]
        decide
  | integer _ _ =>
      obtain ⟨character, isThere, isDigit⟩ := Number.exists_isDigit_toString _
      exact Text.isBlankText_of_isAlphanum isThere
        (by rw [Char.isAlphanum, isDigit, Bool.or_true])
  | real _ _ _ =>
      obtain ⟨character, isThere, isAlphanum⟩ :=
        Layout.exists_alphanum_plain_text _
      exact Text.isBlankText_of_isAlphanum isThere isAlphanum
  | verbatim _ _ _ => exact nonblank

/-- Texts that are written as what they are written as. -/
inductive Kept : String → Prop where
  | truth {text : String} (isTruth : text = "true" ∨ text = "false") : Kept text
  | integer (value : Int)
      (inRange : leastSigned ≤ value ∧ value < signedLimit) :
      Kept (toString value)
  | real {text : String} {value : Number.Binary64} (noTruth : ¬ IsTruth text)
      (noInteger : signed64? text = none) (isReal : float? text = some value)
      (isPlain : Layout.plain.text value = text) : Kept text
  | verbatim {text : String} (noTruth : ¬ IsTruth text)
      (noInteger : signed64? text = none)
      (noReal : float? text = none) : Kept text

theorem isAlpha_of_toLower {character : Char}
    (isAlpha : character.toLower.isAlpha = true) :
    character.isAlpha = true := by
  unfold Char.toLower at isAlpha
  split at isAlpha
  · rename_i isUpper
    exact Text.isAlpha_iff_toNat.mpr (Or.inl isUpper)
  · exact isAlpha

theorem IsTruth.exists_isAlpha (isTruth : IsTruth text) :
    ∃ first rest, text.toList = first :: rest ∧ first.isAlpha = true := by
  have small : text.toList.map Char.toLower = "true".toList ∨
      text.toList.map Char.toLower = "false".toList := by
    rw [← String.toList_map, String.toList_inj, String.toList_inj]
    exact isTruth
  cases characters : text.toList with
  | nil => exact absurd (characters ▸ small) (by decide)
  | cons first rest =>
      rw [characters, List.map_cons] at small
      refine ⟨first, rest, rfl, isAlpha_of_toLower ?_⟩
      rcases small with isTrue | isFalse
      · rw [(List.cons.inj isTrue).1]
        decide
      · rw [(List.cons.inj isFalse).1]
        decide

theorem not_isTruth_of_integer {value : Int}
    (isInteger : signed64? text = some value) : ¬ IsTruth text := by
  intro isTruth
  obtain ⟨first, rest, characters, isAlpha⟩ := isTruth.exists_isAlpha
  obtain ⟨reads, -⟩ := Number.signed64?_eq_some_iff.mp isInteger
  rw [characters] at reads
  rw [Number.isAlpha_of_integer? reads] at isAlpha
  exact Bool.false_ne_true isAlpha

theorem Kept.rewrites (kept : Kept text) : Rewrites text text := by
  cases kept with
  | truth isTruth =>
      have isTrue : "true".toLower = "true" := by decide +kernel
      have isFalse : "false".toLower = "false" := by decide +kernel
      rcases isTruth with rfl | rfl
      · have rewrites := Rewrites.truth (Or.inl isTrue)
        rwa [isTrue] at rewrites
      · have rewrites := Rewrites.truth (Or.inr isFalse)
        rwa [isFalse] at rewrites
  | integer value inRange =>
      have isInteger : signed64? (toString value) = some value :=
        Number.signed64?_eq_some_iff.mpr
          ⟨Number.integer?_toString value, inRange⟩
      exact .integer (not_isTruth_of_integer isInteger) isInteger
  | real noTruth noInteger isReal isPlain =>
      have rewrites := Rewrites.real noTruth noInteger isReal
      rwa [isPlain] at rewrites
  | verbatim noTruth noInteger noReal =>
      exact .verbatim noTruth noInteger noReal

theorem kept_of_rewrites (rewrites : Rewrites text header)
    (same : header = text) : Kept text := by
  cases rewrites with
  | truth isTruth => exact .truth (same ▸ isTruth)
  | integer noTruth isInteger =>
      obtain ⟨-, inRange⟩ := Number.signed64?_eq_some_iff.mp isInteger
      exact same ▸ .integer _ inRange
  | real noTruth noInteger isReal => exact .real noTruth noInteger isReal same
  | verbatim noTruth noInteger noReal =>
      exact .verbatim noTruth noInteger noReal

theorem Rewrites.eq_iff (rewrites : Rewrites text header) :
    header = text ↔ Kept text :=
  ⟨kept_of_rewrites rewrites, fun kept => rewrites.unique kept.rewrites⟩

end Collate.Config
