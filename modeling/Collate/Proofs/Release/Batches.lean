import Collate.Release
import Mathlib.Data.List.Basic

namespace Collate.Release

variable {α : Type} {size : Nat}

def batches (size : Nat) (list : List α) : List (List α) :=
  (List.range (list.length / size)).map
    fun index => (list.drop (size * index)).take size

def remainder (size : Nat) (list : List α) : List α :=
  list.drop (size * (list.length / size))

theorem length_batches (size : Nat) (list : List α) :
    (batches size list).length = list.length / size := by
  rw [batches, List.length_map, List.length_range]

theorem length_remainder (size : Nat) (list : List α) :
    (remainder size list).length = list.length % size := by
  rw [remainder, List.length_drop, ← Nat.mod_eq_sub]

theorem batches_nil (size : Nat) : batches size ([] : List α) = [] := by
  simp [batches]

theorem remainder_nil (size : Nat) :
    remainder size ([] : List α) = [] := List.drop_nil

theorem take_drop_append {list : List α} {index : Nat}
    (within : index < list.length / size) (more : List α) :
    ((list ++ more).drop (size * index)).take size =
      (list.drop (size * index)).take size := by
  have here : size * (index + 1) ≤ list.length :=
    Nat.le_trans (Nat.mul_le_mul_left size within)
      (Nat.mul_div_le list.length size)
  rw [Nat.mul_succ] at here
  rw [List.drop_append_of_le_length (by omega),
    List.take_append_of_le_length (by rw [List.length_drop]; omega)]

theorem drop_concat (size : Nat) (list : List α) (element : α) :
    (list ++ [element]).drop (size * (list.length / size)) =
      remainder size list ++ [element] :=
  List.drop_append_of_le_length (Nat.mul_div_le list.length size)

section Partial

variable {list : List α} (partly : (remainder size list).length + 1 < size)
  (element : α)

include partly

theorem div_concat_of_partial :
    (list ++ [element]).length / size = list.length / size := by
  rw [length_remainder] at partly
  have parts := Nat.div_add_mod list.length size
  rw [List.length_append, List.length_singleton]
  conv_lhs => rw [← parts, Nat.add_assoc,
    Nat.mul_add_div (Nat.zero_lt_of_lt partly), Nat.div_eq_of_lt partly]
  rfl

theorem batches_concat_of_partial :
    batches size (list ++ [element]) = batches size list := by
  rw [batches, div_concat_of_partial partly]
  refine List.map_congr_left fun index member => ?_
  exact take_drop_append (List.mem_range.mp member) [element]

theorem remainder_concat_of_partial :
    remainder size (list ++ [element]) = remainder size list ++ [element] := by
  rw [remainder, div_concat_of_partial partly, drop_concat]

end Partial

section Full

variable {list : List α} (full : (remainder size list).length + 1 = size)
  (element : α)

include full

theorem div_concat_of_full :
    (list ++ [element]).length / size = list.length / size + 1 := by
  rw [length_remainder] at full
  have parts := Nat.div_add_mod list.length size
  have positive : 0 < size := by omega
  rw [List.length_append, List.length_singleton]
  conv_lhs => rw [← parts, Nat.add_assoc, full, Nat.mul_add_div positive,
    Nat.div_self positive]

theorem batches_concat_of_full :
    batches size (list ++ [element]) =
      batches size list ++ [remainder size list ++ [element]] := by
  rw [batches, div_concat_of_full full, List.range_succ, List.map_append,
    List.map_singleton, drop_concat, List.take_of_length_le
      (by rw [List.length_append]; exact Nat.le_of_eq full)]
  refine congrArg (· ++ _) (List.map_congr_left fun index member => ?_)
  exact take_drop_append (List.mem_range.mp member) [element]

theorem remainder_concat_of_full : remainder size (list ++ [element]) = [] := by
  rw [remainder, div_concat_of_full full, Nat.mul_succ,
    ← List.drop_drop, drop_concat]
  exact List.drop_eq_nil_of_le
    (by rw [List.length_append]; exact Nat.le_of_eq full)

theorem mul_div_concat_of_full :
    size * ((list ++ [element]).length / size) =
      (list ++ [element]).length := by
  have none := length_remainder size (list ++ [element])
  rw [remainder_concat_of_full full, List.length_nil] at none
  exact Nat.mul_div_cancel' (Nat.dvd_of_mod_eq_zero none.symm)

end Full

end Collate.Release
