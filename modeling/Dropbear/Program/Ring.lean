/-
# A ring of cells

Some cells of a list are in use: a number of them from a position on, and around
the end of the list.  They are read in two pieces, added to with a store behind
them, and taken off at the front.
-/

import Dropbear.Program.Bytes

namespace Dropbear.Program

variable {α : Type*} {cells added : List α} {start used : Nat}

/-- `used` cells from `start` on. -/
def ring (cells : List α) (start used : Nat) : List α := (cells.rotate start).take used

theorem length_ring (inside : used ≤ cells.length) : (ring cells start used).length = used := by
  rw [ring, List.length_take, List.length_rotate, Nat.min_eq_left inside]

theorem ring_zero (cells : List α) (start : Nat) : ring cells start 0 = [] := List.take_zero

/-- The cells up to the end of the list, and those that follow at its start. -/
theorem pieces_eq_ring (start_le : start ≤ cells.length) (inside : used ≤ cells.length) :
    (cells.drop start).take (min used (cells.length - start)) ++
      cells.take (used - min used (cells.length - start)) = ring cells start used := by
  rw [ring, List.rotate_eq_drop_append_take start_le, List.take_append, List.length_drop,
    List.take_take]
  rcases Nat.le_total used (cells.length - start) with whole | wraps
  · rw [Nat.min_eq_left whole, Nat.sub_self, Nat.sub_eq_zero_of_le whole, Nat.zero_min]
  · have rest : used - (cells.length - start) ≤ start := by omega
    have all : (cells.drop start).take used = (cells.drop start).take (cells.length - start) := by
      rw [List.take_of_length_le (by rw [List.length_drop]; exact wraps),
        List.take_of_length_le (by rw [List.length_drop])]
    rw [Nat.min_eq_right wraps, Nat.min_eq_left rest, all]

/-- A store behind the cells in use adds to them, whether these wrap around or not. -/
theorem ring_overwrite {off : Nat} (start_le : start ≤ cells.length)
    (off_le : off + added.length ≤ cells.length)
    (behind : off = start + used ∨ off + cells.length = start + used ∧ off + added.length ≤ start) :
    ring (overwrite cells off added) start (used + added.length) =
      ring cells start used ++ added := by
  have length : (overwrite cells off added).length = cells.length := length_overwrite off_le
  rw [ring, ring, List.rotate_eq_drop_append_take start_le,
    List.rotate_eq_drop_append_take (by omega)]
  rcases behind with rfl | ⟨wrapped, room⟩
  · -- the cells in use end before the end of the list
    have front : (cells.drop start).take used = (cells.take (start + used)).drop start := by
      rw [List.drop_take, Nat.add_sub_cancel_left]
    rw [List.take_append_of_le_length (by rw [List.length_drop]; omega),
      List.take_append_of_le_length (by rw [List.length_drop]; omega), front, List.take_drop,
      ← Nat.add_assoc, take_overwrite_end off_le,
      List.drop_append_of_le_length (by rw [List.length_take]; omega)]
  · -- they continue at its start, where the store is
    have tail : (overwrite cells off added).drop start = cells.drop start := by
      rw [overwrite, List.drop_append, List.drop_eq_nil_of_le, List.nil_append, List.drop_drop]
      · congr 1
        rw [List.length_append, List.length_take]
        omega
      · rw [List.length_append, List.length_take]
        omega
    have before : used = (cells.drop start).length + off := by
      rw [List.length_drop]
      omega
    rw [tail, before, Nat.add_assoc, List.take_length_add_append, List.take_length_add_append,
      List.take_take, List.take_take, Nat.min_eq_left room, Nat.min_eq_left (by omega),
      take_overwrite_end off_le, List.append_assoc]

/-- Cells are taken off the front by moving the start. -/
theorem ring_advance {len : Nat} (enough : len ≤ used) (inside : used ≤ cells.length) :
    ring cells ((start + len) % cells.length) (used - len) = (ring cells start used).drop len := by
  have length : (cells.rotate start).length = cells.length := List.length_rotate cells start
  rw [ring, ring, List.rotate_mod, ← List.rotate_rotate,
    List.rotate_eq_drop_append_take (by omega),
    List.take_append_of_le_length (by rw [List.length_drop]; omega), List.drop_take]

end Dropbear.Program
