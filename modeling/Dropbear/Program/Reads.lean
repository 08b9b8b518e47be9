/-
# Reading from a descriptor in pieces

A call of `read` delivers some of the bytes that are left, as many as it likes but not none,
is interrupted by a signal, or fails.  When no bytes are left it delivers none, which is the
end of the file.
-/

import Dropbear.Program.Bytes

namespace Dropbear.Program

/-- How a call of `read` goes.  It delivers `count + 1` bytes, or as many as there are. -/
inductive ReadCall where
  | deliver (count : Nat)
  | interrupted
  | failed
  deriving DecidableEq, Repr

/-- The bytes that are delivered to a buffer with so much room. -/
def taken (count room : Nat) (content : Bytes) : Bytes := content.take (min (count + 1) room)

theorem length_taken_le (count room : Nat) (content : Bytes) :
    (taken count room content).length ≤ room := by
  rw [taken, List.length_take]
  omega

theorem taken_append_drop (count room : Nat) (content : Bytes) :
    taken count room content ++ content.drop (taken count room content).length = content := by
  rw [taken, List.length_take]
  obtain few | many := Nat.le_total (min (count + 1) room) content.length
  · rw [Nat.min_eq_left few, List.take_append_drop]
  · rw [Nat.min_eq_right many, List.drop_length, List.append_nil, List.take_of_length_le many]

/-- Only at the end of the file nothing is delivered. -/
theorem taken_eq_nil {count room : Nat} {content : Bytes} (some : 0 < room) :
    taken count room content = [] ↔ content = [] := by
  rw [taken, List.take_eq_nil_iff]
  exact or_iff_right (by omega)

/-- The room is filled by a call that fills what is left of it. -/
theorem taken_append_take (count room : Nat) (content : Bytes) :
    taken count room content ++ (content.drop (taken count room content).length).take
      (room - (taken count room content).length) = content.take room := by
  conv => rhs; rw [← taken_append_drop count room content]
  rw [List.take_append, List.take_of_length_le (length_taken_le count room content)]

end Dropbear.Program
