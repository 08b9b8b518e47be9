/-
# Unsigned 32-bit arithmetic on natural numbers

A machine word is kept as the natural number it denotes.  Addition and
subtraction of words wrap modulo `2 ^ 32`, and every wrap is written out, so
that a comparison made on a wrapped value cannot be mistaken for one made on
the exact value.
-/

import Mathlib

namespace Dropbear.Program

/-- The value an unsigned 32-bit variable holds after being assigned `n`. -/
def u32 (n : Nat) : Nat := n % 2 ^ 32

/-- Unsigned 32-bit subtraction.  A difference below zero wraps to the top of
the range. -/
def sub32 (a b : Nat) : Nat := u32 (a + (2 ^ 32 - u32 b))

/-- A word is always in range. -/
theorem u32_lt (n : Nat) : u32 n < 2 ^ 32 := Nat.mod_lt _ (by decide)

/-- A value that fits is stored exactly. -/
@[simp]
theorem u32_of_lt {n : Nat} (fits : n < 2 ^ 32) : u32 n = n := Nat.mod_eq_of_lt fits

/-- A difference is exact when nothing is borrowed. -/
theorem sub32_of_le {a b : Nat} (fits : a < 2 ^ 32) (enough : b ≤ a) : sub32 a b = a - b := by
  simp only [sub32, u32]
  omega

end Dropbear.Program
