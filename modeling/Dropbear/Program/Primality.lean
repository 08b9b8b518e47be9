/-
# Primes with a certificate

Lucas' test: a number is prime if some residue has as many powers as a prime has units, for
which the prime factors of one less have to be known.  Powers modulo a large number are taken by
squaring, so that the test can be evaluated.
-/

import Mathlib

namespace Dropbear.Program

/-- The power modulo a number, by squaring, for an exponent of so many bits. -/
def powMod (modulus base : Nat) : Nat → Nat → Nat
  | 0, _ => 1 % modulus
  | bits + 1, exponent =>
    let half := powMod modulus base bits (exponent / 2)
    if exponent % 2 = 0 then half * half % modulus else half * half % modulus * base % modulus

theorem powMod_eq (modulus base : Nat) {bits exponent : Nat} (short : exponent < 2 ^ bits) :
    powMod modulus base bits exponent = base ^ exponent % modulus := by
  induction bits generalizing exponent with
  | zero =>
    obtain rfl : exponent = 0 := by omega
    rfl
  | succ bits ih =>
    have whole := Nat.div_add_mod exponent 2
    rw [powMod, ih (by omega), ← Nat.mul_mod, ← Nat.pow_add, ← Nat.two_mul]
    split
    case _ even => rw [show 2 * (exponent / 2) = exponent by omega]
    case _ odd => rw [Nat.mod_mul_mod, ← pow_succ, show 2 * (exponent / 2) + 1 = exponent by omega]

/-- A residue whose powers tell that the number is prime. -/
theorem prime_of_primitive {n : Nat} (residue bits : Nat) {factors : List Nat}
    (short : (n - 1).log2 < bits)
    (complete : ∀ factor, factor.Prime → factor ∣ n - 1 → factor ∈ factors)
    (one : powMod n residue bits (n - 1) = 1)
    (fewer : ∀ factor ∈ factors, powMod n residue bits ((n - 1) / factor) ≠ 1) : n.Prime := by
  have large : 1 < n := by
    by_contra small
    have none : n - 1 = 0 := by omega
    have two := fewer 2 (complete 2 Nat.prime_two (none ▸ dvd_zero 2))
    rw [none] at one two
    exact two one
  have short := (Nat.log2_lt (by omega : n - 1 ≠ 0)).1 short
  have cast : ∀ exponent ≤ n - 1,
      (residue : ZMod n) ^ exponent = 1 ↔ powMod n residue bits exponent = 1 := by
    intro exponent most
    rw [powMod_eq n residue (Nat.lt_of_le_of_lt most short), ← Nat.cast_pow, ← Nat.cast_one,
      ZMod.natCast_eq_natCast_iff', Nat.mod_eq_of_lt large]
  refine lucas_primality n residue ((cast _ (Nat.le_refl _)).2 one) fun factor prime divides => ?_
  rw [Ne, cast _ (Nat.div_le_self _ _)]
  exact fewer factor (complete factor prime divides)

end Dropbear.Program
