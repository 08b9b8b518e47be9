/-
# Powers modulo a product of two primes

Modulo a prime, powers of a number depend on the exponent modulo one less than
the prime, for multiples of the prime as well as long as no exponent is zero.
Modulo the product of two primes they depend on the exponent modulo the one and
modulo the other.
-/

import Mathlib

namespace Dropbear.Program

/-- Exponents that differ by a multiple of `p - 1`. -/
theorem pow_add_mul_modEq {p : ℕ} (prime : p.Prime) {a k : ℕ} (some : 0 < k) (times : ℕ) :
    a ^ (k + (p - 1) * times) ≡ a ^ k [MOD p] := by
  by_cases divides : p ∣ a
  · have zero : a ≡ 0 [MOD p] := (Nat.modEq_zero_iff_dvd).2 divides
    calc
      a ^ (k + (p - 1) * times) ≡ 0 ^ (k + (p - 1) * times) [MOD p] := zero.pow _
      _ = 0 ^ k := by rw [zero_pow (by omega), zero_pow (by omega)]
      _ ≡ a ^ k [MOD p] := (zero.pow k).symm
  · have coprime : a.Coprime p := (Nat.coprime_comm.1 ((prime.coprime_iff_not_dvd).2 divides))
    have fermat : a ^ (p - 1) ≡ 1 [MOD p] := by
      rw [← Nat.totient_prime prime]
      exact Nat.ModEq.pow_totient coprime
    calc
      a ^ (k + (p - 1) * times) = a ^ k * (a ^ (p - 1)) ^ times := by rw [pow_add, pow_mul]
      _ ≡ a ^ k * 1 ^ times [MOD p] := (fermat.pow times).mul_left _
      _ = a ^ k := by rw [one_pow, mul_one]

theorem pow_modEq_pow_of_prime {p : ℕ} (prime : p.Prime) (a : ℕ) {k l : ℕ}
    (same : k ≡ l [MOD p - 1]) (some : 0 < k) (some' : 0 < l) : a ^ k ≡ a ^ l [MOD p] := by
  wlog less : k ≤ l generalizing k l
  · exact (this same.symm some' some (Nat.le_of_not_le less)).symm
  obtain ⟨times, difference⟩ := (Nat.modEq_iff_dvd' less).1 same
  obtain rfl : l = k + (p - 1) * times := by omega
  exact (pow_add_mul_modEq prime some times).symm

theorem pow_modEq_pow_of_primes {p q : ℕ} (prime : p.Prime) (prime' : q.Prime) (distinct : p ≠ q)
    (a : ℕ) {k l : ℕ} (same : k ≡ l [MOD p - 1]) (same' : k ≡ l [MOD q - 1]) (some : 0 < k)
    (some' : 0 < l) : a ^ k ≡ a ^ l [MOD p * q] :=
  (Nat.modEq_and_modEq_iff_modEq_mul ((Nat.coprime_primes prime prime').2 distinct)).1
    ⟨pow_modEq_pow_of_prime prime a same some some',
      pow_modEq_pow_of_prime prime' a same' some some'⟩

end Dropbear.Program
