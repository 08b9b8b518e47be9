/-
# The modular arithmetic of libtommath

The numbers of libtommath are natural numbers, and integers where the source
subtracts.  An operation that can fail is an `Option`.
-/

import Mathlib
import Dropbear.Buffer.Basic

namespace Dropbear.Signkey

/-- `mp_mod`. -/
def mpMod (a b : Nat) : Option Nat := if b = 0 then none else some (a % b)

/-- `mp_addmod`. -/
def mpAddmod (a b c : Nat) : Option Nat := if c = 0 then none else some ((a + b) % c)

/-- `mp_mulmod`. -/
def mpMulmod (a b c : Nat) : Option Nat := if c = 0 then none else some (a * b % c)

/-- `mp_invmod`. -/
def mpInvmod (a b : Nat) : Option Nat :=
  if b ≤ 1 ∨ a.gcd b ≠ 1 then none else some (a.gcdA b % b).toNat

/-- `mp_exptmod`: a negative exponent is one for the inverse. -/
def mpExptmod (g : Nat) (x : Int) (p : Nat) : Option Nat :=
  if p = 0 then none
  else if x < 0 then (mpInvmod g p).map fun inverse => inverse ^ x.natAbs % p
  else some (g ^ x.toNat % p)

/-- A failed operation ends the process. -/
def orExit {α : Type} (message : String) : Option α → Except Exit α
  | none => .error (.exit message)
  | some value => .ok value

theorem mpExptmod_natCast (g x : Nat) {p : Nat} (nonzero : p ≠ 0) :
    mpExptmod g x p = some (g ^ x % p) := by
  rw [mpExptmod, if_neg nonzero, if_neg (by omega), Int.toNat_natCast]

variable {a b : Nat}

theorem exists_mpInvmod (large : 1 < b) (coprime : a.Coprime b) :
    ∃ inverse, mpInvmod a b = some inverse ∧ a * inverse ≡ 1 [MOD b] := by
  refine ⟨_, if_neg (by rw [not_or, not_not]; exact ⟨by omega, coprime⟩), ?_⟩
  have nonneg : 0 ≤ a.gcdA b % (b : Int) := Int.emod_nonneg _ (by omega)
  rw [← Int.natCast_modEq_iff, Nat.cast_mul, Int.toNat_of_nonneg nonneg]
  have bezout := Nat.gcd_eq_gcd_ab a b
  rw [coprime] at bezout
  calc
    (a : Int) * (a.gcdA b % b) ≡ a * a.gcdA b [ZMOD b] := (Int.mod_modEq _ _).mul_left _
    _ ≡ a * a.gcdA b + b * a.gcdB b [ZMOD b] := by
        simp [Int.ModEq, Int.add_mul_emod_self_left]
    _ = ((1 : Nat) : Int) := bezout.symm

variable {inverse : Nat}

theorem mpInvmod_lt (inverted : mpInvmod a b = some inverse) : inverse < b := by
  rw [mpInvmod] at inverted
  split at inverted
  case _ => cases inverted
  case _ large =>
    cases inverted
    have below := Int.emod_lt_of_pos (a.gcdA b) (by omega : 0 < (b : Int))
    have nonneg := Int.emod_nonneg (a.gcdA b) (by omega : (b : Int) ≠ 0)
    omega

theorem mpInvmod_modEq (inverted : mpInvmod a b = some inverse) : a * inverse ≡ 1 [MOD b] := by
  have refused := inverted
  rw [mpInvmod] at refused
  split at refused
  case _ => cases refused
  case _ fine =>
    rw [not_or, not_not, Nat.not_le] at fine
    obtain ⟨inverse', inverted', inverse⟩ := exists_mpInvmod fine.1 fine.2
    rwa [Option.some.inj (inverted'.symm.trans inverted)] at inverse

end Dropbear.Signkey
