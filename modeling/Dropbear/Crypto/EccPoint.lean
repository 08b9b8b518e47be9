/-
# Points on the curves

`ecc_is_point` and the checks around it in `buf_get_ecc_raw_pubkey`.  The coordinates come from
the wire and are not reduced: the equation is checked modulo the prime, the coordinates
themselves are compared with zero only.  A point is refused if one of its coordinates is zero,
which on these curves does not make it the point at infinity, and accepted if they are not
reduced.
-/

import Dropbear.Signkey.Put

namespace Dropbear.Crypto

open Program Signkey

/-- `dp->prime` of `ltc_ecc_sets`. -/
def curvePrime : Curve → Nat
  | .nistp256 => 0xFFFFFFFF00000001000000000000000000000000FFFFFFFFFFFFFFFFFFFFFFFF
  | .nistp384 =>
    0xFFFFFFFFFFFFFFFFFFFFFFFFFFFFFFFFFFFFFFFFFFFFFFFF * 2 ^ 192 +
      0xFFFFFFFFFFFFFFFEFFFFFFFF0000000000000000FFFFFFFF
  | .nistp521 =>
    (0x1FF * 2 ^ 256 + 0xFFFFFFFFFFFFFFFFFFFFFFFFFFFFFFFFFFFFFFFFFFFFFFFFFFFFFFFFFFFFFFFF) *
      2 ^ 256 + 0xFFFFFFFFFFFFFFFFFFFFFFFFFFFFFFFFFFFFFFFFFFFFFFFFFFFFFFFFFFFFFFFF

/-- `dp->B`. -/
def coefficientB : Curve → Nat
  | .nistp256 => 0x5AC635D8AA3A93E7B3EBBD55769886BC651D06B0CC53B0F63BCE3C3E27D2604B
  | .nistp384 =>
    0xB3312FA7E23EE7E4988E056BE3F82D19181D9C6EFE814112 * 2 ^ 192 +
      0x0314088F5013875AC656398D8A2ED19D2A85C8EDD3EC2AEF
  | .nistp521 =>
    (0x51 * 2 ^ 256 + 0x953EB9618E1C9A1F929A21A0B68540EEA2DA725B99B315F3B8B489918EF109E1) *
      2 ^ 256 + 0x56193951EC7E937B1652C0BD3BB1BF073573DF883D2C34F1EF451FD46B503F00

/-- Add the modulus as long as the number is negative. -/
def addWhileNegative (modulus : Nat) (t : Int) : Int :=
  if t < 0 ∧ 0 < modulus then addWhileNegative modulus (t + modulus) else t
termination_by (-t).toNat
decreasing_by omega

/-- Subtract the modulus as long as the number is not below it. -/
def subWhileLarge (modulus : Nat) (t : Int) : Int :=
  if modulus ≤ t ∧ 0 < modulus then subWhileLarge modulus (t - modulus) else t
termination_by t.toNat
decreasing_by omega

def eccIsPoint (curve : Curve) (x y : Nat) : Bool :=
  -- compute y^2
  let t₁ : Int := y * y
  -- compute x^3
  let t₂ : Int := x * (x * x % curvePrime curve : Nat)
  -- compute y^2 - x^3 + 3x
  let t₁ := t₁ - t₂ + x + x + x
  let t₁ := t₁ % curvePrime curve
  let t₁ := addWhileNegative (curvePrime curve) t₁
  let t₁ := subWhileLarge (curvePrime curve) t₁
  -- compare to b
  t₁ = coefficientB curve

/-- The checks of keys with the real curves; `verify` is that of signatures. -/
def curveCrypto (verify : PubKey → SignatureType → Nat → Bytes → Bytes → Except Exit Bool) :
    Signkey.Crypto where
  eccIsPoint := eccIsPoint
  verify := verify

/-! ## The equation -/

/-- The coordinates satisfy the equation of the curve in the field. -/
def OnCurve (curve : Curve) (x y : Nat) : Prop :=
  (y : ZMod (curvePrime curve)) ^ 2 = (x : ZMod (curvePrime curve)) ^ 3 - 3 * x + coefficientB curve

theorem curvePrime_pos (curve : Curve) : 0 < curvePrime curve := by
  cases curve <;> decide +kernel

theorem coefficientB_lt (curve : Curve) : coefficientB curve < curvePrime curve := by
  cases curve <;> decide +kernel

theorem curvePrime_lt (curve : Curve) : curvePrime curve < 256 ^ curve.size := by
  cases curve <;> decide +kernel

variable {curve : Curve} {x y : Nat}

/-- The loops have nothing to do after `mp_mod`. -/
theorem eccIsPoint_eq_true : eccIsPoint curve x y = true ↔
    ((y * y : Int) - x * (x * x % curvePrime curve : Nat) + x + x + x) % curvePrime curve =
      coefficientB curve := by
  have positive := curvePrime_pos curve
  have nonneg := Int.emod_nonneg ((y * y : Int) - x * (x * x % curvePrime curve : Nat) + x + x + x)
    (by omega : (curvePrime curve : Int) ≠ 0)
  have below := Int.emod_lt_of_pos ((y * y : Int) - x * (x * x % curvePrime curve : Nat) + x + x + x)
    (by omega : 0 < (curvePrime curve : Int))
  rw [eccIsPoint, addWhileNegative, if_neg (by omega), subWhileLarge, if_neg (by omega),
    decide_eq_true_eq]

/-- **The check is that of the equation**, whether or not the coordinates are reduced. -/
theorem eccIsPoint_iff :
    eccIsPoint curve x y = true ↔ OnCurve curve x y := by
  have reduced : (coefficientB curve : Int) = coefficientB curve % curvePrime curve :=
    (Int.emod_eq_of_lt (by omega) (by exact_mod_cast coefficientB_lt curve)).symm
  rw [eccIsPoint_eq_true, reduced, ← ZMod.intCast_eq_intCast_iff', OnCurve]
  push_cast [ZMod.natCast_mod]
  constructor
  · intro equation
    linear_combination equation
  · intro equation
    linear_combination equation

/-! ## Keys from the wire -/

/-- An encoded point of the curve: SEC1's public key validation. -/
def WellFormed (curve : Curve) (bytes : Bytes) : Prop :=
  ∃ x y, bytes = eccPoint curve x y ∧ x < curvePrime curve ∧ y < curvePrime curve ∧
    OnCurve curve x y

section

variable (verify : PubKey → SignatureType → Nat → Bytes → Bytes → Except Exit Bool)

/-- What is expected of reading a point and writing it. -/
def ValidatesPoint (curve : Curve) (buf : Buffer) : Prop :=
  ((∃ x y, bufGetEccRawPubkey (curveCrypto verify) buf curve = .ok (some (x, y))) ↔
      WellFormed curve buf.contents) ∧
    ∀ x y, bufGetEccRawPubkey (curveCrypto verify) buf curve = .ok (some (x, y)) →
      Appends (bufPutEccRawPubkeyString · curve x y) (wireString buf.contents)

/-- The coordinates are reduced exactly if neither is zero, in case this is a point. -/
def PlainPoint (curve : Curve) (bytes : Bytes) : Prop :=
  ∀ x y, x < 256 ^ curve.size → y < 256 ^ curve.size → bytes = eccPoint curve x y →
    OnCurve curve x y → (x < curvePrime curve ∧ y < curvePrime curve ↔ x ≠ 0 ∧ y ≠ 0)

theorem eccPoint_inj {x y x' y' : Nat} (x_lt : x < 256 ^ curve.size) (y_lt : y < 256 ^ curve.size)
    (x_lt' : x' < 256 ^ curve.size) (y_lt' : y' < 256 ^ curve.size)
    (same : eccPoint curve x y = eccPoint curve x' y') : x = x' ∧ y = y' := by
  have halves := List.append_inj (List.cons.inj same).2 (by rw [length_toBe, length_toBe])
  constructor
  · rw [← ofBe_toBe x_lt, halves.1, ofBe_toBe x_lt']
  · rw [← ofBe_toBe y_lt, halves.2, ofBe_toBe y_lt']

/-- When a key is returned. -/
theorem bufGetEccRawPubkey_curve {buf : Buffer} :
    bufGetEccRawPubkey (curveCrypto verify) buf curve = .ok (some (x, y)) ↔
      buf.contents = eccPoint curve x y ∧ x < 256 ^ curve.size ∧ y < 256 ^ curve.size ∧
        OnCurve curve x y ∧ x ≠ 0 ∧ y ≠ 0 := by
  rw [bufGetEccRawPubkey_eq_some]
  constructor
  · rintro ⟨point, contents⟩
    exact ⟨contents, point.x_lt, point.y_lt, eccIsPoint_iff.1 point.onCurve, point.x_ne_zero,
      point.y_ne_zero⟩
  · rintro ⟨contents, x_lt, y_lt, onCurve, x_ne_zero, y_ne_zero⟩
    exact ⟨⟨eccIsPoint_iff.2 onCurve, x_ne_zero, y_ne_zero, x_lt, y_lt⟩, contents⟩

/-- A key that is returned is written as it was read. -/
theorem appends_returned {buf : Buffer}
    (returned : bufGetEccRawPubkey (curveCrypto verify) buf curve = .ok (some (x, y))) :
    Appends (bufPutEccRawPubkeyString · curve x y) (wireString buf.contents) := by
  obtain ⟨point, contents⟩ := bufGetEccRawPubkey_eq_some.1 returned
  simp only [bufPutEccRawPubkeyString_eq point, contents]
  exact appends_bufPutstring _

/-- **Points are validated as they should be exactly if they are plain.** -/
theorem validatesPoint_iff (curve : Curve) (buf : Buffer) :
    ValidatesPoint verify curve buf ↔ PlainPoint curve buf.contents := by
  have less := curvePrime_lt curve
  constructor
  · rintro ⟨validated, _⟩ x y x_lt y_lt contents onCurve
    constructor
    · rintro ⟨x_red, y_red⟩
      obtain ⟨x', y', returned⟩ := validated.2 ⟨x, y, contents, x_red, y_red, onCurve⟩
      obtain ⟨contents', x_lt', y_lt', _, nonzero⟩ := (bufGetEccRawPubkey_curve verify).1 returned
      obtain ⟨rfl, rfl⟩ := eccPoint_inj x_lt y_lt x_lt' y_lt' (contents.symm.trans contents')
      exact nonzero
    · intro nonzero
      obtain ⟨x', y', contents', x_red, y_red, _⟩ := validated.1 ⟨x, y,
        (bufGetEccRawPubkey_curve verify).2 ⟨contents, x_lt, y_lt, onCurve, nonzero⟩⟩
      obtain ⟨rfl, rfl⟩ := eccPoint_inj x_lt y_lt (x_red.trans less) (y_red.trans less)
        (contents.symm.trans contents')
      exact ⟨x_red, y_red⟩
  · intro plain
    refine ⟨⟨?_, ?_⟩, fun x y => appends_returned verify⟩
    · rintro ⟨x, y, returned⟩
      obtain ⟨contents, x_lt, y_lt, onCurve, nonzero⟩ :=
        (bufGetEccRawPubkey_curve verify).1 returned
      have reduced := (plain x y x_lt y_lt contents onCurve).2 nonzero
      exact ⟨x, y, contents, reduced.1, reduced.2, onCurve⟩
    · rintro ⟨x, y, contents, x_red, y_red, onCurve⟩
      have x_lt := x_red.trans less
      have y_lt := y_red.trans less
      have nonzero := (plain x y x_lt y_lt contents onCurve).1 ⟨x_red, y_red⟩
      exact ⟨x, y, (bufGetEccRawPubkey_curve verify).2 ⟨contents, x_lt, y_lt, onCurve, nonzero⟩⟩

end

/-! ## Points that are not plain -/

/-- A buffer that holds a point of the smallest curve. -/
def pointBuffer (x y : Nat) : Buffer :=
  .ofBytes (eccPoint .nistp256 x y) (by rw [length_eccPoint]; decide)

theorem contents_pointBuffer (x y : Nat) :
    (pointBuffer x y).contents = eccPoint .nistp256 x y :=
  List.take_length

/-- A point whose first coordinate is zero. -/
def yAtZero : Nat := 0x66485c780e2f83d72433bd5d84a06bb6541c2af31dae871728bf856a174f93f4

/-- A point whose first coordinate is five. -/
def yAtFive : Nat := 0x459243b9aa581806fe913bce99817ade11ca503c64d9a3c533415c083248fbcc

theorem onCurve_zero : OnCurve .nistp256 0 yAtZero :=
  eccIsPoint_iff.1 (eccIsPoint_eq_true.2 (by decide +kernel))

theorem onCurve_five : OnCurve .nistp256 (curvePrime .nistp256 + 5) yAtFive :=
  eccIsPoint_iff.1 (eccIsPoint_eq_true.2 (by decide +kernel))

/-- A point of the curve is refused, and coordinates that are not reduced are accepted. -/
theorem validatesPoint_fails :
    ¬ ValidatesPoint (fun _ _ _ _ _ => .ok true) .nistp256 (pointBuffer 0 yAtZero) ∧
      ¬ ValidatesPoint (fun _ _ _ _ _ => .ok true) .nistp256
        (pointBuffer (curvePrime .nistp256 + 5) yAtFive) := by
  have bound : ∀ y, y < curvePrime .nistp256 → y < 256 ^ Curve.nistp256.size :=
    fun y below => below.trans (curvePrime_lt _)
  constructor
  · rintro ⟨validated, _⟩
    obtain ⟨x, y, returned⟩ := validated.2 ⟨0, yAtZero, contents_pointBuffer _ _, by decide +kernel,
      by decide +kernel, onCurve_zero⟩
    obtain ⟨contents, x_lt, y_lt, _, nonzero, _⟩ := (bufGetEccRawPubkey_curve _).1 returned
    rw [contents_pointBuffer] at contents
    exact nonzero (eccPoint_inj (by decide +kernel) (by decide +kernel) x_lt y_lt contents).1.symm
  · rintro ⟨validated, _⟩
    obtain ⟨x, y, contents, x_red, y_red, _⟩ := validated.1 ⟨curvePrime .nistp256 + 5, yAtFive,
      (bufGetEccRawPubkey_curve _).2 ⟨contents_pointBuffer _ _, by decide +kernel,
        by decide +kernel, onCurve_five, by decide +kernel, by decide +kernel⟩⟩
    rw [contents_pointBuffer] at contents
    obtain ⟨rfl, _⟩ := eccPoint_inj (by decide +kernel) (by decide +kernel) (bound _ x_red)
      (bound _ y_red) contents
    exact absurd x_red (by decide +kernel)

end Dropbear.Crypto
