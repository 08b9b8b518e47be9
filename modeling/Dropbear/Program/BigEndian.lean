/-
# Numbers as big-endian byte strings

`ofBe` reads a byte string as a number.  `toBe` writes a number into a given
count of bytes.  The two are inverse to each other on the numbers that fit, and
the bytes of a string in two parts are those of its quotient and its remainder.
-/

import Dropbear.Program.Bytes

namespace Dropbear.Program

/-- The last `len` bytes of a number, most significant first. -/
def toBe : Nat → Nat → Bytes
  | 0, _ => []
  | len + 1, n => toBe len (n / 256) ++ [n.toUInt8]

@[simp]
theorem length_toBe (len n : Nat) : (toBe len n).length = len := by
  induction len generalizing n with
  | zero => rfl
  | succ len ih => simp [toBe, ih]

@[simp]
theorem ofBe_nil : ofBe [] = 0 := rfl

@[simp]
theorem ofBe_concat (bytes : Bytes) (last : UInt8) :
    ofBe (bytes ++ [last]) = ofBe bytes * 256 + last.toNat := by
  simp [ofBe]

theorem ofBe_append (front back : Bytes) :
    ofBe (front ++ back) = ofBe front * 256 ^ back.length + ofBe back := by
  induction back using List.reverseRecOn with
  | nil => simp
  | append_singleton back last ih =>
    rw [← List.append_assoc, ofBe_concat, ih, ofBe_concat, List.length_append,
      List.length_singleton, pow_succ]
    ring

theorem ofBe_cons (first : UInt8) (bytes : Bytes) :
    ofBe (first :: bytes) = first.toNat * 256 ^ bytes.length + ofBe bytes := by
  rw [← List.singleton_append, ofBe_append]
  simp [ofBe]

theorem ofBe_lt_pow (bytes : Bytes) : ofBe bytes < 256 ^ bytes.length := by
  induction bytes using List.reverseRecOn with
  | nil => simp
  | append_singleton bytes last ih =>
    have byte := last.toNat_lt
    rw [ofBe_concat, List.length_append, List.length_singleton, pow_succ]
    omega

/-- A number that fits is read back. -/
theorem ofBe_toBe {len n : Nat} (fits : n < 256 ^ len) : ofBe (toBe len n) = n := by
  induction len generalizing n with
  | zero => rw [toBe, ofBe_nil]; omega
  | succ len ih =>
    rw [pow_succ] at fits
    rw [toBe, ofBe_concat, ih (by omega), Nat.toUInt8, UInt8.toNat_ofNat']
    omega

/-- A byte string is the writing of what it denotes. -/
theorem toBe_ofBe (bytes : Bytes) : toBe bytes.length (ofBe bytes) = bytes := by
  induction bytes using List.reverseRecOn with
  | nil => rfl
  | append_singleton bytes last ih =>
    have byte := last.toNat_lt
    have quotient : (ofBe bytes * 256 + last.toNat) / 256 = ofBe bytes := by omega
    have remainder : (ofBe bytes * 256 + last.toNat).toUInt8 = last := by
      apply UInt8.toNat_inj.1
      rw [Nat.toUInt8, UInt8.toNat_ofNat']
      omega
    rw [List.length_append, List.length_singleton, toBe, ofBe_concat, quotient, remainder, ih]

theorem toBe_eq_of_ofBe {bytes : Bytes} {len n : Nat} (length : bytes.length = len)
    (value : ofBe bytes = n) : toBe len n = bytes := by
  rw [← length, ← value, toBe_ofBe]

theorem be32_eq_toBe (n : Nat) : be32 n = toBe 4 n := by
  simp [be32, toBe, Nat.div_div_eq_div_mul]

/-- A four-byte word is determined by its value. -/
theorem eq_be32_of_ofBe {head : Bytes} {n : Nat} (four : head.length = 4)
    (value : ofBe head = n) : head = be32 n := by
  rw [be32_eq_toBe, toBe_eq_of_ofBe four value]

/-- A leading zero byte more is a zero byte in front. -/
theorem toBe_succ_of_lt {len n : Nat} (fits : n < 256 ^ len) :
    toBe (len + 1) n = 0 :: toBe len n := by
  apply toBe_eq_of_ofBe
  · simp
  · rw [ofBe_cons, ofBe_toBe fits]
    simp

end Dropbear.Program
