/-
# DSS signatures

`buf_put_dss_sign` and `buf_dss_verify`.  Verifying undoes signing in the group of order `q`,
unless one of the two numbers of the signature is zero: `buf_dss_verify` refuses such a
signature, and `buf_put_dss_sign` writes it all the same, where the standard and the ECDSA code
choose another nonce.
-/

import Dropbear.Crypto.Random
import Dropbear.Crypto.Sha1
import Dropbear.Program.Primality
import Dropbear.Signkey.Private

namespace Dropbear.Crypto

open Program Signkey

/-! ## Signing and verifying -/

/-- The two numbers of the signature of a hash, with the nonce `k`. -/
def dssSign (key : DssKey) (k m : Nat) : Option (Nat × Nat) := do
  -- g^k mod p
  let temp1 ← mpExptmod key.g k key.p
  -- r = (g^k mod p) mod q
  let r ← mpMod temp1 key.q
  -- x*r mod q
  let temp1 ← mpMulmod r key.x key.q
  -- (SHA1(M) + xr) mod q
  let temp2 ← mpAddmod m temp1 key.q
  -- (k^-1) mod q
  let temp1 ← mpInvmod k key.q
  -- s = (k^-1(SHA1(M) + xr)) mod q
  let s ← mpMulmod temp1 temp2 key.q
  pure (r, s)

/-- Write a number, padded to 160 bits with leading zeros. -/
def putHashSized (buf : Buffer) (n : Nat) : Except Exit Buffer := do
  let writelen := mpUbinSize n
  if writelen > sha1HashSize then throw (.assertion "writelen <= SHA1_HASH_SIZE")
  let buf ← putZeros (sha1HashSize - writelen) buf
  bufPutbytes buf (mpToUbin n)

/-- Sign the data, where `gen_random_mpint` has returned `k`. -/
def bufPutDssSign (buf : Buffer) (key : DssKey) (data : Bytes) (k : Nat) : Except Exit Buffer := do
  let (r, s) ← orExit "DSS error" (dssSign key k (ofBe (sha1 data)))
  let buf ← bufPutstring buf (ascii "ssh-dss")
  let buf ← bufPutint buf (2 * sha1HashSize)
  let buf ← putHashSized buf r
  putHashSized buf s

/-- Check the numbers of a signature; whatever goes wrong, it is refused. -/
def dssCheck (key : DssKey) (m r s : Nat) : Option Bool := do
  guard (s < key.q)
  guard (0 < s)
  -- w = (s')^-1 mod q
  let w ← mpInvmod s key.q
  -- u1 = ((SHA(M')w) mod q
  let u₁ ← mpMulmod m w key.q
  guard (r < key.q)
  guard (0 < r)
  -- u2 = ((r')w) mod q
  let u₂ ← mpMulmod r w key.q
  -- v = (((g)^u1 (y)^u2) mod p) mod q
  let gu₁ ← mpExptmod key.g u₁ key.p
  let yu₂ ← mpExptmod key.y u₂ key.p
  let product ← mpMulmod gu₁ yu₂ key.p
  let v ← mpMod product key.q
  pure (v = r)

/-- Verify a DSS signature made on data by the key. -/
def bufDssVerify (buf : Buffer) (key : DssKey) (data : Bytes) : Except Exit Bool := do
  let (string, _) ← bufGetstring buf
  -- get blob, check length
  if string.length ≠ 2 * sha1HashSize then pure false
  else
    pure ((dssCheck key (ofBe (sha1 data)) (ofBe (string.take sha1HashSize))
      (ofBe (string.drop sha1HashSize))).getD false)

/-- Write a signature and verify it where it was written, behind its name, which `buf_verify`
reads. -/
def signThenVerify (buf : Buffer) (key : DssKey) (data : Bytes) (k : Nat) : Except Exit Bool := do
  let written ← bufPutDssSign buf key data k
  let signature ← bufSetpos written buf.pos
  let (name, signature) ← bufGetstring signature
  if name ≠ ascii "ssh-dss" then throw (.exit "Non-matching signing type")
  bufDssVerify signature key data

/-! ## The group of order q -/

/-- A DSS key. -/
structure ValidDss (key : DssKey) : Prop where
  prime : key.q.Prime
  bits : mpCountBits key.q = dssQBits
  divides : key.q ∣ key.p - 1
  order : orderOf (key.g : ZMod key.p) = key.q
  positive : 0 < key.x
  below : key.x < key.q
  y_eq : key.y = key.g ^ key.x % key.p

/-- The exponents of verifying add up to the nonce. -/
theorem exponent_modEq {q k m r s x w kInverse : Nat} (inverse : k * kInverse ≡ 1 [MOD q])
    (s_eq : s ≡ kInverse * (m + r * x) [MOD q]) (w_eq : s * w ≡ 1 [MOD q]) :
    m * w % q + x * (r * w % q) ≡ k [MOD q] := by
  have sum : k * s ≡ m + r * x [MOD q] :=
    calc
      k * s ≡ k * (kInverse * (m + r * x)) [MOD q] := s_eq.mul_left k
      _ = k * kInverse * (m + r * x) := by ring
      _ ≡ 1 * (m + r * x) [MOD q] := inverse.mul_right _
      _ = m + r * x := Nat.one_mul _
  calc
    m * w % q + x * (r * w % q)
        ≡ m * w + x * (r * w) [MOD q] := (Nat.mod_modEq _ _).add ((Nat.mod_modEq _ _).mul_left _)
    _ = (m + r * x) * w := by ring
    _ ≡ k * s * w [MOD q] := (sum.symm).mul_right w
    _ = k * (s * w) := by ring
    _ ≡ k * 1 [MOD q] := w_eq.mul_left k
    _ = k := Nat.mul_one k

namespace ValidDss

variable {key : DssKey} (valid : ValidDss key)

include valid

theorem q_lt : key.q < 2 ^ dssQBits := by
  rw [← valid.bits]
  exact mpCountBits_le_iff.1 (Nat.le_refl _)

theorem p_ne_zero : key.p ≠ 0 := by
  intro zero
  have one := pow_orderOf_eq_one (key.g : ZMod key.p)
  rw [valid.order, ← Nat.cast_pow, ← Nat.cast_one, ZMod.natCast_eq_natCast_iff, zero,
    Nat.modEq_zero_iff, Nat.pow_eq_one] at one
  have order := valid.order
  rcases one with one | none
  · rw [one, Nat.cast_one, orderOf_one] at order
    exact valid.prime.one_lt.ne order
  · exact valid.prime.ne_zero none

/-- Powers of the generator depend on the exponent modulo `q`. -/
theorem pow_mod_eq {e e' : Nat} (same : e ≡ e' [MOD key.q]) :
    key.g ^ e % key.p = key.g ^ e' % key.p := by
  have powers : (key.g : ZMod key.p) ^ e = (key.g : ZMod key.p) ^ e' := by
    rw [← pow_mod_orderOf, valid.order, same, ← valid.order, pow_mod_orderOf]
  rwa [← Nat.cast_pow, ← Nat.cast_pow, ZMod.natCast_eq_natCast_iff'] at powers

/-- What verifying computes from the two powers. -/
theorem product_eq {u₁ u₂ k : Nat} (sum : u₁ + key.x * u₂ ≡ k [MOD key.q]) :
    (key.g ^ u₁ % key.p) * (key.y ^ u₂ % key.p) % key.p = key.g ^ k % key.p := by
  rw [valid.y_eq, ← Nat.mul_mod, Nat.mul_mod, Nat.pow_mod (key.g ^ key.x % key.p), Nat.mod_mod,
    ← Nat.pow_mod, ← Nat.mul_mod, ← Nat.pow_mul, ← Nat.pow_add]
  exact valid.pow_mod_eq sum

end ValidDss

/-- Neither of the two numbers of the signature with the nonce `k` vanishes. -/
def Invertible (key : DssKey) (data : Bytes) (k : Nat) : Prop :=
  ¬ key.q ∣ key.g ^ k % key.p ∧ ¬ key.q ∣ ofBe (sha1 data) + key.x * (key.g ^ k % key.p)

instance (key : DssKey) (data : Bytes) (k : Nat) : Decidable (Invertible key data k) :=
  inferInstanceAs (Decidable (_ ∧ _))

section

variable {key : DssKey} (valid : ValidDss key) {k : Nat} (positive : 0 < k) (below : k < key.q)

include valid positive below

/-- The two numbers that are written. -/
theorem exists_dssSign (m : Nat) : ∃ s kInverse,
    dssSign key k m = some (key.g ^ k % key.p % key.q, s) ∧ s < key.q ∧
      k * kInverse ≡ 1 [MOD key.q] ∧
        s ≡ kInverse * (m + key.g ^ k % key.p % key.q * key.x) [MOD key.q] := by
  have q_ne_zero := valid.prime.ne_zero
  have coprime : k.Coprime key.q := (Nat.coprime_of_lt_prime positive.ne' below valid.prime).symm
  obtain ⟨kInverse, inverted, inverse⟩ := exists_mpInvmod valid.prime.one_lt coprime
  refine ⟨kInverse * ((m + key.g ^ k % key.p % key.q * key.x % key.q) % key.q) % key.q, kInverse, ?_,
    Nat.mod_lt _ valid.prime.pos, inverse, ?_⟩
  · simp only [dssSign, mpExptmod_natCast _ _ valid.p_ne_zero, mpMod, mpMulmod, mpAddmod, inverted,
      if_neg q_ne_zero]
    rfl
  · calc
      _ ≡ kInverse * ((m + key.g ^ k % key.p % key.q * key.x % key.q) % key.q) [MOD key.q] :=
          Nat.mod_modEq _ _
      _ ≡ kInverse * (m + key.g ^ k % key.p % key.q * key.x % key.q) [MOD key.q] :=
          (Nat.mod_modEq _ _).mul_left _
      _ ≡ kInverse * (m + key.g ^ k % key.p % key.q * key.x) [MOD key.q] :=
          ((Nat.mod_modEq _ _).add_left m).mul_left _

end

variable {key : DssKey}

/-- A signature in which neither number is zero passes the check. -/
theorem dssCheck_eq_true (valid : ValidDss key) {k m s kInverse : Nat} (s_pos : 0 < s)
    (s_lt : s < key.q) (r_pos : 0 < key.g ^ k % key.p % key.q)
    (inverse : k * kInverse ≡ 1 [MOD key.q])
    (s_eq : s ≡ kInverse * (m + key.g ^ k % key.p % key.q * key.x) [MOD key.q]) :
    dssCheck key m (key.g ^ k % key.p % key.q) s = some true := by
  have r_lt : key.g ^ k % key.p % key.q < key.q := Nat.mod_lt _ valid.prime.pos
  have coprime : s.Coprime key.q := (Nat.coprime_of_lt_prime s_pos.ne' s_lt valid.prime).symm
  obtain ⟨w, inverted, w_eq⟩ := exists_mpInvmod valid.prime.one_lt coprime
  have product := valid.product_eq (exponent_modEq inverse s_eq w_eq)
  simp only [dssCheck, guard, s_pos, s_lt, r_pos, r_lt, if_true, inverted, mpMulmod, mpMod,
    if_neg valid.prime.ne_zero, if_neg valid.p_ne_zero, mpExptmod_natCast _ _ valid.p_ne_zero,
    Option.pure_def, Option.bind_eq_bind, Option.bind_some, product, decide_true]

/-- A number that is zero is refused. -/
theorem dssCheck_eq_none {m r s : Nat} (zero : r = 0 ∨ s = 0) :
    dssCheck key m r s = none := by
  by_cases s_pos : 0 < s
  · obtain rfl : r = 0 := by omega
    simp [dssCheck, guard]
  · simp [dssCheck, guard, s_pos]

/-- The second number is zero when what is signed with the nonce is. -/
theorem s_pos_iff (valid : ValidDss key) {k m s kInverse : Nat} (s_lt : s < key.q)
    (inverse : k * kInverse ≡ 1 [MOD key.q])
    (s_eq : s ≡ kInverse * (m + key.g ^ k % key.p % key.q * key.x) [MOD key.q]) :
    0 < s ↔ ¬ key.q ∣ m + key.x * (key.g ^ k % key.p) := by
  have unit : ¬ key.q ∣ kInverse := by
    intro divides
    have zero := (Nat.modEq_zero_iff_dvd.2 (divides.mul_left k)).symm.trans inverse
    rw [Nat.ModEq, Nat.zero_mod, Nat.mod_eq_of_lt valid.prime.one_lt] at zero
    exact absurd zero (by decide)
  have reduced : m + key.g ^ k % key.p % key.q * key.x ≡ m + key.x * (key.g ^ k % key.p)
      [MOD key.q] := by
    rw [Nat.mul_comm key.x]
    exact ((Nat.mod_modEq _ _).mul_right _).add_left m
  have zero_iff : s = 0 ↔ key.q ∣ s :=
    ⟨fun zero => zero ▸ dvd_zero _, fun divides => Nat.eq_zero_of_dvd_of_lt divides s_lt⟩
  rw [Nat.pos_iff_ne_zero, Ne, zero_iff, s_eq.dvd_iff (dvd_refl _),
    valid.prime.dvd_mul, reduced.dvd_iff (dvd_refl _)]
  simp [unit]

/-! ## The signature in its buffer -/

theorem appends_putHashSized {n : Nat} (fits : n < 256 ^ sha1HashSize) :
    Appends (putHashSized · n) (toBe sha1HashSize n) := by
  have size := mpUbinSize_le fits
  intro buf atEnd room
  rw [toBe_eq_zeros_append size] at room ⊢
  obtain ⟨written, wrote, appended⟩ :=
    (appends_putZeros _).bind (appends_bufPutbytes (mpToUbin n)) buf atEnd room
  refine ⟨written, ?_, appended⟩
  simp only [putHashSized, gt_iff_lt, Nat.not_lt.2 size, if_false]
  exact wrote

/-- The bytes of a signature behind its name. -/
def dssBlob (r s : Nat) : Bytes := toBe sha1HashSize r ++ toBe sha1HashSize s

theorem length_dssBlob (r s : Nat) : (dssBlob r s).length = 2 * sha1HashSize := by
  rw [dssBlob, List.length_append, length_toBe, length_toBe]
  rfl

/-- Room for a signature: its name, and two numbers of 160 bits. -/
def dssSigLen : Nat := 4 + (ascii "ssh-dss").length + (4 + 2 * sha1HashSize)

variable {data : Bytes}

theorem appends_bufPutDssSign {k r s : Nat}
    (signed : dssSign key k (ofBe (sha1 data)) = some (r, s)) (r_lt : r < 256 ^ sha1HashSize)
    (s_lt : s < 256 ^ sha1HashSize) :
    Appends (bufPutDssSign · key data k)
      (wireString (ascii "ssh-dss") ++ wireString (dssBlob r s)) := by
  have parts := (appends_bufPutstring (ascii "ssh-dss")).bind
    ((appends_bufPutint (2 * sha1HashSize)).bind
      ((appends_putHashSized r_lt).bind (appends_putHashSized s_lt)))
  have wire : be32 (2 * sha1HashSize) ++ (toBe sha1HashSize r ++ toBe sha1HashSize s) =
      wireString (dssBlob r s) := by
    rw [wireString, length_dssBlob, dssBlob]
  rw [wire] at parts
  intro buf atEnd room
  obtain ⟨written, wrote, appended⟩ := parts buf atEnd room
  refine ⟨written, ?_, appended⟩
  simp only [bufPutDssSign, signed, orExit, Except.ok_bind]
  exact wrote

variable {buf : Buffer}

/-- Verifying reads the two numbers that were written. -/
theorem bufDssVerify_eq {r s : Nat} (r_lt : r < 256 ^ sha1HashSize) (s_lt : s < 256 ^ sha1HashSize)
    (present : wireString (dssBlob r s) <+: buf.rest) :
    bufDssVerify buf key data = .ok ((dssCheck key (ofBe (sha1 data)) r s).getD false) := by
  have short : (dssBlob r s).length ≤ maxStringLen := by
    rw [length_dssBlob]
    decide
  have front : (dssBlob r s).take sha1HashSize = toBe sha1HashSize r :=
    List.take_left' (length_toBe _ _)
  have back : (dssBlob r s).drop sha1HashSize = toBe sha1HashSize s :=
    List.drop_left' (length_toBe _ _)
  rw [bufDssVerify, consumes_bufGetstring (isString_wireString short) buf present, Except.ok_bind]
  simp only [length_dssBlob, ne_eq, not_true_eq_false, if_false, front, back, ofBe_toBe r_lt,
    ofBe_toBe s_lt]
  rfl

/-- Where a signature was written, its name and then its numbers are read. -/
theorem signThenVerify_of_sign {k r s : Nat}
    (signed : dssSign key k (ofBe (sha1 data)) = some (r, s)) (r_lt : r < 256 ^ sha1HashSize)
    (s_lt : s < 256 ^ sha1HashSize) (atEnd : buf.pos = buf.len)
    (room : buf.len + dssSigLen ≤ buf.data.length) :
    signThenVerify buf key data k =
      .ok ((dssCheck key (ofBe (sha1 data)) r s).getD false) := by
  have length : (wireString (ascii "ssh-dss") ++ wireString (dssBlob r s)).length = dssSigLen := by
    rw [List.length_append, length_wireString, length_wireString, length_dssBlob, dssSigLen]
  have short : (ascii "ssh-dss").length ≤ maxStringLen := by decide
  obtain ⟨written, wrote, appended⟩ := appends_bufPutDssSign signed r_lt s_lt buf atEnd (by omega)
  have longer := appended.len
  obtain ⟨back, moved, data_eq, len_eq, pos_eq⟩ := exists_bufSetpos written buf.pos (by omega)
  have rest : back.rest = wireString (ascii "ssh-dss") ++ wireString (dssBlob r s) := by
    rw [Buffer.rest, Buffer.contents, data_eq, len_eq, ← Buffer.contents, appended.contents, pos_eq,
      atEnd, ← buf.length_contents, List.drop_left]
  obtain ⟨named, blob⟩ := prefix_rest_of_append (by rw [rest])
  rw [signThenVerify]
  dsimp only at wrote
  rw [wrote, Except.ok_bind, moved, Except.ok_bind,
    consumes_bufGetstring (isString_wireString short) back named, Except.ok_bind]
  simp only [ne_eq, not_true_eq_false, if_false]
  exact bufDssVerify_eq r_lt s_lt blob

/-- Whether the signature with a nonce is accepted. -/
theorem signThenVerify_eq (valid : ValidDss key) {k : Nat} (positive : 0 < k) (below : k < key.q)
    (data : Bytes) (atEnd : buf.pos = buf.len) (room : buf.len + dssSigLen ≤ buf.data.length) :
    signThenVerify buf key data k = .ok (decide (Invertible key data k)) := by
  obtain ⟨s, kInverse, signed, s_lt, inverse, s_eq⟩ :=
    exists_dssSign valid positive below (ofBe (sha1 data))
  have most : key.q < 256 ^ sha1HashSize := valid.q_lt
  have r_lt : key.g ^ k % key.p % key.q < key.q := Nat.mod_lt _ valid.prime.pos
  have zero_iff : Invertible key data k ↔ key.g ^ k % key.p % key.q ≠ 0 ∧ 0 < s := by
    rw [Invertible, ← s_pos_iff valid s_lt inverse s_eq, Nat.dvd_iff_mod_eq_zero]
  rw [signThenVerify_of_sign signed (r_lt.trans most) (s_lt.trans most) atEnd room]
  by_cases nonzero : key.g ^ k % key.p % key.q ≠ 0 ∧ 0 < s
  · rw [dssCheck_eq_true valid nonzero.2 s_lt (Nat.pos_of_ne_zero nonzero.1) inverse s_eq,
      decide_eq_true (zero_iff.2 nonzero)]
    rfl
  · rw [dssCheck_eq_none (by omega), decide_eq_false (mt zero_iff.1 nonzero)]
    rfl

/-- **A DSS signature is accepted exactly if neither of its numbers is zero.** -/
theorem dssSignature_accepted_iff (key : DssKey) (valid : ValidDss key) (data : Bytes)
    (draws : List Bytes) (k : Nat) (drawn : genRandomMpint key.q draws = some k) (buf : Buffer)
    (atEnd : buf.pos = buf.len) (room : buf.len + dssSigLen ≤ buf.data.length) :
    signThenVerify buf key data k = .ok true ↔ Invertible key data k := by
  obtain ⟨positive, below⟩ := genRandomMpint_inRange drawn
  rw [signThenVerify_eq valid positive below data atEnd room, Except.ok.injEq, decide_eq_true_eq]

/-! ## A key with which a message cannot be signed -/

/-- A prime of 160 bits. -/
def smoothQ : Nat := 2 ^ 77 * 3 ^ 52 + 1

/-- A prime of 1024 bits. -/
def smoothP : Nat := (2 ^ 207) ^ 4 * 3 ^ 23 * smoothQ + 1

theorem smoothQ_prime : smoothQ.Prime := by
  refine prime_of_primitive 5 160 (by decide +kernel) (fun factor prime divides => ?_)
    (by decide +kernel) (show ∀ factor ∈ [2, 3], _ by decide +kernel)
  rw [smoothQ, Nat.add_sub_cancel, prime.dvd_mul] at divides
  rcases divides with two | three
  · simp [(Nat.prime_dvd_prime_iff_eq prime Nat.prime_two).1 (prime.dvd_of_dvd_pow two)]
  · simp [(Nat.prime_dvd_prime_iff_eq prime Nat.prime_three).1 (prime.dvd_of_dvd_pow three)]

theorem smoothP_prime : smoothP.Prime := by
  refine prime_of_primitive 5 1024 (by decide +kernel) (fun factor prime divides => ?_)
    (by decide +kernel) (show ∀ factor ∈ [2, 3, smoothQ], _ by decide +kernel)
  rw [smoothP, Nat.add_sub_cancel, prime.dvd_mul, prime.dvd_mul] at divides
  rcases divides with (two | three) | q
  · simp [(Nat.prime_dvd_prime_iff_eq prime Nat.prime_two).1
      (prime.dvd_of_dvd_pow (prime.dvd_of_dvd_pow two))]
  · simp [(Nat.prime_dvd_prime_iff_eq prime Nat.prime_three).1 (prime.dvd_of_dvd_pow three)]
  · simp [(Nat.prime_dvd_prime_iff_eq prime smoothQ_prime).1 q]

/-- A power of two of order `smoothQ`. -/
def smoothG : Nat :=
  ((0x79c1aa4a38341c5b09e4ed79a857b46d4787265ad24dfee0913c4679e1acf46a * 2 ^ 256 +
    0x32bfb8cb467a5edf2041104279a4be3dc37b818357f49f2164e98690a815a4d6) * 2 ^ 256 +
    0x0429493f3d181ea2cfc9d9a49fd9a89af0907c5fe62ef0baff25eaf81c5efa43) * 2 ^ 256 +
    0x8b2903c31f94c2e68359eb375544ff6277112b8ed734be6d48ae886791c66b54

theorem orderOf_smoothG : orderOf (smoothG : ZMod smoothP) = smoothQ := by
  have : Fact smoothQ.Prime := ⟨smoothQ_prime⟩
  refine orderOf_eq_prime ?_ ?_
  · rw [← Nat.cast_pow, ← Nat.cast_one, ZMod.natCast_eq_natCast_iff',
      ← powMod_eq _ _ (show smoothQ < 2 ^ 160 by decide +kernel)]
    decide +kernel
  · rw [← Nat.cast_one, Ne, ZMod.natCast_eq_natCast_iff']
    decide +kernel

/-- A key of this group. -/
def smoothKey (x : Nat) : DssKey where
  p := smoothP
  q := smoothQ
  g := smoothG
  y := smoothG ^ x % smoothP
  x := x

theorem smoothKey_valid {x : Nat} (positive : 0 < x) (below : x < smoothQ) :
    ValidDss (smoothKey x) where
  prime := smoothQ_prime
  bits := show mpCountBits smoothQ = dssQBits by decide +kernel
  divides := show smoothQ ∣ smoothP - 1 by decide +kernel
  order := orderOf_smoothG
  positive := positive
  below := below
  y_eq := rfl

/-- A buffer with room for one signature. -/
def signatureBuffer : Buffer := .ofSize dssSigLen (by decide)

theorem signatureBuffer_room :
    signatureBuffer.len + dssSigLen ≤ signatureBuffer.data.length := by
  decide

/-- The draw of the nonce 1. -/
theorem genRandomMpint_one : genRandomMpint smoothQ [toBe 20 1] = some 1 := by
  decide +kernel

theorem dssSignature_accepted_smoothKey : ValidDss (smoothKey 1) ∧
    signThenVerify signatureBuffer (smoothKey 1) (ascii "abc") 1 = .ok true := by
  have valid := smoothKey_valid Nat.one_pos (x := 1) (by decide +kernel)
  refine ⟨valid, (dssSignature_accepted_iff _ valid _ [toBe 20 1] 1 genRandomMpint_one _ rfl
    signatureBuffer_room).2 ?_⟩
  rw [Invertible, smoothKey, Nat.pow_one]
  decide +kernel

/-- The private number for which the hash of `abc` is cancelled by the nonce 1. -/
def cancelling : Nat := 0x264e408fa0715912c14e49b9ebfe5ca0a82476aa

/-- With this key, and a nonce in range, the second number of the signature is zero: it is
written, and refused. -/
theorem dssSignature_refused_for_zero :
    ValidDss (smoothKey cancelling) ∧ smoothP.Prime ∧ mpCountBits smoothP = dssPBits ∧
      genRandomMpint smoothQ [toBe 20 1] = some 1 ∧
        signThenVerify signatureBuffer (smoothKey cancelling) (ascii "abc") 1 = .ok false := by
  have valid := smoothKey_valid (x := cancelling) (by decide +kernel) (by decide +kernel)
  have cancelled : ¬ Invertible (smoothKey cancelling) (ascii "abc") 1 := by
    rw [Invertible, smoothKey, Nat.pow_one]
    decide +kernel
  refine ⟨valid, smoothP_prime, by decide +kernel, genRandomMpint_one, ?_⟩
  rw [signThenVerify_eq valid Nat.one_pos valid.prime.one_lt _ rfl signatureBuffer_room,
    decide_eq_false cancelled]

end Dropbear.Crypto
