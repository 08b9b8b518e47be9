/-
# RSA signatures

`buf_put_rsa_sign` and `buf_rsa_verify` with the padding they share.  Signing
blinds the base with a random `r` and the exponent with a random `b`.  Whatever
these are, the signature is the power `em ^ d` modulo `n`, and it is accepted.
-/

import Dropbear.Crypto.Sha1
import Dropbear.Program.PrimePowers
import Dropbear.Signkey.Modular
import Dropbear.Signkey.Mpint
import Dropbear.Signkey.Put

namespace Dropbear.Signkey

open Program

/-! ## The padded message -/

/-- The numbers of a `dropbear_rsa_key` with its private part. -/
structure RsaKey where
  n : Nat
  e : Nat
  d : Nat
  p : Nat
  q : Nat
  deriving DecidableEq, Repr

/-- The signature types of RSA keys. -/
inductive RsaSigtype where
  | rsaSha1
  | rsaSha256
  deriving DecidableEq, Repr

/-- The two hashes. -/
structure RsaHashes where
  sha1 : Bytes → Bytes
  sha256 : Bytes → Bytes
  length_sha1 : ∀ data, (sha1 data).length = 20
  length_sha256 : ∀ data, (sha256 data).length = 32

namespace RsaSigtype

/-- `signature_name_from_type`. -/
def name : RsaSigtype → Bytes
  | .rsaSha1 => ascii "ssh-rsa"
  | .rsaSha256 => ascii "rsa-sha2-256"

/-- The DER encoding of the hash algorithm. -/
def t : RsaSigtype → Bytes
  | .rsaSha1 =>
    [0x30, 0x21, 0x30, 0x09, 0x06, 0x05, 0x2b, 0x0e, 0x03, 0x02, 0x1a, 0x05, 0x00, 0x04, 0x14]
  | .rsaSha256 =>
    [0x30, 0x31, 0x30, 0x0d, 0x06, 0x09, 0x60, 0x86, 0x48, 0x01, 0x65, 0x03, 0x04, 0x02, 0x01,
      0x05, 0x00, 0x04, 0x20]

def hashsize : RsaSigtype → Nat
  | .rsaSha1 => 20
  | .rsaSha256 => 32

def digest (hashes : RsaHashes) : RsaSigtype → Bytes → Bytes
  | .rsaSha1 => hashes.sha1
  | .rsaSha256 => hashes.sha256

theorem length_digest (hashes : RsaHashes) (sigtype : RsaSigtype) (data : Bytes) :
    (sigtype.digest hashes data).length = sigtype.hashsize := by
  cases sigtype with
  | rsaSha1 => exact hashes.length_sha1 data
  | rsaSha256 => exact hashes.length_sha256 data

end RsaSigtype

/-- Padding with PS 0xFF bytes. -/
def padLoop (target : Nat) : Nat → Buffer → Except Exit Buffer
  | 0, _ => .error .stuck
  | fuel + 1, rsaEM =>
    if rsaEM.pos ≠ target then bufPutbyte rsaEM 0xff >>= padLoop target fuel
    else .ok rsaEM

/-- The bytes of EM, from which `rsa_pad_em` makes its number.  The difference in
the loop's condition is taken modulo 2^64, and the loop cannot go on for longer
than there is room. -/
def rsaPadEM (hashes : RsaHashes) (n : Nat) (sigtype : RsaSigtype) (data : Bytes) :
    Except Exit Bytes := do
  let rsaEM ← bufNew (mpUbinSize n)
  -- type byte
  let rsaEM ← bufPutbyte rsaEM 0x00
  let rsaEM ← bufPutbyte rsaEM 0x01
  let rest := 1 + sigtype.t.length + sigtype.hashsize
  let rsaEM ← padLoop ((rsaEM.data.length + (2 ^ 64 - rest)) % 2 ^ 64) (rsaEM.data.length + 1) rsaEM
  let rsaEM ← bufPutbyte rsaEM 0x00
  -- Magic ASN1 stuff
  let rsaEM ← bufPutbytes rsaEM sigtype.t
  -- The hash of the data
  let ptr ← bufGetwriteptr rsaEM sigtype.hashsize
  let rsaEM ← rsaEM.poke ptr (sigtype.digest hashes data)
  let rsaEM ← bufIncrwritepos rsaEM sigtype.hashsize
  if rsaEM.pos ≠ rsaEM.data.length then throw (.assertion "rsa_EM->pos == rsa_EM->size")
  let rsaEM ← bufSetpos rsaEM 0
  let ptr ← bufGetptr rsaEM rsaEM.data.length
  rsaEM.peek ptr rsaEM.data.length

def rsaPadEm (hashes : RsaHashes) (n : Nat) (sigtype : RsaSigtype) (data : Bytes) :
    Except Exit Nat := do
  let bytes ← rsaPadEM hashes n sigtype data
  pure (ofBe bytes)

/-! ## Signing and verifying -/

/-- The number that is the signature of `em`, with the blinding values. -/
def rsaSign (key : RsaKey) (r b em : Nat) : Option Nat := do
  -- em' = em * r^e mod n
  let s ← mpExptmod r key.e key.n
  let tmp3 ← mpInvmod r key.n
  let tmp2 ← mpMulmod em s key.n
  -- phi(n) = n + 1 - p - q
  let phi : Int := (key.n : Int) + 1 - key.p - key.q
  -- s' = (em')^(d + b*phi(n)) mod n
  let tmp1 ← mpExptmod tmp2 (key.d + b * phi) key.n
  -- s = (s')r^(-1) mod n
  mpMulmod tmp1 tmp3 key.n

/-- Zero bytes in front of the signature. -/
def putZeros : Nat → Buffer → Except Exit Buffer
  | 0, buf => .ok buf
  | count + 1, buf => bufPutbyte buf 0x00 >>= putZeros count

/-- Sign the data with the random values `r` and `b`, writing the signature
contents to the buffer. -/
def bufPutRsaSign (hashes : RsaHashes) (buf : Buffer) (key : RsaKey) (sigtype : RsaSigtype)
    (data : Bytes) (r b : Nat) : Except Exit Buffer := do
  let em ← rsaPadEm hashes key.n sigtype data
  let s ← orExit "RSA error" (rsaSign key r b em)
  let buf ← bufPutstring buf sigtype.name
  let nsize := mpUbinSize key.n
  -- string rsa_signature_blob length
  let buf ← bufPutint buf nsize
  -- pad out s to same length as n
  let ssize := mpUbinSize s
  if ssize > nsize then throw (.assertion "ssize <= nsize")
  let buf ← putZeros (nsize - ssize) buf
  let ptr ← bufGetwriteptr buf ssize
  let buf ← buf.poke ptr (mpToUbin s)
  bufIncrwritepos buf (mpToUbin s).length

/-- Verify the signature at the position of `buf`, behind its name. -/
def bufRsaVerify (hashes : RsaHashes) (buf : Buffer) (e n : Nat) (sigtype : RsaSigtype)
    (data : Bytes) : Except Exit Bool := do
  let (slen, buf) ← bufGetint buf
  if slen ≠ mpUbinSize n then pure false
  else do
    let ptr ← bufGetptr buf (buf.len - buf.pos)
    let bytes ← buf.peek ptr (buf.len - buf.pos)
    let s := ofBe bytes
    -- check that s <= n-1
    if ¬ s < n then pure false
    else do
      let em ← rsaPadEm hashes n sigtype data
      match mpExptmod s e n with
      | none => pure false
      | some mdash => pure (em = mdash)

/-! ## The padding ends -/

theorem padLoop_appended (fuel target count : Nat) :
    ∀ buf : Buffer, buf.pos = buf.len → buf.pos + count = target → target ≤ buf.data.length →
      count < fuel → ∃ written, padLoop target fuel buf = .ok written ∧
        Appended buf written (List.replicate count 0xff) := by
  induction count generalizing fuel with
  | zero =>
    intro buf atEnd here _ more
    obtain ⟨fuel, rfl⟩ := Nat.exists_eq_add_of_lt more
    rw [Nat.zero_add, padLoop, if_neg (by omega)]
    exact Appends.pure buf atEnd (by simpa using buf.len_le_size)
  | succ count ih =>
    intro buf atEnd here room more
    obtain ⟨fuel, rfl⟩ : ∃ less, fuel = less + 1 := ⟨fuel - 1, by omega⟩
    obtain ⟨middle, put, appended⟩ := appends_bufPutbyte 0xff buf atEnd (by
      rw [List.length_singleton]
      omega)
    have len := appended.len
    rw [List.length_singleton] at len
    obtain ⟨written, wrote, appended'⟩ := ih fuel middle appended.atEnd
      (by rw [appended.atEnd, len]; omega) (by rw [appended.size]; omega)
      (Nat.lt_of_succ_lt_succ more)
    refine ⟨written, ?_, appended.trans appended'⟩
    dsimp only at put
    rw [padLoop, if_pos (by omega), put, Except.ok_bind, wrote]

/-- EM, as the comment of `rsa_pad_em` puts it together. -/
def paddedMessage (hashes : RsaHashes) (n : Nat) (sigtype : RsaSigtype) (data : Bytes) : Bytes :=
  [0x00] ++ ([0x01] ++ (List.replicate
      (mpUbinSize n - (3 + sigtype.t.length + sigtype.hashsize)) 0xff ++
    ([0x00] ++ (sigtype.t ++ sigtype.digest hashes data))))

theorem RsaSigtype.overhead_le (sigtype : RsaSigtype) :
    3 + sigtype.t.length + sigtype.hashsize ≤ 54 := by
  cases sigtype <;> decide

theorem mpUbinSize_long {n : Nat} (long : minRsaKeylen ≤ mpCountBits n) : 128 ≤ mpUbinSize n := by
  rw [mpUbinSize]
  rw [minRsaKeylen] at long
  omega

section

variable {n : Nat} (long : minRsaKeylen ≤ mpCountBits n) (hashes : RsaHashes)
  (sigtype : RsaSigtype) (data : Bytes)

include long

theorem length_paddedMessage : (paddedMessage hashes n sigtype data).length = mpUbinSize n := by
  have size := mpUbinSize_long long
  have overhead := sigtype.overhead_le
  simp only [paddedMessage, List.length_append, List.length_singleton, List.length_replicate,
    RsaSigtype.length_digest]
  omega

/-- The leading zero byte keeps the message below the modulus. -/
theorem ofBe_paddedMessage_lt : ofBe (paddedMessage hashes n sigtype data) < n := by
  have length := length_paddedMessage long hashes sigtype data
  have size := mpUbinSize_long long
  have whole : paddedMessage hashes n sigtype data =
      0x00 :: (paddedMessage hashes n sigtype data).drop 1 := rfl
  have below := ofBe_lt_pow ((paddedMessage hashes n sigtype data).drop 1)
  rw [List.length_drop, length] at below
  have value : ofBe (paddedMessage hashes n sigtype data) =
      ofBe ((paddedMessage hashes n sigtype data).drop 1) := by
    rw [whole, ofBe_cons]
    simp
  rw [value]
  refine Nat.lt_of_lt_of_le below ?_
  by_contra smaller
  have fewer := mpUbinSize_le (Nat.lt_of_not_le smaller)
  omega

/-- The buffer of EM when all of it has been written. -/
theorem exists_fullEM {new : Buffer} (room : new.data.length = mpUbinSize n) (empty : new.len = 0) :
    ∃ zero one padded closed named full,
      bufPutbyte new 0x00 = .ok zero ∧ bufPutbyte zero 0x01 = .ok one ∧
        one.data.length = mpUbinSize n ∧
        padLoop (mpUbinSize n - (1 + sigtype.t.length + sigtype.hashsize)) (mpUbinSize n + 1) one =
          .ok padded ∧ bufPutbyte padded 0x00 = .ok closed ∧
        bufPutbytes closed sigtype.t = .ok named ∧
        bufPutbytes named (sigtype.digest hashes data) = .ok full ∧
        full.contents = paddedMessage hashes n sigtype data ∧ full.pos = full.len ∧
        full.data.length = mpUbinSize n := by
  have size := mpUbinSize_long long
  have overhead := sigtype.overhead_le
  have digest := sigtype.length_digest hashes data
  have used := new.pos_le_len
  have types : Appends (fun buf => bufPutbyte buf 0x00 >>= fun buf => bufPutbyte buf 0x01)
      ([0x00] ++ [0x01]) := (appends_bufPutbyte 0x00).bind (appends_bufPutbyte 0x01)
  obtain ⟨one, put, isOne⟩ := types new (by omega) (by
    simp only [List.length_append, List.length_singleton]
    omega)
  obtain ⟨zero, putZero, putOne⟩ := Except.bind_eq_ok.1 put
  have oneLen := isOne.len
  have oneSize := isOne.size
  simp only [List.length_append, List.length_singleton] at oneLen
  obtain ⟨padded, pad, isPadded⟩ := padLoop_appended (mpUbinSize n + 1)
    (mpUbinSize n - (1 + sigtype.t.length + sigtype.hashsize))
    (mpUbinSize n - (3 + sigtype.t.length + sigtype.hashsize)) one isOne.atEnd
    (by rw [isOne.atEnd]; omega) (by omega) (by omega)
  have paddedLen := isPadded.len
  rw [List.length_replicate] at paddedLen
  have rest : Appends (fun buf => bufPutbyte buf 0x00 >>= fun buf => bufPutbytes buf sigtype.t >>=
      fun buf => bufPutbytes buf (sigtype.digest hashes data))
      ([0x00] ++ (sigtype.t ++ sigtype.digest hashes data)) :=
    (appends_bufPutbyte 0x00).bind ((appends_bufPutbytes sigtype.t).bind
      (appends_bufPutbytes (sigtype.digest hashes data)))
  obtain ⟨full, put', isFull⟩ := rest padded isPadded.atEnd (by
    rw [isPadded.size, paddedLen]
    simp only [List.length_append, List.length_singleton, digest]
    omega)
  obtain ⟨closed, close, put'⟩ := Except.bind_eq_ok.1 put'
  obtain ⟨named, name, hash⟩ := Except.bind_eq_ok.1 put'
  have whole := isOne.trans (isPadded.trans isFull)
  refine ⟨zero, one, padded, closed, named, full, putZero, putOne, oneSize.trans room, pad, close,
    name, hash, ?_, isFull.atEnd, whole.size.trans room⟩
  rw [whole.contents, Buffer.contents, empty, List.take_zero, List.nil_append, paddedMessage,
    List.append_assoc]

theorem rsaPadEM_eq (fits : mpUbinSize n ≤ bufMaxSize) :
    rsaPadEM hashes n sigtype data = .ok (paddedMessage hashes n sigtype data) := by
  have size := mpUbinSize_long long
  have overhead := sigtype.overhead_le
  have most : bufMaxSize < 2 ^ 64 := by decide
  obtain ⟨new, made, cleared, len, pos⟩ := exists_bufNew (mpUbinSize n) fits
  obtain ⟨zero, one, padded, closed, named, full, putZero, putOne, oneSize, pad, close, name, hash,
    contents, atEnd, fullSize⟩ := exists_fullEM long hashes sigtype data
      (by rw [cleared, List.length_replicate]) len
  have fullLen : full.len = mpUbinSize n := by
    rw [← full.length_contents, contents, length_paddedMessage long]
  have target : (mpUbinSize n + (2 ^ 64 - (1 + sigtype.t.length + sigtype.hashsize))) % 2 ^ 64 =
      mpUbinSize n - (1 + sigtype.t.length + sigtype.hashsize) := by omega
  obtain ⟨start, moved, startData, startLen, startPos⟩ := exists_bufSetpos full 0 (Nat.zero_le _)
  have present : paddedMessage hashes n sigtype data <+: start.rest := by
    rw [Buffer.rest, startPos, List.drop_zero, Buffer.contents, startData, startLen,
      ← Buffer.contents, contents]
  have startSize : start.data.length = (paddedMessage hashes n sigtype data).length := by
    rw [startData, fullSize, length_paddedMessage long]
  obtain ⟨pointed, peeked⟩ := bufGetptr_peek (by
    rw [length_paddedMessage long]
    exact Nat.le_trans fits (by decide)) present
  have hashed := hash
  simp only [bufPutbytes, sigtype.length_digest] at hashed
  obtain ⟨ptr, written, hashed⟩ := Except.bind_eq_ok.1 hashed
  obtain ⟨stored, poked, advanced⟩ := Except.bind_eq_ok.1 hashed
  simp only [rsaPadEM, made, putZero, putOne, oneSize, target, pad, close, name, written, poked,
    advanced, Except.ok_bind, atEnd, fullLen, fullSize, ne_eq, not_true_eq_false, if_false, moved,
    startSize, pointed, peeked]

end

/-! ## The blinding cancels -/

/-- A key as the signing code expects it. -/
structure RsaKey.Valid (key : RsaKey) : Prop where
  p_prime : key.p.Prime
  q_prime : key.q.Prime
  p_odd : key.p ≠ 2
  q_odd : key.q ≠ 2
  distinct : key.p ≠ key.q
  n_eq : key.n = key.p * key.q
  n_bits : minRsaKeylen ≤ mpCountBits key.n
  inverse : key.e * key.d ≡ 1 [MOD Nat.lcm (key.p - 1) (key.q - 1)]

/-- The blinded exponent is as good as `d`. -/
theorem blinded_modEq (key : RsaKey) (b : Nat) :
    key.d + b * ((key.p - 1) * (key.q - 1)) ≡ key.d [MOD key.p - 1] ∧
      key.d + b * ((key.p - 1) * (key.q - 1)) ≡ key.d [MOD key.q - 1] := by
  constructor
  · rw [show b * ((key.p - 1) * (key.q - 1)) = (key.p - 1) * (b * (key.q - 1)) by ring]
    exact Nat.add_mul_mod_self_left ..
  · rw [show b * ((key.p - 1) * (key.q - 1)) = (key.q - 1) * (b * (key.p - 1)) by ring]
    exact Nat.add_mul_mod_self_left ..

namespace RsaKey.Valid

variable {key : RsaKey} (valid : key.Valid)

include valid

theorem n_gt_one : 1 < key.n := by
  have bits := valid.n_bits
  by_contra small
  have few := mpCountBits_le_iff.2 (show key.n < 2 ^ 1 by omega)
  rw [minRsaKeylen] at bits
  omega

/-- The two exponents are inverse modulo one less than either prime, and are not
zero. -/
theorem inverse_p : key.e * key.d ≡ 1 [MOD key.p - 1] := valid.inverse.of_dvd (Nat.dvd_lcm_left _ _)

theorem inverse_q : key.e * key.d ≡ 1 [MOD key.q - 1] :=
  valid.inverse.of_dvd (Nat.dvd_lcm_right _ _)

theorem exponents_pos : 0 < key.e * key.d := by
  have two := valid.p_prime.two_le
  have odd := valid.p_odd
  have inverse := valid.inverse_p
  by_contra none
  rw [Nat.eq_zero_of_not_pos none, Nat.ModEq, Nat.zero_mod, Nat.mod_eq_of_lt (by omega)] at inverse
  exact absurd inverse (by decide)

theorem d_pos : 0 < key.d := Nat.pos_of_mul_pos_left valid.exponents_pos

/-- The exponent after blinding. -/
theorem phi_eq : (key.n : Int) + 1 - key.p - key.q = ((key.p - 1) * (key.q - 1) : Nat) := by
  have two := valid.p_prime.two_le
  have two' := valid.q_prime.two_le
  rw [valid.n_eq, Nat.cast_mul, Nat.cast_mul, Nat.cast_sub (by omega), Nat.cast_sub (by omega)]
  push_cast
  ring

theorem pow_modEq {k l : Nat} (a : Nat) (same : k ≡ l [MOD key.p - 1])
    (same' : k ≡ l [MOD key.q - 1]) (some : 0 < k) (some' : 0 < l) :
    a ^ k ≡ a ^ l [MOD key.n] := by
  rw [valid.n_eq]
  exact pow_modEq_pow_of_primes valid.p_prime valid.q_prime valid.distinct a same same' some some'

/-- **The signature is `em ^ d` modulo `n`**, whatever it is blinded with. -/
theorem rsaSign_eq {r : Nat} (b em : Nat) (coprime : r.Coprime key.n) :
    rsaSign key r b em = some (em ^ key.d % key.n) := by
  have large := valid.n_gt_one
  have nonzero : key.n ≠ 0 := by omega
  obtain ⟨inverse, inverts, isInverse⟩ := exists_mpInvmod large coprime
  have exponent : (key.d : Int) + b * ((key.n : Int) + 1 - key.p - key.q) =
      (key.d + b * ((key.p - 1) * (key.q - 1)) : Nat) := by
    rw [valid.phi_eq]
    push_cast
    ring
  simp only [rsaSign, exponent, mpExptmod_natCast _ _ nonzero, inverts, mpMulmod, if_neg nonzero,
    Option.bind_eq_bind, Option.bind_some, Option.some_inj]
  obtain ⟨byP, byQ⟩ := blinded_modEq key b
  have dPos := valid.d_pos
  have edPos := valid.exponents_pos
  have blindedPos := Nat.add_pos_left dPos (b * ((key.p - 1) * (key.q - 1)))
  generalize key.d + b * ((key.p - 1) * (key.q - 1)) = blinded at byP byQ blindedPos
  change _ ≡ _ [MOD key.n]
  calc
    (em * (r ^ key.e % key.n) % key.n) ^ blinded % key.n * inverse
        ≡ (em * r ^ key.e) ^ blinded * inverse [MOD key.n] := by
          refine Nat.ModEq.mul_right _ ((Nat.mod_modEq _ _).trans (Nat.ModEq.pow _ ?_))
          exact (Nat.mod_modEq _ _).trans ((Nat.mod_modEq _ _).mul_left _)
    _ = em ^ blinded * r ^ (key.e * blinded) * inverse := by rw [mul_pow, ← pow_mul]
    _ ≡ em ^ key.d * r ^ 1 * inverse [MOD key.n] := by
          refine Nat.ModEq.mul_right _ (Nat.ModEq.mul ?_ ?_)
          · exact valid.pow_modEq em byP byQ blindedPos dPos
          · exact valid.pow_modEq r ((byP.mul_left _).trans valid.inverse_p)
              ((byQ.mul_left _).trans valid.inverse_q)
              (Nat.mul_pos (Nat.pos_of_mul_pos_right edPos) blindedPos) Nat.one_pos
    _ = em ^ key.d * (r * inverse) := by rw [pow_one, mul_assoc]
    _ ≡ em ^ key.d * 1 [MOD key.n] := isInverse.mul_left _
    _ = em ^ key.d := mul_one _

/-- A signature is a root of the message. -/
theorem pow_e_eq {em : Nat} (below : em < key.n) :
    (em ^ key.d % key.n) ^ key.e % key.n = em := by
  have root : (em ^ key.d % key.n) ^ key.e ≡ em [MOD key.n] := by
    calc
      (em ^ key.d % key.n) ^ key.e ≡ (em ^ key.d) ^ key.e [MOD key.n] := (Nat.mod_modEq _ _).pow _
      _ = em ^ (key.e * key.d) := by rw [← pow_mul, mul_comm]
      _ ≡ em ^ 1 [MOD key.n] :=
        valid.pow_modEq em valid.inverse_p valid.inverse_q valid.exponents_pos Nat.one_pos
      _ = em := pow_one em
  rw [root, Nat.mod_eq_of_lt below]

end RsaKey.Valid

/-! ## The signature in its buffer -/

theorem appends_putZeros (count : Nat) :
    Appends (putZeros count) (List.replicate count 0x00) := by
  induction count with
  | zero => exact Appends.pure
  | succ count ih => exact (appends_bufPutbyte 0x00).bind ih

theorem ofBe_replicate_append (count : Nat) (bytes : Bytes) :
    ofBe (List.replicate count 0x00 ++ bytes) = ofBe bytes := by
  induction count with
  | zero => rfl
  | succ count ih =>
    rw [List.replicate_succ, List.cons_append, ofBe_cons, ih]
    simp

/-- A number padded with zero bytes. -/
theorem toBe_eq_zeros_append {s len : Nat} (fits : mpUbinSize s ≤ len) :
    toBe len s = List.replicate (len - mpUbinSize s) 0x00 ++ mpToUbin s := by
  refine toBe_eq_of_ofBe ?_ ?_
  · rw [List.length_append, List.length_replicate, mpToUbin, length_toBe]
    omega
  · rw [ofBe_replicate_append, mpToUbin, ofBe_toBe (lt_pow_mpUbinSize s)]

theorem mpUbinSize_mono {s n : Nat} (less : s < n) : mpUbinSize s ≤ mpUbinSize n :=
  mpUbinSize_le (Nat.lt_trans less (lt_pow_mpUbinSize n))

/-- A signature as it is written: its name, and as many bytes as the modulus has. -/
def wireSignature (sigtype : RsaSigtype) (n s : Nat) : Bytes :=
  wireString sigtype.name ++ wireString (toBe (mpUbinSize n) s)

/-- What is expected of the signatures of a key.  EM, and with it the signature,
does not depend on the blinding. -/
def SignsCorrectly (hashes : RsaHashes) (key : RsaKey) (sigtype : RsaSigtype) (data : Bytes) :
    Prop :=
  ∃ bytes : Bytes, bytes.length = mpUbinSize key.n ∧ ofBe bytes < key.n ∧
    ∀ dest : Buffer, dest.pos = dest.len →
      dest.len + (wireSignature sigtype key.n (ofBe bytes ^ key.d % key.n)).length ≤
        dest.data.length →
      rsaPadEM hashes key.n sigtype data = .ok bytes ∧
        ∀ r b, r.Coprime key.n →
          ∃ written, bufPutRsaSign hashes dest key sigtype data r b = .ok written ∧
            Appended dest written (wireSignature sigtype key.n (ofBe bytes ^ key.d % key.n)) ∧
            ∀ sig : Buffer, sig.rest = wireString (toBe (mpUbinSize key.n)
                (ofBe bytes ^ key.d % key.n)) →
              bufRsaVerify hashes sig key.e key.n sigtype data = .ok true

theorem length_wireSignature (sigtype : RsaSigtype) (n s : Nat) :
    (wireSignature sigtype n s).length = 4 + sigtype.name.length + (4 + mpUbinSize n) := by
  rw [wireSignature, List.length_append, length_wireString, length_wireString, length_toBe]

/-- Writing a signature that is below the modulus. -/
theorem bufPutRsaSign_appended {hashes : RsaHashes} {key : RsaKey} {sigtype : RsaSigtype}
    {data : Bytes} {r b em s : Nat} (padded : rsaPadEm hashes key.n sigtype data = .ok em)
    (signed : rsaSign key r b em = some s) (below : s < key.n) :
    Appends (bufPutRsaSign hashes · key sigtype data r b) (wireSignature sigtype key.n s) := by
  have fits := mpUbinSize_mono below
  have parts : Appends (fun buf => bufPutstring buf sigtype.name >>= fun buf =>
      bufPutint buf (mpUbinSize key.n) >>= fun buf =>
      putZeros (mpUbinSize key.n - mpUbinSize s) buf >>= fun buf => bufPutbytes buf (mpToUbin s))
      (wireString sigtype.name ++ (be32 (mpUbinSize key.n) ++
        (List.replicate (mpUbinSize key.n - mpUbinSize s) 0x00 ++ mpToUbin s))) :=
    (appends_bufPutstring _).bind ((appends_bufPutint _).bind
      ((appends_putZeros _).bind (appends_bufPutbytes _)))
  have length : (mpToUbin s).length = mpUbinSize s := length_toBe _ _
  rw [← toBe_eq_zeros_append fits] at parts
  have wire : wireString sigtype.name ++ (be32 (mpUbinSize key.n) ++ toBe (mpUbinSize key.n) s) =
      wireSignature sigtype key.n s := by
    rw [wireSignature, wireString, wireString, length_toBe]
  rw [wire] at parts
  intro dest atEnd room
  obtain ⟨written, wrote, appended⟩ := parts dest atEnd room
  refine ⟨written, ?_, appended⟩
  simp only [bufPutRsaSign, padded, signed, orExit, Except.ok_bind, gt_iff_lt, Nat.not_lt.2 fits,
    if_false]
  simp only [bufPutbytes, length] at wrote
  simpa only [length] using wrote

/-- A signature that is a root of the padded message is accepted. -/
theorem bufRsaVerify_of_root {hashes : RsaHashes} {e n : Nat} {sigtype : RsaSigtype} {data : Bytes}
    {em s : Nat} (padded : rsaPadEm hashes n sigtype data = .ok em) (below : s < n)
    (root : s ^ e % n = em) (fits : mpUbinSize n ≤ bufMaxSize) {sig : Buffer}
    (rest : sig.rest = wireString (toBe (mpUbinSize n) s)) :
    bufRsaVerify hashes sig e n sigtype data = .ok true := by
  have whole : be32 (mpUbinSize n) ++ toBe (mpUbinSize n) s <+: sig.rest := by
    rw [rest, wireString, length_toBe]
  have word : mpUbinSize n < 2 ^ 32 := Nat.lt_of_le_of_lt fits (by decide)
  obtain ⟨counted, present⟩ := prefix_rest_of_append whole
  have read := reads_bufGetint.consumes ⟨rfl, word⟩ sig counted
  have ahead : (sig.skip (be32 (mpUbinSize n)).length).rest = toBe (mpUbinSize n) s := by
    rw [Buffer.rest_skip, rest, wireString, length_toBe, List.drop_left]
  have left := congrArg List.length ahead
  rw [Buffer.length_rest, length_toBe] at left
  obtain ⟨pointed, peeked⟩ := bufGetptr_peek (by
    rw [length_toBe]
    exact Nat.le_trans fits (by decide)) present
  rw [length_toBe] at pointed peeked
  have value : ofBe (toBe (mpUbinSize n) s) = s :=
    ofBe_toBe (Nat.lt_trans below (lt_pow_mpUbinSize n))
  rw [bufRsaVerify, read, Except.ok_bind]
  simp only [ne_eq, not_true_eq_false, if_false, left, pointed, peeked, Except.ok_bind, value,
    below, padded, mpExptmod_natCast s e (show n ≠ 0 by omega), root, decide_true]
  rfl

/-- **Blinded signatures are the plain ones, and are accepted.** -/
theorem signsCorrectly (hashes : RsaHashes) (key : RsaKey) (valid : key.Valid)
    (sigtype : RsaSigtype) (data : Bytes) : SignsCorrectly hashes key sigtype data := by
  have below := ofBe_paddedMessage_lt valid.n_bits hashes sigtype data
  refine ⟨_, length_paddedMessage valid.n_bits hashes sigtype data, below, ?_⟩
  intro dest atEnd room
  have fits : mpUbinSize key.n ≤ bufMaxSize := by
    have most := dest.size_le_max
    rw [length_wireSignature] at room
    omega
  have padded := rsaPadEM_eq valid.n_bits hashes sigtype data fits
  have padded' : rsaPadEm hashes key.n sigtype data =
      .ok (ofBe (paddedMessage hashes key.n sigtype data)) := by
    rw [rsaPadEm, padded]
    rfl
  have less : ofBe (paddedMessage hashes key.n sigtype data) ^ key.d % key.n < key.n :=
    Nat.mod_lt _ (Nat.lt_of_le_of_lt (Nat.zero_le _) below)
  refine ⟨padded, fun r b coprime => ?_⟩
  obtain ⟨written, wrote, appended⟩ := bufPutRsaSign_appended padded'
    (valid.rsaSign_eq b _ coprime) less dest atEnd room
  exact ⟨written, wrote, appended, fun sig rest =>
    bufRsaVerify_of_root padded' less (valid.pow_e_eq below) fits rest⟩

/-- One signature, into a buffer with room for it. -/
theorem SignsCorrectly.signed {hashes : RsaHashes} {key : RsaKey} {sigtype : RsaSigtype}
    {data : Bytes} {dest : Buffer} {r : Nat} (signs : SignsCorrectly hashes key sigtype data)
    (atEnd : dest.pos = dest.len)
    (room : dest.len + (4 + sigtype.name.length + (4 + mpUbinSize key.n)) ≤ dest.data.length)
    (b : Nat) (coprime : r.Coprime key.n) :
    ∃ written s, bufPutRsaSign hashes dest key sigtype data r b = .ok written ∧
      Appended dest written (wireSignature sigtype key.n s) ∧
      ∀ sig : Buffer, sig.rest = wireString (toBe (mpUbinSize key.n) s) →
        bufRsaVerify hashes sig key.e key.n sigtype data = .ok true := by
  obtain ⟨bytes, _, _, signs⟩ := signs
  obtain ⟨written, wrote, appended, verifies⟩ :=
    (signs dest atEnd (by rw [length_wireSignature]; exact room)).2 r b coprime
  exact ⟨written, _, wrote, appended, verifies⟩

/-- A key from the primes 3 and 2^1279 - 1, with the usual public exponent. -/
def mersenneKey : RsaKey where
  n := 3 * mersenne 1279
  e := 65537
  d := ((mersenne 1279 - 1) * 43692 + 1) / 65537
  p := 3
  q := mersenne 1279

/-- The digest of SHA-1, and none of SHA-256. -/
def sha1Hashes : RsaHashes where
  sha1 := Crypto.sha1
  sha256 _ := List.replicate 32 0
  length_sha1 := Crypto.length_sha1
  length_sha256 _ := rfl

theorem mersenneKey_valid : mersenneKey.Valid where
  p_prime := Nat.prime_three
  q_prime := lucas_lehmer_sufficiency _ (by norm_num) (by norm_num)
  p_odd := by decide
  q_odd := by decide +kernel
  distinct := by decide +kernel
  n_eq := by decide +kernel
  n_bits := by decide +kernel
  inverse := by decide +kernel

/-- The SHA-1 digest of a message is signed with the blinding 2 and 5. -/
theorem signsCorrectly_mersenneKey :
    mersenneKey.Valid ∧ ∃ written s,
      bufPutRsaSign sha1Hashes (.ofSize 200 (by decide)) mersenneKey .rsaSha1 (ascii "message") 2 5 =
          .ok written ∧
        Appended (.ofSize 200 (by decide)) written (wireSignature .rsaSha1 mersenneKey.n s) ∧
        ∀ sig : Buffer, sig.rest = wireString (toBe (mpUbinSize mersenneKey.n) s) →
          bufRsaVerify sha1Hashes sig mersenneKey.e mersenneKey.n .rsaSha1 (ascii "message") =
            .ok true :=
  ⟨mersenneKey_valid, (signsCorrectly sha1Hashes mersenneKey mersenneKey_valid .rsaSha1
    (ascii "message")).signed rfl (by decide +kernel) 5 (by decide +kernel)⟩

end Dropbear.Signkey
