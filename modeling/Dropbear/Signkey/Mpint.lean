/-
# Writing integers

`buf_putmpint` puts a number into a buffer with as few bytes as its sign bit
allows: a zero byte is put in front of a number whose top bit would make it
negative, and no other number has one.  What is written is read back, as long as
the reader does not find it too long.
-/

import Dropbear.Buffer.Append
import Dropbear.Buffer.Grammar
import Dropbear.Signkey.Basic

namespace Dropbear.Signkey

open Program

variable {n : Nat}

theorem mpCountBits_le_iff {count : Nat} : mpCountBits n ≤ count ↔ n < 2 ^ count := by
  by_cases zero : n = 0
  · simp [mpCountBits, zero]
  · rw [mpCountBits, if_neg zero, Nat.succ_le_iff, Nat.log2_lt zero]

theorem mpCountBits_pos (nonzero : n ≠ 0) : 0 < mpCountBits n := by
  rw [mpCountBits, if_neg nonzero]
  exact Nat.succ_pos _

/-- `mp_ubin_size`. -/
def mpUbinSize (n : Nat) : Nat := mpCountBits n / 8 + if mpCountBits n % 8 ≠ 0 then 1 else 0

theorem lt_pow_mpUbinSize (n : Nat) : n < 256 ^ mpUbinSize n := by
  have within : n < 2 ^ mpCountBits n := mpCountBits_le_iff.1 (Nat.le_refl _)
  refine Nat.lt_of_lt_of_le within ?_
  rw [show (256 : Nat) = 2 ^ 8 from rfl, ← Nat.pow_mul]
  apply Nat.pow_le_pow_right (by decide)
  rw [mpUbinSize]
  split <;> omega

/-- `mp_to_ubin`. -/
def mpToUbin (n : Nat) : Bytes := toBe (mpUbinSize n) n

/-- Write an integer with its length in front. -/
def bufPutmpint (buf : Buffer) (mp : Nat) : Except Exit Buffer := do
  let bits := mpCountBits mp
  -- if the top bit of MSB is set, we need to pad
  let pad := if mp ≠ 0 ∧ bits % 8 = 0 then 1 else 0
  let len := if mp = 0 then 0 else bits / 8 + 1
  let buf ← bufPutint buf len
  if len > 0 then do
    let buf ← if pad > 0 then bufPutbyte buf 0 else pure buf
    let ptr ← bufGetwriteptr buf (len - pad)
    if mpUbinSize mp > len - pad then throw (.exit "mpint error")
    let buf ← buf.poke ptr (mpToUbin mp)
    bufIncrwritepos buf (mpToUbin mp).length
  else pure buf

/-- How many bytes an integer is written with. -/
def mpintLen (n : Nat) : Nat := if n = 0 then 0 else mpCountBits n / 8 + 1

/-- The bytes of an integer, with those of its sign. -/
def mpintBody (n : Nat) : Bytes := toBe (mpintLen n) n

@[simp]
theorem length_mpintBody (n : Nat) : (mpintBody n).length = mpintLen n := length_toBe _ _

/-- With a byte more than it needs, or with as many. -/
theorem mpintBody_eq (nonzero : n ≠ 0) :
    mpintBody n = (if mpCountBits n % 8 = 0 then [0] else []) ++ mpToUbin n := by
  have fits := lt_pow_mpUbinSize n
  rw [mpintBody, mpintLen, if_neg nonzero, mpToUbin]
  by_cases whole : mpCountBits n % 8 = 0
  · have size : mpCountBits n / 8 + 1 = mpUbinSize n + 1 := by simp [mpUbinSize, whole]
    rw [if_pos whole, size, toBe_succ_of_lt fits]
    rfl
  · have size : mpCountBits n / 8 + 1 = mpUbinSize n := by simp [mpUbinSize, whole]
    rw [if_neg whole, size, List.nil_append]

/-- The bytes that are copied are all those of the number. -/
theorem bufPutmpint_eq (n : Nat) (nonzero : n ≠ 0) (buf : Buffer) :
    bufPutmpint buf n = (bufPutint buf (mpintLen n) >>= fun buf =>
      (if mpCountBits n % 8 = 0 then bufPutbyte buf 0 else .ok buf) >>= fun buf =>
      bufPutbytes buf (mpToUbin n)) := by
  have length : (mpToUbin n).length = mpUbinSize n := length_toBe _ _
  have exact : mpCountBits n / 8 + 1 - (if n ≠ 0 ∧ mpCountBits n % 8 = 0 then 1 else 0) =
      mpUbinSize n := by
    by_cases whole : mpCountBits n % 8 = 0 <;> simp [mpUbinSize, whole, nonzero]
  have padded : ((if n ≠ 0 ∧ mpCountBits n % 8 = 0 then 1 else 0) > 0) =
      (mpCountBits n % 8 = 0) := by
    by_cases whole : mpCountBits n % 8 = 0 <;> simp [whole, nonzero]
  simp only [bufPutmpint, mpintLen, if_neg nonzero, exact, padded, Nat.succ_pos, gt_iff_lt,
    if_true, Nat.lt_irrefl, if_false, bufPutbytes, length]
  refine congrArg _ (funext fun buf => ?_)
  split
  · rfl
  · rfl

/-- The wire form of an integer. -/
def wireMpint (n : Nat) : Bytes := wireString (mpintBody n)

theorem puts_bufPutmpint (n : Nat) : Puts (bufPutmpint · n) (wireMpint n) := by
  by_cases zero : n = 0
  · subst zero
    exact (puts_bufPutint 0).bind Puts.pure
  · simp only [bufPutmpint_eq n zero]
    have pad : Puts (fun buf => if mpCountBits n % 8 = 0 then bufPutbyte buf 0 else .ok buf)
        (if mpCountBits n % 8 = 0 then [0] else []) := by
      split
      · exact puts_bufPutbyte 0
      · exact Puts.pure
    refine ((puts_bufPutint (mpintLen n)).bind
      (pad.bind (puts_bufPutbytes (mpToUbin n)))).congr ?_
    rw [wireMpint, wireString, length_mpintBody, mpintBody_eq zero]

theorem appends_bufPutmpint (n : Nat) : Appends (bufPutmpint · n) (wireMpint n) :=
  (puts_bufPutmpint n).appends

/-! ## Reading back -/

theorem lt_pow_mpintLen (n : Nat) : n < 256 ^ mpintLen n := by
  by_cases zero : n = 0
  · simp [zero]
  · have within : n < 2 ^ mpCountBits n := mpCountBits_le_iff.1 (Nat.le_refl _)
    refine Nat.lt_of_lt_of_le within ?_
    rw [show (256 : Nat) = 2 ^ 8 from rfl, ← Nat.pow_mul, mpintLen, if_neg zero]
    apply Nat.pow_le_pow_right (by decide)
    omega

theorem ofBe_mpintBody (n : Nat) : ofBe (mpintBody n) = n := ofBe_toBe (lt_pow_mpintLen n)

/-- The numbers that leave the sign bit free. -/
theorem two_pow_signed (len : Nat) : 2 ^ (8 * (len + 1) - 1) = 128 * 256 ^ len := by
  rw [show 8 * (len + 1) - 1 = 7 + 8 * len by omega, Nat.pow_add, Nat.pow_mul]

/-- A number fits into bytes with a sign bit exactly if its wire form does. -/
theorem mpintLen_le_iff {n len : Nat} : mpintLen n ≤ len ↔ n = 0 ∨ n < 2 ^ (8 * len - 1) := by
  by_cases zero : n = 0
  · simp [zero, mpintLen]
  · have some := mpCountBits_pos zero
    rw [← mpCountBits_le_iff, mpintLen, if_neg zero]
    omega

theorem mpintBody_positive {first : UInt8} {rest : Bytes} (body : mpintBody n = first :: rest) :
    first < 128 := by
  have length := congrArg List.length body
  rw [length_mpintBody, List.length_cons] at length
  have value := congrArg ofBe body
  rw [ofBe_mpintBody, ofBe_cons] at value
  have bound := (mpintLen_le_iff (n := n)).1 (Nat.le_refl _)
  rw [length, two_pow_signed] at bound
  have positive : 0 < 256 ^ rest.length := Nat.pow_pos (by decide)
  have small : first.toNat * 256 ^ rest.length < 128 * 256 ^ rest.length := by omega
  exact UInt8.lt_iff_toNat_lt.2 (Nat.lt_of_mul_lt_mul_right small)

theorem mpintBody_valid (short : mpintLen n ≤ bufMaxMpint) : MpintBody (mpintBody n) :=
  ⟨by rwa [length_mpintBody], fun _ _ body => mpintBody_positive body⟩

/-- The first byte does not make the number negative. -/
def Positive (body : Bytes) : Prop := ∀ first rest, body = first :: rest → first < 128

variable {body : Bytes}

/-- An integer that has been read is not longer when it is written. -/
theorem mpintLen_ofBe_le (positive : Positive body) :
    mpintLen (ofBe body) ≤ body.length := by
  rw [mpintLen_le_iff]
  cases body with
  | nil => exact Or.inl rfl
  | cons first rest =>
    have small := UInt8.lt_iff_toNat_lt.1 (positive first rest rfl)
    have below := ofBe_lt_pow rest
    right
    rw [ofBe_cons, List.length_cons, two_pow_signed]
    have step : (first.toNat + 1) * 256 ^ rest.length ≤ 128 * 256 ^ rest.length :=
      Nat.mul_le_mul_right _ small
    rw [Nat.add_mul, Nat.one_mul] at step
    omega

theorem mpintLen_ofBe_le_max (valid : MpintBody body) :
    mpintLen (ofBe body) ≤ bufMaxMpint :=
  Nat.le_trans (mpintLen_ofBe_le valid.positive) valid.short

/-- No zero byte stands in front that the sign does not need. -/
def Minimal (body : Bytes) : Prop :=
  ∀ rest, body = 0 :: rest → ∃ next tail, rest = next :: tail ∧ 128 ≤ next

/-- An integer without superfluous bytes is written as it was read. -/
theorem mpintBody_ofBe (positive : Positive body) (minimal : Minimal body) :
    mpintBody (ofBe body) = body := by
  have length : mpintLen (ofBe body) = body.length := by
    refine Nat.le_antisymm (mpintLen_ofBe_le positive) ?_
    cases body with
    | nil => exact Nat.zero_le _
    | cons first rest =>
      by_contra short
      have bound := mpintLen_le_iff.1
        (Nat.le_of_lt_succ (Nat.lt_of_not_le short) : mpintLen (ofBe (first :: rest)) ≤ rest.length)
      have power : 0 < 256 ^ rest.length := Nat.pow_pos (by decide)
      have lost : 2 ^ (8 * rest.length - 1) ≤ 256 ^ rest.length := by
        rw [show (256 : Nat) = 2 ^ 8 from rfl, ← Nat.pow_mul]
        exact Nat.pow_le_pow_right (by decide) (Nat.sub_le _ _)
      rw [ofBe_cons] at bound
      have leading : first.toNat = 0 := by
        by_contra some
        have := Nat.mul_le_mul_right (256 ^ rest.length) (Nat.pos_of_ne_zero some)
        omega
      obtain rfl : first = 0 := UInt8.toNat_inj.1 leading
      obtain ⟨next, tail, rfl, high⟩ := minimal rest rfl
      have high' := UInt8.le_iff_toNat_le.1 high
      rw [leading, Nat.zero_mul, Nat.zero_add, ofBe_cons, List.length_cons, two_pow_signed]
        at bound
      have some : 0 < 256 ^ tail.length := Nat.pow_pos (by decide)
      have much : 128 * 256 ^ tail.length ≤ next.toNat * 256 ^ tail.length :=
        Nat.mul_le_mul_right _ high'
      omega
  rw [mpintBody, length, toBe_ofBe]

/-! ## The codec -/

/-- The bytes of a number in RFC 4251, two's complement and as few as possible. -/
structure IsEncoding (body : Bytes) (n : Nat) : Prop where
  value : ofBe body = n
  positive : Positive body
  minimal : Minimal body

theorem isEncoding_iff : IsEncoding body n ↔ body = mpintBody n := by
  constructor
  · rintro ⟨rfl, positive, minimal⟩
    exact (mpintBody_ofBe positive minimal).symm
  · rintro rfl
    refine ⟨ofBe_mpintBody n, fun _ _ => mpintBody_positive, fun rest body => ?_⟩
    by_contra superfluous
    -- without its zero byte the number would be written with fewer bytes
    have positive : Positive rest := by
      intro next tail isRest
      by_contra high
      exact superfluous ⟨next, tail, isRest, UInt8.not_lt.1 high⟩
    have shorter := mpintLen_ofBe_le positive
    have value := ofBe_mpintBody n
    rw [body, ofBe_cons] at value
    simp only [UInt8.toNat_zero, Nat.zero_mul, Nat.zero_add] at value
    have length := length_mpintBody n
    rw [body, List.length_cons] at length
    rw [value] at shorter
    omega

/-- What `buf_getmpint` does with the bytes that are left. -/
inductive MpintRead (buf : Buffer) : Except Exit (Option Nat × Buffer) → Prop
  /-- The length or the bytes that it announces are missing. -/
  | tooShort (missing : buf.rest.length < 4 + ofBe (buf.rest.take 4)) :
      MpintRead buf (.error (.exit "Bad buf_getptr"))
  | oversized (long : bufMaxMpint < ofBe (buf.rest.take 4)) :
      MpintRead buf (.ok (none, buf.skip 4))
  | negative (first : UInt8) (tail : Bytes) (nonempty : ofBe (buf.rest.take 4) ≠ 0)
      (behind : buf.rest.drop 4 = first :: tail) (high : 128 ≤ first) :
      MpintRead buf (.ok (none, buf.skip 4))
  | number (body : Bytes) (here : wireString body <+: buf.rest) (valid : MpintBody body) :
      MpintRead buf (.ok (some (ofBe body), buf.skip (wireString body).length))

theorem mpintRead (buf : Buffer) : MpintRead buf (bufGetmpint buf) := by
  rw [bufGetmpint_eq]
  by_cases noHead : buf.rest.length < 4
  · rw [bufGetint, bufGetptr_of_short noHead]
    exact .tooShort (by omega)
  have four : (buf.rest.take 4).length = 4 := List.length_take_of_le (Nat.le_of_not_lt noHead)
  have isHead : buf.rest.take 4 = be32 (ofBe (buf.rest.take 4)) := eq_be32_of_ofBe four rfl
  rw [consumes_bufGetint four buf (List.take_prefix 4 _), four, Except.ok_bind, takeMpint]
  dsimp only
  -- the string is all there, and so is a number if it is valid
  have whole : ∀ body : Bytes, body.length = ofBe (buf.rest.take 4) →
      body <+: (buf.skip 4).rest → wireString body <+: buf.rest := by
    intro body length here
    rw [wireString, length, ← isHead]
    exact append_prefix_rest (List.take_prefix 4 _) (by rwa [four])
  by_cases empty : ofBe (buf.rest.take 4) = 0
  · rw [if_pos empty]
    exact .number [] (whole [] empty.symm List.nil_prefix) ⟨Nat.zero_le _, by simp⟩
  rw [if_neg empty]
  by_cases long : ofBe (buf.rest.take 4) > bufMaxMpint
  · rw [if_pos long]
    exact .oversized long
  rw [if_neg long]
  have behind := buf.rest_skip 4
  cases isTail : buf.rest.drop 4 with
  | nil =>
    have none : (buf.skip 4).rest.length = 0 := by rw [behind, isTail, List.length_nil]
    have end_ := congrArg List.length isTail
    rw [List.length_drop, List.length_nil] at end_
    rw [bufGetptr_of_short (by omega)]
    exact .tooShort (by omega)
  | cons first tail =>
    rw [isTail] at behind
    have ahead : [first] <+: (buf.skip 4).rest := ⟨tail, behind.symm⟩
    have one : [first].length ≤ bufMaxIncr := by
      rw [List.length_singleton]
      decide
    obtain ⟨pointed, sign⟩ := bufGetptr_peek one ahead
    rw [List.length_singleton] at pointed sign
    rw [pointed, Except.ok_bind, sign, Except.ok_bind]
    by_cases high : 128 ≤ first
    · rw [if_pos (by simpa using high)]
      exact .negative first tail empty isTail high
    rw [if_neg (by simpa using high)]
    by_cases missing : (buf.skip 4).rest.length < ofBe (buf.rest.take 4)
    · rw [bufTake, bufGetptr_of_short missing]
      refine .tooShort ?_
      rw [buf.rest_skip, List.length_drop] at missing
      omega
    · have length := List.length_take_of_le (Nat.le_of_not_lt missing)
      have small := Nat.le_trans (Nat.le_of_not_lt long) bufMaxMpint_le
      have here := List.take_prefix (ofBe (buf.rest.take 4)) (buf.skip 4).rest
      have took := consumes_bufTake (by rwa [length]) _ here
      rw [length] at took
      rw [took, Except.ok_bind, Buffer.skip_skip]
      have valid : MpintBody ((buf.skip 4).rest.take (ofBe (buf.rest.take 4))) := by
        refine ⟨by rw [length]; exact Nat.le_of_not_lt long, fun byte rest isBody => ?_⟩
        obtain ⟨more, isLen⟩ := Nat.exists_eq_succ_of_ne_zero empty
        rw [behind, isLen, List.take_succ_cons] at isBody
        cases isBody
        exact UInt8.not_le.1 high
      have read := MpintRead.number _ (whole _ length here) valid
      rwa [wireString, List.length_append, length_be32, length] at read

/-- A number is written in its one shortest encoding and read back, all other bytes are read or
refused for what they are, and only shortest encodings are written as they were read. -/
theorem mpintCodec :
    (∀ n, ∃! body, IsEncoding body n) ∧
    (∀ (n : Nat) (body : Bytes) (buf : Buffer), IsEncoding body n → body.length ≤ bufMaxMpint →
      buf.pos + (wireString body).length ≤ buf.data.length →
      ∃ written back, bufPutmpint buf n = .ok written ∧ StoredAt buf written (wireString body) ∧
        bufSetpos written buf.pos = .ok back ∧ bufGetmpint back = .ok (some n, written)) ∧
    (∀ buf, MpintRead buf (bufGetmpint buf)) ∧
    ∀ (body : Bytes) (buf written : Buffer), MpintBody body →
      bufPutmpint buf (ofBe body) = .ok written →
      (StoredAt buf written (wireString body) ↔ Minimal body) := by
  refine ⟨fun n => ⟨mpintBody n, isEncoding_iff.2 rfl, fun _ => isEncoding_iff.1⟩, ?_, mpintRead, ?_⟩
  · intro n body buf encodes short room
    obtain rfl := isEncoding_iff.1 encodes
    obtain ⟨written, wrote, stored⟩ := (puts_bufPutmpint n buf).exists_ok room
    rw [length_mpintBody] at short
    have reads : Consumes bufGetmpint (wireMpint n) (some n) :=
      parses_bufGetmpint.consumes ⟨_, mpintBody_valid short, rfl, (ofBe_mpintBody n).symm⟩
    obtain ⟨back, moved, read⟩ := stored.read reads
    exact ⟨written, back, wrote, stored, moved, read⟩
  · intro body buf written valid wrote
    have stored := (puts_bufPutmpint (ofBe body) buf).sound written wrote
    constructor
    · intro same
      have again : mpintBody (ofBe body) = body := (List.append_inj (stored.unique same) rfl).2
      exact (isEncoding_iff.2 again.symm).minimal
    · intro minimal
      rwa [wireMpint, mpintBody_ofBe valid.positive minimal] at stored

/-- A number whose top bit is set needs a zero byte in front. -/
theorem mpintCodec_topBit :
    ∃ buf written back, bufPutmpint buf 128 = .ok written ∧
      StoredAt buf written [0, 0, 0, 2, 0, 128] ∧ bufSetpos written buf.pos = .ok back ∧
        bufGetmpint back = .ok (some 128, written) := by
  refine ⟨⟨List.replicate 6 0, 0, 0, by decide, by decide, by decide⟩, ?_⟩
  refine mpintCodec.2.1 128 [0, 128] _ (isEncoding_iff.2 rfl) (by decide) (by decide)

end Dropbear.Signkey
