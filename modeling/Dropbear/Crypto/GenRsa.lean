/-
# Generating RSA keys

`gen_rsa_priv_key` and `getrsaprime`.  Two primes of `size / 16` bytes are drawn until their
product has `size` bits.  For a size that is not a multiple of sixteen the division leaves a
byte behind: the product is always too short, and the loop goes on for ever.

A draw is what `genrandom` returns together with the outcome of the Miller-Rabin trials of the
search that starts from it.  These may take a number for a prime that is none, but never refuse
a prime.
-/

import Dropbear.Program.Primality
import Dropbear.Signkey.Private

namespace Dropbear.Crypto

open Program Signkey

/-! ## The generator -/

/-- Random bytes, and which numbers pass the tests of the search from there. -/
structure PrimeDraw where
  bytes : Bytes
  isPrime : Nat → Bool
  accepts : ∀ {n}, n.Prime → isPrime n = true

theorem PrimeDraw.exists_next (draw : PrimeDraw) (a : Nat) :
    ∃ c, a < c ∧ c % 2 = 1 ∧ draw.isPrime c = true := by
  obtain ⟨p, large, prime⟩ := Nat.exists_infinite_primes (a + 3)
  exact ⟨p, by omega, prime.eq_two_or_odd.resolve_left (by omega), draw.accepts prime⟩

/-- `mp_prime_next_prime`, above the table of small primes: the next odd number that passes. -/
def PrimeDraw.nextPrime (draw : PrimeDraw) (a : Nat) : Nat := Nat.find (draw.exists_next a)

/-- Set the most significant bit. -/
def setTop : Bytes → Bytes
  | [] => []
  | first :: rest => (first ||| 0x80) :: rest

def rsaE : Nat := 65537

/-- Return a prime suitable for p or q, and the draws that are left; there is none if the draws
are used up. -/
def getrsaprime : List PrimeDraw → Option (Nat × List PrimeDraw)
  | [] => none
  | draw :: rest =>
    let prime := draw.nextPrime (ofBe (setTop draw.bytes))
    -- while gcd(p-1, e) != 1
    if (prime - 1).gcd rsaE = 1 then some (prime, rest) else getrsaprime rest

/-- The loop for the two primes.  It cannot go round more often than there are draws. -/
def genPrimes (size : Nat) : Nat → List PrimeDraw → Option (Nat × Nat)
  | 0, _ => none
  | fuel + 1, draws => do
    let (p, draws) ← getrsaprime draws
    let (q, draws) ← getrsaprime draws
    if mpCountBits (p * q) = size then some (p, q) else genPrimes size fuel draws

/-- Generate a key from a stream of draws.  The answer is `none` if it goes on behind them. -/
def genRsaPrivKey (size : Nat) (draws : List PrimeDraw) : Except Exit (Option RsaKey) :=
  if size < 512 ∨ size > 4096 ∨ size % 8 ≠ 0 then
    .error (.exit "Bits must satisfy 512 <= bits <= 4096, and be a multiple of 8")
  else
    match genPrimes size draws.length draws with
    | none => .ok none
    | some (p, q) =>
      -- d = (e^-1) mod lcm(p-1,q-1)
      match mpInvmod rsaE (Nat.lcm (p - 1) (q - 1)) with
      | none => .error (.exit "RSA generation failed")
      | some d => .ok (some { n := p * q, e := rsaE, d, p, q })

/-- The sizes of RSA keys that `check_signkey_bits` of dropbearkey accepts. -/
def SignkeyBits (bits : Nat) : Prop := ¬ (bits < 1024 ∨ bits > 4096 ∨ bits % 8 ≠ 0)

/-! ## What is expected -/

/-- `genrandom` fills the buffer of a prime. -/
def Filled (size : Nat) (draws : List PrimeDraw) : Prop :=
  ∀ draw ∈ draws, draw.bytes.length = size / 16

/-- A key that is written is read again. -/
def ReadBack (key : RsaKey) : Prop :=
  ∃ bytes, Appends (bufPutRsaPrivKey · key) bytes ∧ Consumes bufGetRsaPrivKey bytes (some key)

/-- What is expected of a key of this size. -/
structure GoodKey (size : Nat) (key : RsaKey) : Prop where
  n_eq : key.n = key.p * key.q
  bits : mpCountBits key.n = size
  inverse : key.e * key.d ≡ 1 [MOD Nat.lcm (key.p - 1) (key.q - 1)]
  readBack : SignkeyBits size → ReadBack key

/-- Some streams lead to a key, and whatever stream leads to one, it is good. -/
structure Generates (size : Nat) : Prop where
  ends : ∃ draws key, Filled size draws ∧ genRsaPrivKey size draws = .ok (some key)
  good : ∀ draws key, Filled size draws → genRsaPrivKey size draws = .ok (some key) →
    GoodKey size key

/-- A number of so many bytes, with its most significant bit set. -/
def OfBytes (len n : Nat) : Prop := 2 ^ (8 * len - 1) ≤ n ∧ n < 2 ^ (8 * len)

/-- Suitable primes are there: whatever length the product of two numbers can have, that of two
primes has. -/
def PrimesExist (size : Nat) : Prop :=
  ∀ bits, (∃ a b, OfBytes (size / 16) a ∧ OfBytes (size / 16) b ∧ mpCountBits (a * b) = bits) →
    ∃ p q, OfBytes (size / 16) p ∧ OfBytes (size / 16) q ∧ p.Prime ∧ q.Prime ∧
      (p - 1).gcd rsaE = 1 ∧ (q - 1).gcd rsaE = 1 ∧ mpCountBits (p * q) = bits

/-! ## The search for a prime -/

variable {p : Nat}

section

variable (draw : PrimeDraw) {a : Nat}

theorem PrimeDraw.nextPrime_le (prime : p.Prime) (odd : p % 2 = 1) (above : a < p) :
    draw.nextPrime a ≤ p :=
  Nat.find_min' _ ⟨above, odd, draw.accepts prime⟩

/-- There is a prime before the double. -/
theorem PrimeDraw.nextPrime_le_double (large : 1 < a) : draw.nextPrime a ≤ 2 * a := by
  obtain ⟨p, prime, above, most⟩ := Nat.exists_prime_lt_and_le_two_mul a (by omega)
  exact (draw.nextPrime_le prime (prime.eq_two_or_odd.resolve_left (by omega)) above).trans most

/-- An odd prime is found from just below it. -/
theorem PrimeDraw.nextPrime_pred (prime : p.Prime) (odd : p % 2 = 1) :
    draw.nextPrime (p - 1) = p := by
  have found := Nat.find_spec (draw.exists_next (p - 1))
  have least := draw.nextPrime_le prime odd (show p - 1 < p by have := prime.pos; omega)
  rw [PrimeDraw.nextPrime] at least ⊢
  omega

end

theorem length_setTop (bytes : Bytes) : (setTop bytes).length = bytes.length := by
  cases bytes <;> rfl

theorem ofBe_setTop_lt (bytes : Bytes) : ofBe (setTop bytes) < 2 ^ (8 * bytes.length) := by
  rw [Nat.pow_mul, ← length_setTop bytes]
  exact ofBe_lt_pow _

theorem toNat_or_top (first : UInt8) : 128 ≤ (first ||| 0x80).toNat := by
  rw [UInt8.toNat_or]
  exact Nat.right_le_or

theorem or_top_of_le {first : UInt8} (large : 128 ≤ first.toNat) : first ||| 0x80 = first := by
  have all : ∀ i : Fin 256, 128 ≤ i.val → (UInt8.ofFin i) ||| 0x80 = UInt8.ofFin i := by
    decide +kernel
  exact all first.toFin large

theorem one_lt_ofBe_setTop {bytes : Bytes} (some : 0 < bytes.length) : 1 < ofBe (setTop bytes) := by
  cases bytes with
  | nil => exact absurd some (Nat.lt_irrefl 0)
  | cons first rest =>
    have top := toNat_or_top first
    have positive : 0 < 256 ^ rest.length := by positivity
    rw [setTop, ofBe_cons]
    nlinarith

variable {len n : Nat}

/-- A number with its most significant bit set can be drawn. -/
theorem ofBe_setTop_toBe (some : 0 < len) (sized : OfBytes len n) :
    ofBe (setTop (toBe len n)) = n := by
  have below : n < 256 ^ len := by
    rw [show 256 = 2 ^ 8 from rfl, ← Nat.pow_mul]
    exact sized.2
  have length := length_toBe len n
  have value := ofBe_toBe below
  cases spelled : toBe len n with
  | nil =>
    rw [spelled, List.length_nil] at length
    omega
  | cons first rest =>
    rw [spelled, List.length_cons] at length
    rw [spelled, ofBe_cons] at value
    have bounded := ofBe_lt_pow rest
    have large : 128 ≤ first.toNat := by
      by_contra small
      have half : 2 ^ (8 * len - 1) = 128 * 256 ^ rest.length := by
        rw [← length, ← two_pow_signed]
      have most := half ▸ sized.1
      nlinarith [Nat.succ_le_of_lt (Nat.lt_of_not_le small)]
    rw [setTop, or_top_of_le large, ofBe_cons, value]

/-- What is drawn is less than twice as large as the bytes allow. -/
theorem nextPrime_lt (draw : PrimeDraw) (some : 0 < draw.bytes.length) :
    draw.nextPrime (ofBe (setTop draw.bytes)) < 2 ^ (8 * draw.bytes.length + 1) := by
  have double := draw.nextPrime_le_double (one_lt_ofBe_setTop some)
  have bounded := ofBe_setTop_lt draw.bytes
  rw [Nat.pow_succ]
  omega

/-! ## The loops -/

/-- A number that `getrsaprime` may return for these draws. -/
structure Drawn (draws : List PrimeDraw) (prime : Nat) : Prop where
  exists_draw : ∃ draw ∈ draws, prime = draw.nextPrime (ofBe (setTop draw.bytes))
  coprime : (prime - 1).gcd rsaE = 1

variable {draws : List PrimeDraw} {prime : Nat}

theorem Drawn.mono {draws' : List PrimeDraw} (fewer : draws ⊆ draws') (isDrawn : Drawn draws prime)
    : Drawn draws' prime where
  exists_draw := by
    obtain ⟨draw, mem, found⟩ := isDrawn.exists_draw
    exact ⟨draw, fewer mem, found⟩
  coprime := isDrawn.coprime

theorem getrsaprime_drawn {rest : List PrimeDraw}
    (returned : getrsaprime draws = some (prime, rest)) : Drawn draws prime ∧ rest ⊆ draws := by
  induction draws with
  | nil => cases returned
  | cons draw others ih =>
    rw [getrsaprime] at returned
    split at returned
    case _ coprime =>
      cases returned
      exact ⟨⟨⟨draw, List.mem_cons_self, rfl⟩, coprime⟩, List.subset_cons_self _ _⟩
    case _ =>
      obtain ⟨isDrawn, fewer⟩ := ih returned
      exact ⟨isDrawn.mono (List.subset_cons_self _ _),
        List.Subset.trans fewer (List.subset_cons_self _ _)⟩

variable {size q : Nat}

theorem genPrimes_drawn {fuel : Nat} (returned : genPrimes size fuel draws = some (p, q)) :
    Drawn draws p ∧ Drawn draws q ∧ mpCountBits (p * q) = size := by
  induction fuel generalizing draws with
  | zero => cases returned
  | succ fuel ih =>
    rw [genPrimes] at returned
    obtain ⟨⟨p', draws'⟩, first, returned⟩ := Option.bind_eq_some_iff.1 returned
    obtain ⟨⟨q', draws''⟩, second, returned⟩ := Option.bind_eq_some_iff.1 returned
    obtain ⟨drawnP, fewer⟩ := getrsaprime_drawn first
    obtain ⟨drawnQ, fewer'⟩ := getrsaprime_drawn second
    dsimp only at returned drawnP drawnQ fewer fewer'
    split at returned
    case _ bits =>
      cases returned
      exact ⟨drawnP, drawnQ.mono fewer, bits⟩
    case _ =>
      obtain ⟨isP, isQ, bits⟩ := ih returned
      have all := List.Subset.trans fewer' fewer
      exact ⟨isP.mono all, isQ.mono all, bits⟩

theorem Drawn.lt (isDrawn : Drawn draws prime) (filled : Filled size draws) (large : 16 ≤ size) :
    prime < 2 ^ (8 * (size / 16) + 1) := by
  obtain ⟨draw, mem, rfl⟩ := isDrawn.exists_draw
  rw [← filled draw mem]
  refine nextPrime_lt draw ?_
  rw [filled draw mem]
  omega

/-- **The product is too short** if a byte is left behind. -/
theorem genPrimes_eq_none (large : 16 ≤ size) (rest : size % 16 = 8) (fuel : Nat)
    (filled : Filled size draws) : genPrimes size fuel draws = none := by
  by_contra ended
  obtain ⟨⟨p, q⟩, returned⟩ := Option.ne_none_iff_exists'.1 ended
  obtain ⟨drawnP, drawnQ, bits⟩ := genPrimes_drawn returned
  have product : p * q < 2 ^ (8 * (size / 16) + 1 + (8 * (size / 16) + 1)) := by
    rw [Nat.pow_add]
    exact Nat.mul_lt_mul'' (drawnP.lt filled large) (drawnQ.lt filled large)
  have short := mpCountBits_le_iff.2 product
  omega

/-! ## Keys that are returned -/

variable {key : RsaKey}

theorem genRsaPrivKey_eq_ok (returned : genRsaPrivKey size draws = .ok (some key)) :
    ∃ p q d, genPrimes size draws.length draws = some (p, q) ∧
      mpInvmod rsaE (Nat.lcm (p - 1) (q - 1)) = some d ∧
        key = { n := p * q, e := rsaE, d, p, q } ∧ size ≤ 4096 := by
  rw [genRsaPrivKey] at returned
  split at returned
  case _ => cases returned
  case _ accepted =>
    cases found : genPrimes size draws.length draws with
    | none =>
      rw [found] at returned
      cases returned
    | some pair =>
      rw [found] at returned
      dsimp only at returned
      cases inverted : mpInvmod rsaE (Nat.lcm (pair.1 - 1) (pair.2 - 1)) with
      | none =>
        rw [inverted] at returned
        cases returned
      | some d =>
        rw [inverted] at returned
        cases returned
        exact ⟨pair.1, pair.2, d, rfl, inverted, rfl, by omega⟩

variable {b : Nat}

theorem mpCountBits_mono {a : Nat} (less : a ≤ b) : mpCountBits a ≤ mpCountBits b :=
  mpCountBits_le_iff.2 (Nat.lt_of_le_of_lt less (mpCountBits_le_iff.1 (Nat.le_refl _)))

/-- A number of at most 4096 bits is short enough to be read. -/
theorem mpintWire_of_bits (short : mpCountBits n ≤ 4096) : MpintWire (wireMpint n) n := by
  refine mpintWire_wireMpint ?_
  rw [mpintLen, bufMaxMpint]
  split <;> omega

theorem readBack_of_bits (e_eq : key.e = rsaE) (long : minRsaKeylen ≤ mpCountBits key.n)
    (n_bits : mpCountBits key.n ≤ 4096) (d_bits : mpCountBits key.d ≤ 4096)
    (p_bits : mpCountBits key.p ≤ 4096) (q_bits : mpCountBits key.q ≤ 4096) : ReadBack key := by
  have e_bits : mpCountBits key.e ≤ 4096 := by
    rw [e_eq]
    decide
  have written : Appends (bufPutRsaPrivKey · key) ((wireString (ascii "ssh-rsa") ++
      (wireMpint key.e ++ wireMpint key.n)) ++
        (wireMpint key.d ++ (wireMpint key.p ++ wireMpint key.q))) :=
    ((appends_bufPutstring _).bind ((appends_bufPutmpint _).bind (appends_bufPutmpint _))).bind
      ((appends_bufPutmpint _).bind ((appends_bufPutmpint _).bind (appends_bufPutmpint _)))
  obtain ⟨eBody, eValid, eWire, eValue⟩ := mpintWire_of_bits e_bits
  obtain ⟨nBody, nValid, nWire, nValue⟩ := mpintWire_of_bits n_bits
  refine ⟨_, written, parses_bufGetRsaPrivKey.consumes ⟨wireString (ascii "ssh-rsa"),
    (wireMpint key.e ++ wireMpint key.n) ++ (wireMpint key.d ++ (wireMpint key.p ++ wireMpint key.q)),
    length_wireString _, ⟨_, _, _, _, ⟨⟨eBody, nBody, eValid, nValid, eValue, nValue, ?_⟩, long, ?_⟩,
      mpintWire_of_bits d_bits, mpintWire_of_bits p_bits, mpintWire_of_bits q_bits, rfl⟩, ?_⟩⟩
  · rw [eWire, nWire]
  · rw [e_eq]
    decide
  · rw [List.append_assoc]

/-- **Every key that is returned is good.** -/
theorem goodKey_of_returned (returned : genRsaPrivKey size draws = .ok (some key)) :
    GoodKey size key := by
  obtain ⟨p, q, d, found, inverted, rfl, most⟩ := genRsaPrivKey_eq_ok returned
  obtain ⟨_, _, bits⟩ := genPrimes_drawn found
  refine ⟨rfl, bits, mpInvmod_modEq inverted, fun accepted => ?_⟩
  have d_lt := mpInvmod_lt inverted
  have positive : p - 1 ≠ 0 ∧ q - 1 ≠ 0 := by
    constructor <;> intro zero <;> rw [zero] at d_lt <;> simp at d_lt
  have p_pos : 0 < p := by omega
  have q_pos : 0 < q := by omega
  have lcm_le : Nat.lcm (p - 1) (q - 1) ≤ p * q :=
    (Nat.le_of_dvd (Nat.mul_pos (by omega) (by omega)) (Nat.lcm_dvd_mul _ _)).trans
      (Nat.mul_le_mul (Nat.sub_le _ _) (Nat.sub_le _ _))
  rw [SignkeyBits] at accepted
  refine readBack_of_bits rfl ?_ ?_ ?_ ?_ ?_
  · rw [minRsaKeylen]
    dsimp only
    omega
  · dsimp only
    omega
  · exact (mpCountBits_mono (d_lt.le.trans lcm_le)).trans (by omega)
  · exact (mpCountBits_mono (Nat.le_mul_of_pos_right p q_pos)).trans (by omega)
  · exact (mpCountBits_mono (Nat.le_mul_of_pos_left q p_pos)).trans (by omega)

/-! ## Streams that lead to a key -/

/-- The draw that leads to a prime, with an exact test. -/
def drawOf (len prime : Nat) : PrimeDraw where
  bytes := toBe len (prime - 1)
  isPrime n := decide n.Prime
  accepts isPrime := decide_eq_true isPrime

theorem OfBytes.large (some : 0 < len) (sized : OfBytes len n) : 128 ≤ n :=
  calc
    128 = 2 ^ 7 := rfl
    _ ≤ 2 ^ (8 * len - 1) := Nat.pow_le_pow_right (by decide) (by omega)
    _ ≤ n := sized.1

/-- A prime of so many bytes is found from the number below it. -/
theorem getrsaprime_drawOf (some : 0 < len) (sized : OfBytes len prime) (isPrime : prime.Prime)
    (coprime : (prime - 1).gcd rsaE = 1) (rest : List PrimeDraw) :
    getrsaprime (drawOf len prime :: rest) = Option.some (prime, rest) := by
  have even : 2 ^ (8 * len - 1) = 2 * 2 ^ (8 * len - 2) := by
    rw [← Nat.pow_succ', show (8 * len - 2).succ = 8 * len - 1 by omega]
  have least := sized.1
  have large := sized.large some
  have odd : prime % 2 = 1 := isPrime.eq_two_or_odd.resolve_left (by omega)
  have below : OfBytes len (prime - 1) := ⟨by omega, Nat.lt_of_le_of_lt (Nat.sub_le _ _) sized.2⟩
  have found : (drawOf len prime).nextPrime (ofBe (setTop (drawOf len prime).bytes)) = prime := by
    rw [drawOf, ofBe_setTop_toBe some below]
    exact PrimeDraw.nextPrime_pred _ isPrime odd
  rw [getrsaprime, found]
  simp only [coprime, if_true]

/-- The public exponent has an inverse. -/
theorem coprime_lcm (coprimeP : (p - 1).gcd rsaE = 1) (coprimeQ : (q - 1).gcd rsaE = 1) :
    rsaE.Coprime (Nat.lcm (p - 1) (q - 1)) := by
  have product : rsaE.Coprime ((p - 1) * (q - 1)) :=
    Nat.Coprime.mul_right (Nat.Coprime.symm coprimeP) (Nat.Coprime.symm coprimeQ)
  exact product.coprime_dvd_right (Nat.lcm_dvd_mul _ _)

/-- Suitable primes lead to a key. -/
theorem exists_key_of_primes (least : 512 ≤ size) (most : size ≤ 4096) (whole : size % 8 = 0)
    (sizedP : OfBytes (size / 16) p) (sizedQ : OfBytes (size / 16) q) (primeP : p.Prime)
    (primeQ : q.Prime) (coprimeP : (p - 1).gcd rsaE = 1) (coprimeQ : (q - 1).gcd rsaE = 1)
    (bits : mpCountBits (p * q) = size) :
    ∃ draws key, Filled size draws ∧ genRsaPrivKey size draws = .ok (some key) := by
  have some : 0 < size / 16 := by omega
  have found : genPrimes size 2 [drawOf (size / 16) p, drawOf (size / 16) q] =
      Option.some (p, q) := by
    simp only [genPrimes, getrsaprime_drawOf some sizedP primeP coprimeP,
      getrsaprime_drawOf some sizedQ primeQ coprimeQ, Option.bind_eq_bind, Option.bind_some, bits,
      if_true]
  have largeP := sizedP.large some
  have largeQ := sizedQ.large some
  have large : 1 < Nat.lcm (p - 1) (q - 1) :=
    Nat.lt_of_lt_of_le (by omega : 1 < p - 1) (Nat.le_of_dvd
      (Nat.lcm_pos (by omega) (by omega)) (Nat.dvd_lcm_left _ _))
  obtain ⟨d, inverted, _⟩ := exists_mpInvmod large (coprime_lcm coprimeP coprimeQ)
  refine ⟨[drawOf (size / 16) p, drawOf (size / 16) q], { n := p * q, e := rsaE, d, p, q }, ?_, ?_⟩
  · intro draw mem
    rcases List.mem_pair.1 mem with rfl | rfl
    · exact length_toBe _ _
    · exact length_toBe _ _
  · rw [genRsaPrivKey, if_neg (by omega)]
    simp only [List.length_cons, List.length_nil, found, inverted]

/-- The largest numbers have a product without a leading zero. -/
theorem exists_product (some : 0 < len) :
    ∃ a b, OfBytes len a ∧ OfBytes len b ∧ mpCountBits (a * b) = 8 * len + 8 * len := by
  have even : 2 ^ (8 * len) = 2 * 2 ^ (8 * len - 1) := by
    rw [← Nat.pow_succ', show (8 * len - 1).succ = 8 * len by omega]
  have large : 2 ^ 7 ≤ 2 ^ (8 * len - 1) := Nat.pow_le_pow_right (by decide) (by omega)
  have sized : OfBytes len (2 ^ (8 * len) - 1) := ⟨by omega, by omega⟩
  refine ⟨_, _, sized, sized, ?_⟩
  have below : (2 ^ (8 * len) - 1) * (2 ^ (8 * len) - 1) < 2 ^ (8 * len + 8 * len) := by
    rw [Nat.pow_add]
    exact Nat.mul_lt_mul'' sized.2 sized.2
  have above : ¬ (2 ^ (8 * len) - 1) * (2 ^ (8 * len) - 1) < 2 ^ (8 * len + 8 * len - 1) := by
    rw [show 8 * len + 8 * len - 1 = 8 * len + (8 * len - 1) by omega, Nat.pow_add, even, Nat.not_lt]
    obtain ⟨more, half⟩ : ∃ more, 2 ^ (8 * len - 1) = more + 2 := ⟨2 ^ (8 * len - 1) - 2, by omega⟩
    rw [half, show 2 * (more + 2) - 1 = 2 * more + 3 by omega]
    nlinarith
  have most := mpCountBits_le_iff.2 below
  have least := mt mpCountBits_le_iff.1 above
  omega

/-- **Keys are generated exactly for multiples of sixteen.** -/
theorem generates_iff (size : Nat) (accepted : ¬ (size < 512 ∨ size > 4096 ∨ size % 8 ≠ 0))
    (primes : PrimesExist size) : Generates size ↔ size % 16 = 0 := by
  constructor
  · rintro ⟨⟨draws, key, filled, returned⟩, _⟩
    by_contra rest
    obtain ⟨p, q, d, found, _⟩ := genRsaPrivKey_eq_ok returned
    rw [genPrimes_eq_none (by omega) (by omega) _ filled] at found
    cases found
  · intro whole
    refine ⟨?_, fun draws key _ returned => goodKey_of_returned returned⟩
    obtain ⟨p, q, sizedP, sizedQ, primeP, primeQ, coprimeP, coprimeQ, bits⟩ :=
      primes _ (exists_product (by omega : 0 < size / 16))
    exact exists_key_of_primes (by omega) (by omega) (by omega) sizedP sizedQ primeP primeQ coprimeP
      coprimeQ (bits.trans (by omega))

/-! ## A size for which no key is generated -/

/-- The product of two numbers of so many bytes has at most one leading zero bit. -/
theorem mpCountBits_product {a : Nat} (some : 0 < len) (sizedA : OfBytes len a)
    (sizedB : OfBytes len b) :
    mpCountBits (a * b) = 16 * len - 1 ∨ mpCountBits (a * b) = 16 * len := by
  have below : a * b < 2 ^ (16 * len) := by
    rw [show 16 * len = 8 * len + 8 * len by omega, Nat.pow_add]
    exact Nat.mul_lt_mul'' sizedA.2 sizedB.2
  have above : ¬ a * b < 2 ^ (16 * len - 2) := by
    rw [show 16 * len - 2 = (8 * len - 1) + (8 * len - 1) by omega, Nat.pow_add, Nat.not_lt]
    exact Nat.mul_le_mul sizedA.1 sizedB.1
  have most := mpCountBits_le_iff.2 below
  have least := mt mpCountBits_le_iff.1 above
  omega

/-- A prime of 512 bits whose square has 1023. -/
def smallPrime : Nat := 2 ^ 58 * (3 ^ 143) ^ 2 + 1

/-- A prime of 512 bits whose square has 1024. -/
def largePrime : Nat := (2 ^ 133) ^ 3 * 3 ^ 71 + 1

/-- The prime factors of a product of powers of two and three. -/
theorem two_or_three {factor a : Nat} (prime : factor.Prime) (divides : factor ∣ a * b)
    (twos : factor ∣ a → factor ∣ 2) (threes : factor ∣ b → factor ∣ 3) : factor ∈ [2, 3] := by
  rcases prime.dvd_mul.1 divides with two | three
  · simp [(Nat.prime_dvd_prime_iff_eq prime Nat.prime_two).1 (twos two)]
  · simp [(Nat.prime_dvd_prime_iff_eq prime Nat.prime_three).1 (threes three)]

theorem smallPrime_prime : smallPrime.Prime := by
  refine prime_of_primitive 5 512 (by decide +kernel) (fun factor prime divides => ?_)
    (by decide +kernel) (show ∀ factor ∈ [2, 3], _ by decide +kernel)
  rw [smallPrime, Nat.add_sub_cancel] at divides
  exact two_or_three prime divides prime.dvd_of_dvd_pow
    fun three => prime.dvd_of_dvd_pow (prime.dvd_of_dvd_pow three)

theorem largePrime_prime : largePrime.Prime := by
  refine prime_of_primitive 5 512 (by decide +kernel) (fun factor prime divides => ?_)
    (by decide +kernel) (show ∀ factor ∈ [2, 3], _ by decide +kernel)
  rw [largePrime, Nat.add_sub_cancel] at divides
  exact two_or_three prime divides
    (fun two => prime.dvd_of_dvd_pow (prime.dvd_of_dvd_pow two)) prime.dvd_of_dvd_pow

theorem ofBytes_of_bits (bits : mpCountBits n = 8 * len) (some : 0 < len) :
    OfBytes len n := by
  constructor
  · rw [← Nat.not_lt, ← mpCountBits_le_iff]
    omega
  · exact mpCountBits_le_iff.1 bits.le

theorem primesExist_of_div (bytes : size / 16 = 64) : PrimesExist size := by
  rintro bits ⟨a, b, sizedA, sizedB, rfl⟩
  rw [bytes] at *
  rcases mpCountBits_product (by decide) sizedA sizedB with short | long
  · rw [short]
    have sized : OfBytes 64 smallPrime := ofBytes_of_bits (by decide +kernel) (by decide)
    exact ⟨_, _, sized, sized, smallPrime_prime, smallPrime_prime, by decide +kernel,
      by decide +kernel, by decide +kernel⟩
  · rw [long]
    have sized : OfBytes 64 largePrime := ofBytes_of_bits (by decide +kernel) (by decide)
    exact ⟨_, _, sized, sized, largePrime_prime, largePrime_prime, by decide +kernel,
      by decide +kernel, by decide +kernel⟩

theorem generates_1024 : PrimesExist 1024 ∧ Generates 1024 :=
  ⟨primesExist_of_div rfl, (generates_iff 1024 (by decide) (primesExist_of_div rfl)).2 rfl⟩

/-- A size that dropbearkey accepts, and for which the loop does not end. -/
theorem generates_fails_for_1032 : PrimesExist 1032 ∧ SignkeyBits 1032 ∧ ¬ Generates 1032 := by
  refine ⟨primesExist_of_div rfl, by unfold SignkeyBits; decide, ?_⟩
  rintro ⟨⟨draws, key, filled, returned⟩, _⟩
  obtain ⟨p, q, d, found, _⟩ := genRsaPrivKey_eq_ok returned
  rw [genPrimes_eq_none (by decide) (by decide) _ filled] at found
  cases found

end Dropbear.Crypto
