/-
# Random numbers below a bound

`gen_random_mpint` of `dbrandom.c`.  Bytes are drawn until the number they spell, with the bits
above those of the bound masked out, is positive and less than the bound.  The secrets of the
key exchange, the nonces of signatures and blinding values come from here.  What `genrandom`
returns is the sequence of draws.
-/

import Dropbear.Program.BigEndian
import Dropbear.Program.Sampling
import Dropbear.Signkey.Mpint

namespace Dropbear.Crypto

open Program Signkey

/-- The masks of the first byte, by the number of bits that are left for it. -/
def masks : List UInt8 := [0xff, 0x01, 0x03, 0x07, 0x0f, 0x1f, 0x3f, 0x7f]

/-- The number of bytes drawn at a time. -/
def randomLen (max : Nat) : Nat := mpCountBits max / 8 + if mpCountBits max % 8 ≠ 0 then 1 else 0

/-- Mask out the unrequired bits. -/
def maskFirst (sizeBits : Nat) : Bytes → Bytes
  | [] => []
  | first :: rest => (first &&& masks.getD (sizeBits % 8) 0) :: rest

/-- One round of the loop. -/
def drawMpint (max : Nat) (randbuf : Bytes) : Option Nat :=
  let rand := ofBe (maskFirst (mpCountBits max) randbuf)
  if rand < max ∧ 0 < rand then some rand else none

/-- Keep regenerating until we get one satisfying `0 < rand < max`; there is none yet if these
are all the draws. -/
def genRandomMpint (max : Nat) : List Bytes → Option Nat
  | [] => none
  | randbuf :: rest =>
    match drawMpint max randbuf with
    | some rand => some rand
    | none => genRandomMpint max rest

/-- The byte strings of a length. -/
def byteStrings (len : Nat) : Finset Bytes := (Finset.range (256 ^ len)).image (toBe len)

/-- The sequences of so many draws that end with a result. -/
def drawsOf (max count : Nat) (result : Option Nat) : Finset (List Bytes) :=
  (drawn (byteStrings (randomLen max)) count).filter fun draws => genRandomMpint max draws = result

/-- The draws that are accepted as a number. -/
def spellings (max rand : Nat) : Finset Bytes :=
  (byteStrings (randomLen max)).filter fun randbuf => drawMpint max randbuf = some rand

/-- The draws that are accepted. -/
def accepted (max : Nat) : Finset Bytes :=
  (byteStrings (randomLen max)).filter fun randbuf => (drawMpint max randbuf).isSome

/-- What makes random numbers unbiased. -/
structure Unbiased (max : Nat) : Prop where
  /-- Only numbers in the range are returned. -/
  inRange : ∀ draws rand, genRandomMpint max draws = some rand → 0 < rand ∧ rand < max
  /-- Every number in the range is spelled by the same number of draws. -/
  spelled : ∀ rand, 0 < rand → rand < max →
    (spellings max rand).card = 2 ^ (8 * randomLen max - mpCountBits max)
  /-- Every number in the range is the result of the same number of sequences of draws. -/
  uniform : ∀ count rand rand', 0 < rand → rand < max → 0 < rand' → rand' < max →
    (drawsOf max count (some rand)).card = (drawsOf max count (some rand')).card
  /-- At least every fourth draw is accepted. -/
  likely : (byteStrings (randomLen max)).card ≤ 4 * (accepted max).card
  /-- The loop goes on for so many rounds no more often than that. -/
  ending : ∀ count, 4 ^ count * (drawsOf max count none).card ≤
    3 ^ count * (drawn (byteStrings (randomLen max)) count).card

section

variable {max rand : Nat} {randbuf : Bytes}

theorem drawMpint_eq_some : drawMpint max randbuf = some rand ↔
    ofBe (maskFirst (mpCountBits max) randbuf) = rand ∧ 0 < rand ∧ rand < max := by
  rw [drawMpint]
  split
  case _ fits =>
    rw [Option.some.injEq]
    constructor
    · rintro rfl
      exact ⟨rfl, fits.2, fits.1⟩
    · exact fun both => both.1
  case _ unfit =>
    refine iff_of_false nofun ?_
    rintro ⟨rfl, positive, below⟩
    exact unfit ⟨below, positive⟩

theorem genRandomMpint_eq_findSome? (draws : List Bytes) :
    genRandomMpint max draws = draws.findSome? (drawMpint max) := by
  induction draws with
  | nil => rfl
  | cons randbuf rest ih =>
    rw [genRandomMpint, List.findSome?_cons, ih]
    cases drawMpint max randbuf with
    | none => rfl
    | some rand => rfl

theorem drawsOf_eq_yielding (count : Nat) (result : Option Nat) :
    drawsOf max count result =
      yielding (byteStrings (randomLen max)) (drawMpint max) count result := by
  rw [drawsOf, yielding]
  exact Finset.filter_congr fun draws _ => by rw [genRandomMpint_eq_findSome?]

/-! ## Masks -/

/-- A mask leaves the low bits. -/
theorem toNat_masked (first : UInt8) {k : Nat} (small : k < 8) :
    (first &&& masks.getD k 0).toNat = first.toNat % 2 ^ (if k = 0 then 8 else k) := by
  rw [UInt8.toNat_and, ← Nat.and_two_pow_sub_one_eq_mod]
  congr 1
  interval_cases k <;> rfl

theorem mpCountBits_eq (positive : 0 < randomLen max) :
    mpCountBits max = 8 * (randomLen max - 1) +
      (if mpCountBits max % 8 = 0 then 8 else mpCountBits max % 8) := by
  rw [randomLen] at positive ⊢
  by_cases whole : mpCountBits max % 8 = 0
  · rw [if_neg (not_not.2 whole)] at positive ⊢
    rw [if_pos whole]
    omega
  · rw [if_pos whole, if_neg whole]
    omega

/-- What is left when the first byte has been masked. -/
theorem ofBe_maskFirst (length : randbuf.length = randomLen max) :
    ofBe (maskFirst (mpCountBits max) randbuf) = ofBe randbuf % 2 ^ mpCountBits max := by
  cases randbuf with
  | nil => simp [maskFirst]
  | cons first rest =>
    have positive : 0 < randomLen max := by
      rw [← length]
      exact Nat.succ_pos _
    have rest_length : rest.length = randomLen max - 1 := by
      rw [← length, List.length_cons, Nat.add_sub_cancel]
    rw [maskFirst, ofBe_cons, ofBe_cons, toNat_masked first (Nat.mod_lt _ (by decide))]
    conv_rhs => rw [mpCountBits_eq positive, ← rest_length, Nat.pow_add, Nat.pow_mul]
    have bounded := ofBe_lt_pow rest
    rw [show 2 ^ 8 = 256 from rfl, Nat.mod_mul, Nat.mul_comm first.toNat, Nat.mul_add_mod,
      Nat.mod_eq_of_lt bounded, Nat.mul_add_div (by positivity), Nat.div_eq_of_lt bounded,
      Nat.add_zero]
    ring

/-! ## Counts -/

theorem mem_byteStrings {len : Nat} {bytes : Bytes} :
    bytes ∈ byteStrings len ↔ bytes.length = len := by
  rw [byteStrings, Finset.mem_image]
  constructor
  · rintro ⟨n, _, rfl⟩
    exact length_toBe len n
  · rintro rfl
    exact ⟨ofBe bytes, Finset.mem_range.2 (ofBe_lt_pow bytes), toBe_ofBe bytes⟩

theorem toBe_injOn (len : Nat) : Set.InjOn (toBe len) (Finset.range (256 ^ len)) := by
  intro n inRange n' inRange' same
  rw [← ofBe_toBe (Finset.mem_range.1 inRange), same, ofBe_toBe (Finset.mem_range.1 inRange')]

/-- Byte strings are counted through the numbers they spell. -/
theorem card_filter_byteStrings (len : Nat) (holds : Nat → Prop) [DecidablePred holds] :
    ((byteStrings len).filter fun bytes => holds (ofBe bytes)).card =
      ((Finset.range (256 ^ len)).filter holds).card := by
  rw [byteStrings, Finset.filter_image,
    Finset.card_image_of_injOn ((toBe_injOn len).mono (Finset.filter_subset _ _))]
  refine congrArg Finset.card (Finset.filter_congr fun n inRange => ?_)
  rw [ofBe_toBe (Finset.mem_range.1 inRange)]

theorem card_byteStrings (len : Nat) : (byteStrings len).card = 256 ^ len := by
  rw [byteStrings, Finset.card_image_of_injOn (toBe_injOn len), Finset.card_range]

theorem mpCountBits_le_randomLen (max : Nat) : mpCountBits max ≤ 8 * randomLen max := by
  rw [randomLen]
  split <;> omega

theorem pow_randomLen (max : Nat) :
    256 ^ randomLen max = 2 ^ mpCountBits max * 2 ^ (8 * randomLen max - mpCountBits max) := by
  rw [← Nat.pow_add, Nat.add_sub_cancel' (mpCountBits_le_randomLen max), Nat.pow_mul]

/-- As many numbers have one remainder as another. -/
theorem card_residue {modulus remainder : Nat} (below : remainder < modulus) (times : Nat) :
    ((Finset.range (modulus * times)).filter fun n => n % modulus = remainder).card = times := by
  have counted := Nat.count_modEq_card (modulus * times) (by omega : 0 < modulus) remainder
  rw [Nat.count_eq_card_filter_range, Nat.mul_mod_right,
    Nat.mul_div_cancel_left _ (by omega : 0 < modulus), if_neg (Nat.not_lt_zero _),
    Nat.add_zero] at counted
  refine Eq.trans (congrArg Finset.card (Finset.filter_congr fun n _ => ?_)) counted
  rw [Nat.ModEq, Nat.mod_eq_of_lt below]

theorem spellings_eq (positive : 0 < rand) (below : rand < max) :
    spellings max rand = (byteStrings (randomLen max)).filter fun randbuf =>
      ofBe randbuf % 2 ^ mpCountBits max = rand := by
  refine Finset.filter_congr fun randbuf ofLength => ?_
  rw [drawMpint_eq_some, ofBe_maskFirst (mem_byteStrings.1 ofLength)]
  exact ⟨fun spelled => spelled.1, fun spelled => ⟨spelled, positive, below⟩⟩

theorem lt_two_pow_mpCountBits (max : Nat) : max < 2 ^ mpCountBits max :=
  mpCountBits_le_iff.1 (Nat.le_refl _)

/-- Every number in the range has the same number of spellings. -/
theorem card_spellings (positive : 0 < rand) (below : rand < max) :
    (spellings max rand).card = 2 ^ (8 * randomLen max - mpCountBits max) := by
  rw [spellings_eq positive below,
    card_filter_byteStrings _ fun n => n % 2 ^ mpCountBits max = rand, pow_randomLen]
  exact card_residue (below.trans (lt_two_pow_mpCountBits max)) _

/-- The draws that are accepted, sorted by what they spell. -/
theorem card_accepted (max : Nat) :
    (accepted max).card = (max - 1) * 2 ^ (8 * randomLen max - mpCountBits max) := by
  have sorted : ∀ randbuf ∈ accepted max, (drawMpint max randbuf).getD 0 ∈ Finset.Ioo 0 max := by
    intro randbuf mem
    obtain ⟨rand, drawn⟩ := Option.isSome_iff_exists.1 (Finset.mem_filter.1 mem).2
    rw [drawn, Option.getD_some, Finset.mem_Ioo]
    exact (drawMpint_eq_some.1 drawn).2
  have fibres : ∀ rand ∈ Finset.Ioo 0 max, ((accepted max).filter fun randbuf =>
      (drawMpint max randbuf).getD 0 = rand).card =
        2 ^ (8 * randomLen max - mpCountBits max) := by
    intro rand inRange
    obtain ⟨positive, below⟩ := Finset.mem_Ioo.1 inRange
    rw [← card_spellings positive below, accepted, Finset.filter_filter]
    refine congrArg Finset.card (Finset.filter_congr fun randbuf _ => ?_)
    cases drawMpint max randbuf with
    | none => simp
    | some other => simp
  rw [Finset.card_eq_sum_card_fiberwise sorted, Finset.sum_congr rfl fibres, Finset.sum_const,
    Nat.card_Ioo, Nat.sub_zero, nsmul_eq_mul, Nat.cast_id]

/-- A bound is at least half of the power of two above it. -/
theorem two_pow_mpCountBits_le (big : 1 < max) : 2 ^ mpCountBits max ≤ 4 * (max - 1) := by
  have half : ¬ mpCountBits max ≤ mpCountBits max - 1 := by
    have := mpCountBits_pos (by omega : max ≠ 0)
    omega
  have two : ¬ mpCountBits max ≤ 1 := by
    rw [mpCountBits_le_iff]
    omega
  rw [mpCountBits_le_iff, Nat.not_lt] at half
  obtain ⟨more, bits⟩ : ∃ more, mpCountBits max = more + 2 := ⟨mpCountBits max - 2, by omega⟩
  rw [bits] at half ⊢
  have positive : 0 < 2 ^ more := by positivity
  rw [show more + 2 - 1 = more + 1 from rfl, Nat.pow_succ] at half
  rw [Nat.pow_add]
  omega

theorem four_mul_card_accepted (big : 1 < max) :
    (byteStrings (randomLen max)).card ≤ 4 * (accepted max).card := by
  rw [card_byteStrings, card_accepted, pow_randomLen, ← Nat.mul_assoc]
  exact Nat.mul_le_mul_right _ (two_pow_mpCountBits_le big)

/-- A draw that is not accepted is rejected. -/
theorem card_rejected (max : Nat) :
    ((byteStrings (randomLen max)).filter fun randbuf => drawMpint max randbuf = none).card +
      (accepted max).card = (byteStrings (randomLen max)).card := by
  have halves := (byteStrings (randomLen max)).card_filter_add_card_filter_not fun randbuf =>
    (drawMpint max randbuf).isSome
  simp only [Option.not_isSome_iff_eq_none] at halves
  rw [Nat.add_comm]
  exact halves

/-- The loop goes on with a chance of three quarters at most. -/
theorem four_pow_mul_card_drawsOf_none (big : 1 < max) (count : Nat) :
    4 ^ count * (drawsOf max count none).card ≤
      3 ^ count * (drawn (byteStrings (randomLen max)) count).card := by
  have likely := four_mul_card_accepted big
  have rejected := card_rejected max
  rw [drawsOf_eq_yielding, card_yielding_none, card_drawn, ← Nat.mul_pow, ← Nat.mul_pow]
  exact Nat.pow_le_pow_left (by omega) count

theorem genRandomMpint_inRange {draws : List Bytes}
    (result : genRandomMpint max draws = some rand) : 0 < rand ∧ rand < max := by
  rw [genRandomMpint_eq_findSome?] at result
  obtain ⟨randbuf, _, accepted⟩ := List.exists_of_findSome?_eq_some result
  exact (drawMpint_eq_some.1 accepted).2

/-- **Random integers are unbiased**, whatever the bound. -/
theorem genRandomMpint_unbiased (big : 1 < max) : Unbiased max where
  inRange _ _ result := genRandomMpint_inRange result
  spelled _ positive below := card_spellings positive below
  uniform count rand rand' positive below positive' below' := by
    rw [drawsOf_eq_yielding, drawsOf_eq_yielding]
    refine card_yielding_eq ?_ count
    exact (card_spellings positive below).trans (card_spellings positive' below').symm
  likely := four_mul_card_accepted big
  ending := four_pow_mul_card_drawsOf_none big

/-- A bound with a whole number of bytes and one bit more. -/
theorem genRandomMpint_unbiased_256 : 1 < 256 ∧ Unbiased 256 :=
  ⟨by decide, genRandomMpint_unbiased (by decide)⟩

end

end Dropbear.Crypto
