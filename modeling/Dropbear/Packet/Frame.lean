/-
# The packets that are sent

Each stage of `encrypt_packet` returns, given the room that the caller has
allocated, and the bytes in use after it are known exactly.  Put together, a
queued packet is the protected form of one clear packet: a length, a padding
length, a body and padding, laid out as `Frame` says.
-/

import Dropbear.Buffer.Append
import Dropbear.Packet.Encrypt

namespace Dropbear.Packet

open Program

variable {σ ζ : Type}

/-- The padding a packet gets, for the block sizes in use: at least the four
bytes that are required, never more than was allocated, filling up the last
block and the smallest packet. -/
theorem paddingLength_spec {blocksize : Nat} (len : Nat) (aead : Bool)
    (sizes : blocksize = 8 ∨ blocksize = 16) (header : 6 ≤ len) (fits : len < 2 ^ 32) :
    4 ≤ paddingLength blocksize aead len ∧
      paddingLength blocksize aead len ≤ max minPacketLen blocksize + 3 ∧
      blocksize ∣ (len + paddingLength blocksize aead len) - (if aead then 4 else 0) ∧
      minPacketLen ≤ len + paddingLength blocksize aead len ∧
      blocksize + (if aead then 4 else 0) ≤ len + paddingLength blocksize aead len := by
  have exact : sub32 len 4 = len - 4 := sub32_of_le fits (by omega)
  rcases sizes with rfl | rfl <;> cases aead <;>
    simp only [paddingLength, exact, minPacketLen, Nat.dvd_iff_mod_eq_zero, if_true,
      Bool.false_eq_true, if_false] <;>
    (split_ifs <;> omega)

/-- A clear packet: its length field, its padding length, its body and its
padding. -/
def frame (body padding : Bytes) : Bytes :=
  be32 (1 + body.length + padding.length) ++ padding.length.toUInt8 :: body ++ padding

@[simp]
theorem length_frame (body padding : Bytes) :
    (frame body padding).length = 5 + body.length + padding.length := by
  simp only [frame, List.length_append, length_be32, List.length_cons]
  omega

/-- The full MAC of a clear packet.  Without a MAC algorithm there is none to
compute. -/
def macOf (keys : KeyContextDirectional σ ζ) (seq : Nat) (clear : Bytes) : Option Bytes :=
  if keys.hashsize = 0 then some [] else keys.hmac (be32 seq ++ clear)

theorem returns_makeMac {buf : Buffer} {n : Nat} (inside : n ≤ buf.len) :
    Returns (macOf keys seq (buf.data.take n) ≠ none)
      (fun made => ∃ full, macOf keys seq (buf.data.take n) = some full ∧
        made.1 = full.take keys.hashsize ∧ made.2.data = buf.data ∧ made.2.len = buf.len)
      (makeMac keys seq buf n) := by
  have allocated := buf.len_le_size
  rw [makeMac]
  split
  case _ present =>
    refine (returns_bufSetpos fun _ => Nat.zero_le _).bind ?_
    rintro b₁ ⟨_, data₁, len₁, pos₁⟩
    have small : n ≤ bufMaxIncr := Nat.le_trans inside buf.len_le_max
    refine (returns_bufGetptr fun _ => ⟨small, by omega⟩).bind ?_
    rintro ptr ⟨_, isPtr⟩
    refine (returns_peek (by rw [data₁]; omega)).bind fun clear isClear => ?_
    rw [isPtr, pos₁, List.drop_zero, data₁] at isClear
    subst isClear
    rw [macOf, if_neg (by omega)]
    cases hashed : keys.hmac (be32 seq ++ buf.data.take n) with
    | none => exact .error (fun computed => computed rfl) trivial
    | some full => exact .ok ⟨full, rfl, rfl, data₁, len₁⟩
  case _ absent =>
    have zero : keys.hashsize = 0 := by omega
    exact .ok ⟨[], if_pos zero, List.take_nil.symm, rfl, rfl⟩

/-! ## The payload -/

variable {keys : KeyContextDirectional σ ζ} {seq : Nat} {writebuf writepayload : Buffer}

/-- Compression leaves its output behind what the buffer held. -/
theorem returns_bufCompress {dest src : Buffer} (atEnd : dest.pos = dest.len) :
    Returns (src.pos = 0 ∧ dest.len + (src.len + zlibCompressExpansion) ≤ dest.data.length ∧
        ∃ out zstream, keys.zlib.deflate src.contents (dest.data.length - dest.len) keys.zstream =
          some (out, 0, zstream))
      (fun made => ∃ out zstream, keys.zlib.deflate src.contents (dest.data.length - dest.len)
          keys.zstream = some (out, 0, zstream) ∧
        made.1 = { keys with zstream := zstream } ∧ made.2.contents = dest.contents ++ out ∧
        made.2.data.length = dest.data.length)
      (bufCompress keys dest src src.len) := by
  have sized : dest.data.length < 2 ^ 32 := Nat.lt_of_le_of_lt dest.size_le_max (by decide)
  have allocated := dest.len_le_size
  have availOut : sub32 dest.data.length dest.pos = dest.data.length - dest.len := by
    rw [atEnd, sub32_of_le sized allocated]
  have availIn : sub32 (src.pos + src.len) src.pos = src.len := by
    have small := src.len_le_max
    have inside := src.pos_le_len
    simp only [bufMaxSize] at small
    rw [sub32_of_le (by omega) (Nat.le_add_right _ _), Nat.add_sub_cancel_left]
  rw [bufCompress, availOut, availIn]
  split
  · exact .error (fun fits => by omega) trivial
  refine (returns_bufGetptr fun holds => ⟨src.len_le_max, by omega⟩).bind ?_
  rintro nextIn ⟨⟨_, whole⟩, isNext⟩
  refine (returns_peek (by have := src.len_le_size; omega)).bind fun input isInput => ?_
  have start : nextIn = 0 := by omega
  rw [start, List.drop_zero, ← Buffer.contents] at isInput
  subst isInput
  refine (returns_bufGetwriteptr fun _ => ⟨Nat.le_trans (Nat.sub_le _ _) dest.size_le_max,
    by omega⟩).bind ?_
  rintro nextOut ⟨_, isOut⟩
  cases deflated : keys.zlib.deflate src.contents (dest.data.length - dest.len) keys.zstream with
  | none => exact .error (by rintro ⟨_, _, _, _, ⟨⟩⟩) trivial
  | some result =>
    obtain ⟨out, left, zstream⟩ := result
    have fits := keys.zlib.deflate_length deflated
    have inside : dest.len + out.length ≤ dest.data.length := by omega
    rw [isOut, atEnd]
    refine (returns_poke inside).bind ?_
    rintro stored ⟨data, _, _⟩
    have sized' : stored.data.length = dest.data.length := by rw [data, length_overwrite inside]
    have newLen : stored.data.length - (dest.data.length - dest.len - out.length) =
        dest.len + out.length := by
      omega
    rw [newLen]
    refine (returns_bufSetlen fun _ => by omega).bind ?_
    rintro cut ⟨dataCut, lenCut⟩
    refine (returns_bufSetpos fun _ => Nat.le_refl _).bind ?_
    rintro moved ⟨_, dataMoved, lenMoved, _⟩
    split
    case _ remains =>
      refine .error ?_ trivial
      rintro ⟨_, _, _, _, ⟨⟩⟩
      exact remains rfl
    case _ done =>
      cases not_not.1 done
      refine .ok ⟨out, zstream, rfl, rfl, ?_, by rw [dataMoved, dataCut, sized']⟩
      exact Buffer.contents_append _ _ _ (by rw [dataMoved, dataCut, data])
        (by rw [lenMoved, lenCut]) inside

/-- The payload is put behind what the buffer held, compressed or as it is. -/
theorem returns_putPayload {ses : Transmit σ ζ} (atEnd : writebuf.pos = writebuf.len) :
    Returns (writepayload.pos = 0 ∧
        writebuf.len + (writepayload.len + zlibCompressExpansion) ≤ writebuf.data.length ∧
        (ses.compress → ∃ out zstream, ses.keys.zlib.deflate writepayload.contents
          (writebuf.data.length - writebuf.len) ses.keys.zstream = some (out, 0, zstream)))
      (fun made => ∃ body zstream,
        (if ses.compress then ses.keys.zlib.deflate writepayload.contents
            (writebuf.data.length - writebuf.len) ses.keys.zstream = some (body, 0, zstream)
          else body = writepayload.contents ∧ zstream = ses.keys.zstream) ∧
        made.1 = { ses.keys with zstream := zstream } ∧
        made.2.contents = writebuf.contents ++ body ∧
        made.2.data.length = writebuf.data.length)
      (putPayload ses writebuf writepayload) := by
  rw [putPayload]
  cases compressing : ses.compress with
  | true =>
    refine (returns_bufCompress atEnd).mono ?_ fun _ => id
    exact fun fits => ⟨fits.1, fits.2.1, fits.2.2 rfl⟩
  | false =>
    have small : writepayload.len ≤ bufMaxIncr := writepayload.len_le_max
    refine (returns_bufGetwriteptr fun fits => ⟨small, by omega⟩).bind ?_
    rintro dst ⟨⟨_, room⟩, isDst⟩
    refine (returns_bufGetptr fun holds => ⟨small, by omega⟩).bind ?_
    rintro src ⟨⟨_, whole⟩, isSrc⟩
    have start : src = 0 := by omega
    refine (returns_peek (by have := writepayload.len_le_size; omega)).bind
      fun bytes isBytes => ?_
    rw [start, List.drop_zero, ← Buffer.contents] at isBytes
    subst isBytes
    have inside : writebuf.len + writepayload.contents.length ≤ writebuf.data.length := by
      rwa [Buffer.length_contents, ← atEnd]
    rw [isDst, atEnd]
    refine (returns_poke inside).bind ?_
    rintro stored ⟨data, len, pos⟩
    have sized : stored.data.length = writebuf.data.length := by
      rw [data, length_overwrite inside]
    refine (returns_bufIncrwritepos fun _ => ⟨small, by omega⟩).bind ?_
    rintro moved ⟨data', len', _⟩
    refine .ok ⟨_, _, ⟨rfl, rfl⟩, rfl, ?_, by rw [data', sized]⟩
    refine Buffer.contents_append _ _ _ (by rw [data', data]) ?_ inside
    rw [len', len, pos, atEnd, Buffer.length_contents]
    omega

/-! ## The header -/

/-- The header is filled in and the padding appended. -/
theorem returns_putHeader (random : Nat → UInt8) (reserved : 5 ≤ writebuf.len) :
    Returns (6 ≤ writebuf.len ∧
        writebuf.len + (max minPacketLen keys.blocksize + 3) ≤ writebuf.data.length)
      (fun packet => ∃ padding, packet.contents = frame (writebuf.contents.drop 5) padding ∧
        packet.data.length = writebuf.data.length ∧
        padding.length = paddingLength keys.blocksize keys.mode.isAead writebuf.len)
      (putHeader random keys writebuf) := by
  have allocated := writebuf.size_le_max
  have used := writebuf.len_le_size
  have bounded : writebuf.data.length < 2 ^ 32 := Nat.lt_of_le_of_lt allocated (by decide)
  have padding : 6 ≤ writebuf.len → _ := fun header =>
    paddingLength_spec writebuf.len keys.mode.isAead keys.blocksize_cases header (by omega)
  rw [putHeader]
  generalize paddingLength keys.blocksize keys.mode.isAead writebuf.len = padlen at padding ⊢
  refine (returns_bufSetpos fun _ => Nat.zero_le _).bind ?_
  rintro b₁ ⟨_, data₁, len₁, pos₁⟩
  rw [bufPutint_eq_bufPutbytes]
  refine (returns_bufPutbytes fun _ => ⟨by rw [length_be32]; decide, by
    rw [length_be32, data₁]; omega⟩).bind ?_
  rintro b₂ ⟨inside₂, data₂, len₂, pos₂⟩
  rw [pos₁, length_be32] at len₂ pos₂
  rw [pos₁] at data₂
  have sized₂ : b₂.data.length = writebuf.data.length := by
    rw [data₂, length_overwrite (by rw [data₁, length_be32]; omega), data₁]
  have room₂ : b₂.pos + [padlen.toUInt8].length ≤ b₂.data.length := by
    rw [List.length_singleton]
    omega
  refine ((puts_bufPutbyte padlen.toUInt8 b₂).mono (fun _ => room₂) fun _ => id).bind ?_
  rintro b₃ ⟨_, data₃, longer₃, _⟩
  have len₃ : b₃.len = b₂.len := by
    rw [longer₃, List.length_singleton]
    omega
  refine (returns_bufSetpos fun _ => Nat.le_refl _).bind ?_
  rintro b₄ ⟨_, data₄, len₄, pos₄⟩
  have sized₄ : b₄.data.length = writebuf.data.length := by
    rw [data₄, data₃, length_overwrite (by rw [pos₂, List.length_singleton]; omega), sized₂]
  refine (returns_bufIncrlen fun holds => ?_).bind ?_
  · have most := (padding holds.1).2.1
    exact ⟨Nat.le_trans (by omega) allocated, by omega⟩
  rintro b₅ ⟨room, data₅, len₅, pos₅⟩
  refine (returns_bufGetptr fun _ => ⟨Nat.le_trans (by omega) allocated, by omega⟩).bind ?_
  rintro ptr ⟨_, isPtr⟩
  have isEnd : ptr = b₄.len := by omega
  subst isEnd
  have room₅ : b₄.len + ((List.range padlen).map random).length ≤ b₅.data.length := by
    rw [List.length_map, List.length_range, data₅]
    exact room
  refine (returns_poke room₅).mono id ?_
  rintro b₆ ⟨data₆, len₆, _⟩
  refine ⟨(List.range padlen).map random, ?_, ?_, by simp⟩
  · have clear₁ : b₁.contents = writebuf.contents := by
      rw [Buffer.contents, data₁, len₁, Buffer.contents]
    have clear₂ := Buffer.contents_overwrite data₂ (by omega) (by rw [length_be32]; omega)
    have clear₃ := Buffer.contents_overwrite data₃ len₃ (by rw [pos₂, List.length_singleton]; omega)
    have clear₄ : b₄.contents = b₃.contents := by
      rw [Buffer.contents, data₄, len₄, Buffer.contents]
    have clear₆ := Buffer.contents_append b₄ b₆ ((List.range padlen).map random)
      (by rw [data₆, data₅])
      (by rw [len₆, len₅, List.length_map, List.length_range])
      (by rwa [← data₅])
    have counted : sub32 (b₁.len + padlen) 4 = 1 + (writebuf.len - 5) + padlen := by
      rw [sub32_of_le (by omega) (by omega)]
      omega
    have inFront : 5 ≤ writebuf.contents.length := by rwa [Buffer.length_contents]
    obtain ⟨a, b, c, d, e, body, isContents⟩ :
        ∃ a b c d e body, writebuf.contents = a :: b :: c :: d :: e :: body := by
      generalize writebuf.contents = clear at inFront
      rcases clear with _ | ⟨a, _ | ⟨b, _ | ⟨c, _ | ⟨d, _ | ⟨e, body⟩⟩⟩⟩⟩
      case cons.cons.cons.cons.cons => exact ⟨a, b, c, d, e, body, rfl⟩
      all_goals simp at inFront
    have bodyLen : writebuf.len - 5 = body.length := by
      rw [← Buffer.length_contents, isContents]
      rfl
    rw [clear₆, clear₄, clear₃, clear₂, clear₁, pos₂, counted, bodyLen, isContents]
    simp [overwrite, frame, be32]
  · rw [data₆, length_overwrite room₅, data₅, sized₄]

/-! ## Encryption -/

/-- What goes out for a clear packet, with the state of the cipher afterwards: the ciphertext
with its tag, or the ciphertext and behind it the MAC of sequence number and clear packet. -/
def protectedForm (keys : KeyContextDirectional σ ζ) (seq : Nat) (clear : Bytes) :
    Option (Bytes × σ) :=
  match keys.mode with
  | .aead mode => mode.encrypt seq clear keys.hashsize keys.cipherState
  | .stream mode => do
    let full ← macOf keys seq clear
    let (encrypted, cipherState) ← mode.encrypt clear keys.cipherState
    some (encrypted ++ full.take keys.hashsize, cipherState)

theorem le_of_protectedForm {clear out : Bytes} {cipherState : σ}
    (form : protectedForm keys seq clear = some (out, cipherState)) :
    clear.length ≤ out.length := by
  rw [protectedForm] at form
  cases isMode : keys.mode with
  | aead mode =>
    rw [isMode] at form
    exact Nat.le.intro (mode.encrypt_length form).symm
  | stream mode =>
    rw [isMode] at form
    obtain ⟨full, _, form⟩ := Option.bind_eq_some_iff.1 form
    obtain ⟨⟨encrypted, _⟩, same, form⟩ := Option.bind_eq_some_iff.1 form
    cases form
    rw [List.length_append, mode.encrypt_length same]
    exact Nat.le_add_right _ _

theorem returns_protectWritebuf :
    Returns (protectedForm keys seq writebuf.contents ≠ none ∧
        writebuf.len + keys.hashsize ≤ writebuf.data.length)
      (fun made => ∃ cipherState,
        protectedForm keys seq writebuf.contents = some (made.2.contents, cipherState) ∧
        made.1 = { keys with cipherState := cipherState })
      (protectWritebuf keys seq writebuf) := by
  have hashsize : keys.hashsize ≤ bufMaxIncr := Nat.le_trans keys.hashsize_le (by decide)
  have allocated := writebuf.size_le_max
  rw [protectWritebuf, protectedForm]
  cases keys.mode with
  | aead mode =>
    dsimp only
    refine (returns_bufSetpos fun _ => Nat.zero_le _).bind ?_
    rintro b₁ ⟨_, data₁, len₁, pos₁⟩
    refine (returns_bufIncrlen fun fits => ⟨hashsize, by rw [data₁, len₁]; exact fits.2⟩).bind ?_
    rintro b₂ ⟨room, data₂, len₂, pos₂⟩
    rw [data₁, len₁] at room
    have small : writebuf.len + keys.hashsize ≤ bufMaxIncr := Nat.le_trans room allocated
    refine (returns_bufGetptr fun _ => ⟨by omega, by omega⟩).bind ?_
    rintro src ⟨_, isSrc⟩
    refine (returns_bufGetwriteptr fun _ => ⟨by omega, by rw [data₂, data₁]; omega⟩).bind ?_
    rintro dst ⟨_, isDst⟩
    refine (returns_peek (by rw [data₂, data₁]; omega)).bind fun clear isClear => ?_
    rw [isSrc, pos₂, pos₁, List.drop_zero, data₂, data₁, len₁, ← Buffer.contents] at isClear
    rw [isClear, isDst, pos₂, pos₁]
    cases encrypted : mode.encrypt seq writebuf.contents keys.hashsize keys.cipherState with
    | none => exact .error (fun fits => fits.1 rfl) trivial
    | some result =>
      obtain ⟨ct, cipherState⟩ := result
      have ctLen : ct.length = b₂.len := by
        rw [mode.encrypt_length encrypted, Buffer.length_contents, len₂, len₁]
      have inside : 0 + ct.length ≤ b₂.data.length := by
        rw [Nat.zero_add, ctLen]
        exact b₂.len_le_size
      refine (returns_poke inside).bind ?_
      rintro b₃ ⟨data₃, len₃, pos₃⟩
      refine (returns_bufIncrpos fun _ => ⟨by omega, by omega⟩).bind ?_
      rintro b₄ ⟨data₄, len₄, _⟩
      have contents : b₄.contents = ct := by
        rw [Buffer.contents, data₄, len₄, ← Buffer.contents,
          Buffer.contents_overwrite data₃ len₃ (by omega), overwrite, ctLen,
          ← Buffer.length_contents b₂]
        simp
      exact .ok ⟨cipherState, by rw [contents], rfl⟩
  | stream mode =>
    dsimp only
    have whole : writebuf.data.take writebuf.len = writebuf.contents := rfl
    refine ((returns_makeMac (Nat.le_refl writebuf.len)).mono ?_ fun _ => id).bind ?_
    · rintro ⟨made, _⟩ unhashed
      rw [whole] at unhashed
      rw [unhashed] at made
      exact made rfl
    rintro ⟨mac, b₁⟩ ⟨full, hashed, isMac, data₁, len₁⟩
    rw [whole] at hashed
    dsimp only at isMac data₁ len₁ ⊢
    refine (returns_bufSetpos fun _ => Nat.zero_le _).bind ?_
    rintro b₂ ⟨_, data₂, len₂, pos₂⟩
    have same : b₂.contents = writebuf.contents := by
      rw [Buffer.contents, data₂, len₂, data₁, len₁, Buffer.contents]
    have size₂ := b₂.len_le_size
    refine (returns_bufGetptr fun _ => ⟨b₂.len_le_max, by omega⟩).bind ?_
    rintro src ⟨_, isSrc⟩
    refine (returns_bufGetwriteptr fun _ => ⟨b₂.len_le_max, by omega⟩).bind ?_
    rintro dst ⟨_, isDst⟩
    refine (returns_peek (by omega)).bind fun clear isClear => ?_
    rw [isSrc, pos₂, List.drop_zero, ← Buffer.contents, same] at isClear
    rw [isClear, isDst, pos₂, hashed]
    cases encrypted : mode.encrypt writebuf.contents keys.cipherState with
    | none => exact .error (fun fits => fits.1 rfl) trivial
    | some result =>
      obtain ⟨ct, cipherState⟩ := result
      have ctLen : ct.length = b₂.len := by
        rw [mode.encrypt_length encrypted, ← same, Buffer.length_contents]
      have inside : 0 + ct.length ≤ b₂.data.length := by omega
      refine (returns_poke inside).bind ?_
      rintro b₃ ⟨data₃, len₃, pos₃⟩
      have sized₃ : b₃.data.length = writebuf.data.length := by
        rw [data₃, length_overwrite inside, data₂, data₁]
      have clear₃ : b₃.contents = ct := by
        rw [Buffer.contents_overwrite data₃ len₃ (by omega), overwrite, ctLen,
          ← Buffer.length_contents b₂]
        simp
      refine (returns_bufIncrpos fun _ => ⟨b₂.len_le_max, by omega⟩).bind ?_
      rintro b₄ ⟨data₄, len₄, pos₄⟩
      have macLen : mac.length ≤ keys.hashsize := by
        rw [isMac, List.length_take]
        exact Nat.min_le_left _ _
      refine (returns_bufPutbytes fun holds => ?_).bind ?_
      · have room := holds.2
        exact ⟨by omega, by rw [data₄, sized₃]; omega⟩
      rintro b₅ ⟨inside, data₅, len₅, _⟩
      have atEnd : b₄.pos = b₄.len := by omega
      rw [atEnd] at inside data₅ len₅
      have contents : b₅.contents = ct ++ full.take keys.hashsize := by
        rw [Buffer.contents_append b₄ b₅ mac data₅ (by omega) inside, isMac, Buffer.contents,
          data₄, len₄, ← Buffer.contents, clear₃]
      exact .ok ⟨cipherState, by rw [contents]; rfl, rfl⟩

end Dropbear.Packet
