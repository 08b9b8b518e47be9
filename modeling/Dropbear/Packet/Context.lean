/-
# Directional key contexts

A packet is protected by the cipher, MAC and compression state of one
direction.  The algorithms themselves are parameters: a cipher mode is its
in-place functions over an arbitrary state, together with the lengths they
produce, and a context carries the block and MAC sizes within the limits of the
algorithm tables.

`Matches` states when a sending and a receiving context belong together.  It is
closed under encrypting a packet on one side and decrypting it on the other, and
it is all that is assumed of the algorithms.
-/

import Dropbear.Buffer.Outcome

namespace Dropbear.Packet

open Program

/-- Longest MAC, `MAX_MAC_LEN`. -/
def maxMacLen : Nat := 64

/-- Room for compression that makes its input larger, `ZLIB_COMPRESS_EXPANSION`. -/
def zlibCompressExpansion : Nat := ((32768 / 16384) + 1) * 5 + 6

/-- Largest payload to send, `TRANS_MAX_PAYLOAD_LEN`. -/
def transMaxPayloadLen : Nat := 16384

/-- Largest payload to accept, `RECV_MAX_PAYLOAD_LEN`. -/
def recvMaxPayloadLen : Nat := 32768

/-- Largest packet to accept, `RECV_MAX_PACKET_LEN`. -/
def recvMaxPacketLen : Nat := max 35000 (recvMaxPayloadLen + 100)

/-- Smallest packet to send, `MIN_PACKET_LEN`. -/
def minPacketLen : Nat := 16

/-- A cipher mode that is used next to a MAC.  Both functions work in place. -/
structure StreamMode (σ : Type) where
  /-- Encrypt, advancing the state. `none` is any result but `CRYPT_OK`. -/
  encrypt : Bytes → σ → Option (Bytes × σ)
  /-- Decrypt, advancing the state. -/
  decrypt : Bytes → σ → Option (Bytes × σ)
  encrypt_length {pt ct : Bytes} {st st' : σ} :
    encrypt pt st = some (ct, st') → ct.length = pt.length
  decrypt_length {ct pt : Bytes} {st st' : σ} :
    decrypt ct st = some (pt, st') → pt.length = ct.length

/-- A cipher mode that authenticates the packet by itself. -/
structure AeadMode (σ : Type) where
  /-- The packet length, from the sequence number and the first block. -/
  getlength : Nat → Bytes → σ → Option Nat
  /-- `aead_crypt` with `LTC_ENCRYPT`: sequence number, plaintext, tag length. -/
  encrypt : Nat → Bytes → Nat → σ → Option (Bytes × σ)
  /-- `aead_crypt` with `LTC_DECRYPT`: sequence number, ciphertext with tag, tag length. -/
  decrypt : Nat → Bytes → Nat → σ → Option (Bytes × σ)
  getlength_lt {seq n : Nat} {block : Bytes} {st : σ} :
    getlength seq block st = some n → n < 2 ^ 32
  encrypt_length {seq tag : Nat} {pt ct : Bytes} {st st' : σ} :
    encrypt seq pt tag st = some (ct, st') → ct.length = pt.length + tag
  decrypt_length {seq tag : Nat} {ct pt : Bytes} {st st' : σ} :
    decrypt seq ct tag st = some (pt, st') → pt.length + tag = ct.length

/-- `struct dropbear_cipher_mode`, by whether `aead_crypt` is set. -/
inductive CryptMode (σ : Type) where
  | stream (mode : StreamMode σ)
  | aead (mode : AeadMode σ)

/-- Whether `aead_crypt` is set. -/
def CryptMode.isAead {σ : Type} : CryptMode σ → Bool
  | .stream _ => false
  | .aead _ => true

/-- The two zlib entry points, called with `Z_SYNC_FLUSH`.  Each takes the input
and the room for output, and returns the output and how much input is left over.
`none` is any result but `Z_OK`. -/
structure Zlib (ζ : Type) where
  deflate : Bytes → Nat → ζ → Option (Bytes × Nat × ζ)
  inflate : Bytes → Nat → ζ → Option (Bytes × Nat × ζ)
  deflate_length {input out : Bytes} {room left : Nat} {st st' : ζ} :
    deflate input room st = some (out, left, st') → out.length ≤ room
  inflate_length {input out : Bytes} {room left : Nat} {st st' : ζ} :
    inflate input room st = some (out, left, st') → out.length ≤ room

/-- `struct key_context_directional`: one direction's algorithms and their state. -/
structure KeyContextDirectional (σ ζ : Type) where
  /-- `algo_crypt->blocksize`. -/
  blocksize : Nat
  blocksize_cases : blocksize = 8 ∨ blocksize = 16
  /-- `algo_mac->hashsize`. -/
  hashsize : Nat
  hashsize_le : hashsize ≤ maxMacLen
  mode : CryptMode σ
  cipherState : σ
  /-- The keyed hash under `mackey`, before truncation to `hashsize`. -/
  hmac : Bytes → Option Bytes
  hmac_length {message mac : Bytes} : hmac message = some mac → hashsize ≤ mac.length
  zlib : Zlib ζ
  zstream : ζ

variable {σ ζ : Type}

/-- The MAC of a sequence number and the first `clearLen` bytes of a buffer.  As
in the source, computing it moves the buffer to its start. -/
def makeMac (keyState : KeyContextDirectional σ ζ) (seqno : Nat) (clearBuf : Buffer)
    (clearLen : Nat) : Except Exit (Bytes × Buffer) :=
  if keyState.hashsize > 0 then do
    let clearBuf ← bufSetpos clearBuf 0
    let ptr ← bufGetptr clearBuf clearLen
    let clear ← clearBuf.peek ptr clearLen
    match keyState.hmac (be32 seqno ++ clear) with
    | some mac => pure (mac.take keyState.hashsize, clearBuf)
    | none => throw (.exit "HMAC error")
  else pure ([], clearBuf)

/-! ## Before the first key exchange -/

/-- `dropbear_mode_none`: bytes pass through unchanged. -/
def modeNone : StreamMode Unit where
  encrypt pt st := some (pt, st)
  decrypt ct st := some (ct, st)
  encrypt_length h := by
    cases h
    rfl
  decrypt_length h := by
    cases h
    rfl

/-- A compression that stores its input. -/
def zlibStored : Zlib Unit where
  deflate input room st := if input.length ≤ room then some (input, 0, st) else none
  inflate input room st := if input.length ≤ room then some (input, 0, st) else none
  deflate_length h := by
    split at h
    · cases h
      assumption
    · cases h
  inflate_length h := by
    split at h
    · cases h
      assumption
    · cases h

/-- The context a session begins with: `dropbear_nocipher`, `dropbear_mode_none` and
`dropbear_nohash`. -/
def keysNone : KeyContextDirectional Unit Unit where
  blocksize := 8
  blocksize_cases := .inl rfl
  hashsize := 0
  hashsize_le := Nat.zero_le _
  mode := .stream modeNone
  cipherState := ()
  hmac _ := some []
  hmac_length _ := Nat.zero_le _
  zlib := zlibStored
  zstream := ()

/-! ## Contexts that belong together -/

/-- A sender's and a receiver's stream state belong together: what the one
encrypts, the other recovers in the two pieces in which a packet is read, and
their states then belong together again. -/
structure StreamMode.Matched (blocksize : Nat) (sender receiver : StreamMode σ)
    (related : σ → σ → Prop) : Prop where
  recovers {pt : Bytes} {st rt : σ} (together : related st rt)
    (whole : blocksize ∣ pt.length) (nonempty : blocksize ≤ pt.length) :
    ∃ ct st' rt₁ rt', sender.encrypt pt st = some (ct, st') ∧
      receiver.decrypt (ct.take blocksize) rt = some (pt.take blocksize, rt₁) ∧
      receiver.decrypt (ct.drop blocksize) rt₁ = some (pt.drop blocksize, rt') ∧
      related st' rt'

/-- The same for an authenticating mode, whose length is found from the first
block alone. -/
structure AeadMode.Matched (blocksize tag : Nat) (sender receiver : AeadMode σ)
    (related : σ → σ → Prop) : Prop where
  recovers {pt : Bytes} {st rt : σ} (seq : Nat) (together : related st rt)
    (whole : blocksize ∣ pt.length - 4) (nonempty : 4 + blocksize ≤ pt.length) :
    ∃ ct st' rt', sender.encrypt seq pt tag st = some (ct, st') ∧
      receiver.getlength seq (ct.take blocksize) rt = some (ofBe (pt.take 4)) ∧
      receiver.decrypt seq ct tag rt = some (pt, rt') ∧
      related st' rt'

/-- Compression states that belong together: a payload that fits is deflated
within the expansion bound, and inflating the result returns it. -/
structure Zlib.Matched (sender receiver : Zlib ζ) (related : ζ → ζ → Prop) : Prop where
  recovers {input : Bytes} {st rt : ζ} (room : Nat) (together : related st rt)
    (nonempty : 0 < input.length) (small : input.length ≤ transMaxPayloadLen)
    (enough : input.length + zlibCompressExpansion ≤ room) :
    ∃ out st' rt', sender.deflate input room st = some (out, 0, st') ∧
      0 < out.length ∧ out.length ≤ input.length + zlibCompressExpansion ∧
      receiver.inflate out (recvMaxPayloadLen + 1) rt = some (input, 0, rt') ∧
      related st' rt'

/-- A sending and a receiving context encrypt and authenticate alike: they run the
same algorithms, these satisfy their laws, and the cipher states are related. -/
structure CipherMatches (cipher : σ → σ → Prop) (sender receiver : KeyContextDirectional σ ζ) :
    Prop where
  blocksize : receiver.blocksize = sender.blocksize
  hashsize : receiver.hashsize = sender.hashsize
  hmac : receiver.hmac = sender.hmac
  /-- The MAC functions of the library do not fail. -/
  hmac_total (message : Bytes) : ∃ mac, sender.hmac message = some mac
  mode :
    match sender.mode, receiver.mode with
    | .stream sending, .stream receiving => sending.Matched sender.blocksize receiving cipher
    | .aead sending, .aead receiving =>
      sending.Matched sender.blocksize sender.hashsize receiving cipher
    | _, _ => False
  cipherState : cipher sender.cipherState receiver.cipherState

/-- A sending and a receiving context belong together under the given relations of
cipher and compression states. -/
structure Matches (cipher : σ → σ → Prop) (stream : ζ → ζ → Prop)
    (sender receiver : KeyContextDirectional σ ζ) : Prop
    extends CipherMatches cipher sender receiver where
  zlib : sender.zlib.Matched receiver.zlib stream
  zstream : stream sender.zstream receiver.zstream

/-- The initial context matches itself. -/
theorem matches_keysNone : Matches (fun _ _ => True) (fun _ _ => True) keysNone keysNone where
  blocksize := rfl
  hashsize := rfl
  hmac := rfl
  hmac_total _ := ⟨[], rfl⟩
  mode := ⟨fun _ _ _ => ⟨_, (), (), (), rfl, rfl, rfl, trivial⟩⟩
  cipherState := trivial
  zlib := by
    refine ⟨fun {input st rt} room _ nonempty small enough => ⟨input, st, rt, ?_, nonempty, ?_, ?_,
      trivial⟩⟩
    · exact if_pos (Nat.le_trans (Nat.le_add_right _ _) enough)
    · exact Nat.le_add_right _ _
    · refine if_pos ?_
      simp only [transMaxPayloadLen, recvMaxPayloadLen] at small ⊢
      omega
  zstream := trivial

end Dropbear.Packet
