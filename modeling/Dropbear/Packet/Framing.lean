/-
# What an accepted packet looks like

The peer chooses every byte of the stream, the length field and the padding
length included, and the schedule cuts the stream into reads at will.  `Reading`
describes a receiver in the middle of a packet: which bytes it took since the
packet began, and how they are held.  One call of `read_packet` either keeps it
or delivers a payload, and a delivered payload comes from a packet whose lengths
add up exactly.
-/

import Dropbear.Packet.Frame
import Dropbear.Packet.Read

namespace Dropbear.Packet

open Program

variable {σ ζ : Type}

/-! ## The first block -/

/-- What the first block of a packet reveals: the length field, the block as it
is kept in the buffer, and the context afterwards. -/
def openBlock (keys : KeyContextDirectional σ ζ) (seq : Nat) (block : Bytes) :
    Option (Nat × Bytes × KeyContextDirectional σ ζ) :=
  match keys.mode with
  | .aead mode => (mode.getlength seq block keys.cipherState).map fun plen => (plen, block, keys)
  | .stream mode => (mode.decrypt block keys.cipherState).map fun opened =>
    (ofBe (opened.1.take 4), opened.1, { keys with cipherState := opened.2 })

/-- The length of the whole packet, as a 32-bit sum. -/
def wireLength (keys : KeyContextDirectional σ ζ) (plen : Nat) : Nat :=
  u32 (plen + 4 + keys.hashsize)

/-- The length that is compared with the block size: an authenticating mode
leaves the length field itself out of it. -/
def checkedLength (keys : KeyContextDirectional σ ζ) (plen : Nat) : Nat :=
  match keys.mode with
  | .aead _ => plen
  | .stream _ => u32 (plen + 4)

/-- The packet lengths that pass the checks of `read_packet_init`. -/
structure Accepted (keys : KeyContextDirectional σ ζ) (plen : Nat) : Prop where
  field : plen < 2 ^ 32
  bounded : wireLength keys plen ≤ recvMaxPacketLen
  least : keys.blocksize ≤ checkedLength keys plen
  whole : checkedLength keys plen % keys.blocksize = 0
  /-- From the move to the end of the first block. -/
  block : keys.blocksize ≤ wireLength keys plen

theorem overwrite_take_self (mem : Bytes) (n : Nat) : overwrite mem 0 (mem.take n) = mem := by
  by_cases inside : n ≤ mem.length
  · simp [overwrite, inside]
  · simp [overwrite, List.take_of_length_le (Nat.le_of_not_le inside)]

theorem blocksize_le (keys : KeyContextDirectional σ ζ) : keys.blocksize ≤ 16 := by
  rcases keys.blocksize_cases with size | size <;> omega

variable {ses : Receive σ ζ} {block : Bytes}

variable {readbuf : Buffer}

/-- The first block gives a length if it can be opened. -/
theorem returns_readLength (start : readbuf.pos = 0) (complete : ses.keys.blocksize ≤ readbuf.len)
    (isBlock : readbuf.data.take ses.keys.blocksize = block) :
    Returns (openBlock ses.keys ses.recvseq block ≠ none)
      (fun read => ∃ plen head keys readbuf',
        read = (checkedLength ses.keys plen, wireLength ses.keys plen, keys, readbuf') ∧
        openBlock ses.keys ses.recvseq block = some (plen, head, keys) ∧
        plen < 2 ^ 32 ∧ head.length = ses.keys.blocksize ∧
        readbuf'.data = overwrite readbuf.data 0 head ∧ readbuf'.len = readbuf.len)
      (readLength ses readbuf) := by
  have allocated := Nat.le_trans complete readbuf.len_le_size
  have small : ses.keys.blocksize ≤ bufMaxIncr := Nat.le_trans (blocksize_le _) (by decide)
  have length : block.length = ses.keys.blocksize := by
    rw [← isBlock, List.length_take, Nat.min_eq_left allocated]
  rw [readLength]
  cases mode_eq : ses.keys.mode with
  | aead mode =>
    refine (returns_bufGetptr fun _ => ⟨small, by omega⟩).bind ?_
    rintro src ⟨_, isSrc⟩
    refine (returns_peek (by omega)).bind fun bytes isBytes => ?_
    rw [isSrc, start, List.drop_zero, isBlock] at isBytes
    subst isBytes
    cases found : mode.getlength ses.recvseq bytes ses.keys.cipherState with
    | none =>
      exact .error (fun opens => opens (by simp only [openBlock, mode_eq, found]; rfl)) trivial
    | some plen =>
      refine .ok ⟨plen, bytes, ses.keys, readbuf, ?_, ?_, mode.getlength_lt found, length, ?_, rfl⟩
      · simp only [checkedLength, mode_eq]
        rfl
      · simp only [openBlock, mode_eq, found, Option.map_some]
      · rw [← isBlock, overwrite_take_self]
  | stream mode =>
    refine (returns_bufGetptr fun _ => ⟨small, by omega⟩).bind ?_
    rintro src ⟨_, isSrc⟩
    refine (returns_bufGetwriteptr fun _ => ⟨small, by omega⟩).bind ?_
    rintro dst ⟨_, isDst⟩
    refine (returns_peek (by omega)).bind fun bytes isBytes => ?_
    rw [isSrc, start, List.drop_zero, isBlock] at isBytes
    rw [start] at isDst
    subst isBytes isDst
    dsimp only
    cases opened : mode.decrypt bytes ses.keys.cipherState with
    | none =>
      exact .error (fun opens => opens (by simp only [openBlock, mode_eq, opened]; rfl)) trivial
    | some result =>
      obtain ⟨clear, cipherState⟩ := result
      have clearLen := (mode.decrypt_length opened).trans length
      have atLeast : 4 ≤ clear.length := by
        have := ses.keys.blocksize_cases
        omega
      refine (returns_poke (by omega)).bind ?_
      rintro b₁ ⟨data₁, len₁, pos₁⟩
      refine (returns_bufGetint fun _ => by omega).bind ?_
      rintro ⟨field, b₂⟩ read
      obtain ⟨isField, data₂, len₂⟩ := read
      dsimp only at isField data₂ len₂
      rw [data₁, pos₁, start, List.drop_zero, overwrite, List.take_zero, List.nil_append,
        List.take_append_of_le_length atLeast] at isField
      subst isField
      refine .ok ⟨ofBe (clear.take 4), clear, { ses.keys with cipherState := cipherState }, b₂,
        ?_, ?_, ?_, clearLen, data₂.trans data₁, len₂.trans len₁⟩
      · simp only [checkedLength, mode_eq, wireLength, u32]
        congr 2
        omega
      · simp only [openBlock, mode_eq, opened, Option.map_some]
      · exact ofBe_lt (by rw [List.length_take, Nat.min_eq_left atLeast])

/-! ## A receiver in the middle of a packet -/

/-- How the bytes of an incomplete first block are held. -/
def HoldsBlock (readbuf : Option Buffer) (got : Bytes) : Prop :=
  match readbuf with
  | none => got = []
  | some readbuf =>
    readbuf.contents = got ∧ readbuf.pos = readbuf.len ∧ readbuf.data.length = initReadbuf

/-- How the bytes of a packet are held once its length is known: the first block
as it was opened, then the rest as it was read. -/
structure HoldsPacket (start : Receive σ ζ) (keys : KeyContextDirectional σ ζ) (readbuf : Buffer)
    (got : Bytes) (plen : Nat) (head : Bytes) : Prop where
  opened : openBlock start.keys start.recvseq (got.take start.keys.blocksize) =
    some (plen, head, keys)
  accepted : Accepted start.keys plen
  head_length : head.length = start.keys.blocksize
  block : start.keys.blocksize ≤ got.length
  pos : readbuf.pos = got.length
  len : readbuf.len = wireLength start.keys plen
  held : readbuf.data.take got.length = head ++ got.drop start.keys.blocksize

/-- A receiver that began a packet in `start` and has taken `got` from the socket
since, without completing the packet. -/
inductive Reading (start : Receive σ ζ) : Receive σ ζ → Bytes → Prop where
  | block {sock : Socket} {readbuf : Option Buffer} {got : Bytes}
      (incoming : start.sock.incoming = got ++ sock.incoming)
      (partially : got.length < start.keys.blocksize) (holds : HoldsBlock readbuf got) :
      Reading start { start with sock := sock, readbuf := readbuf } got
  | packet {sock : Socket} {readbuf : Buffer} {keys : KeyContextDirectional σ ζ} {got : Bytes}
      {plen : Nat} {head : Bytes}
      (incoming : start.sock.incoming = got ++ sock.incoming)
      (holds : HoldsPacket start keys readbuf got plen head)
      (partially : got.length < readbuf.len) :
      Reading start { start with sock := sock, readbuf := some readbuf, keys := keys } got

variable {got : Bytes}

variable {start : Receive σ ζ}

theorem Reading.incoming_eq (reading : Reading start ses got) :
    start.sock.incoming = got ++ ses.sock.incoming := by
  cases reading <;> assumption

variable {condition : Prop}

theorem returns_growReadbuf {len : Nat} (valid : condition → len ≤ bufMaxSize) :
    Returns condition (fun grown => grown.data.take readbuf.data.length = readbuf.data ∧
      len ≤ grown.data.length) (growReadbuf readbuf len) := by
  rw [growReadbuf]
  split
  case _ larger =>
    refine ⟨fun holds => ?_, fun grown resized => ?_, .guarded trivial⟩
    · rw [bufResize, dif_neg (Nat.not_lt.2 (valid holds))]
      exact ⟨_, rfl⟩
    · obtain ⟨_, data, _, _⟩ := bufResize_eq_ok.1 resized
      rw [data, List.take_of_length_le (Nat.le_of_lt larger), List.length_append,
        List.length_replicate]
      exact ⟨List.take_left, by omega⟩
  case _ fits => exact .ok ⟨List.take_length, Nat.le_of_not_lt fits⟩

/-- Once the first block is there, its length is found and checked. -/
theorem returns_startPacket (start : Receive σ ζ) (sock : Socket) (holds : readbuf.contents = got)
    (complete : got.length = start.keys.blocksize) :
    Returns
      (∃ plen head keys, openBlock start.keys start.recvseq got = some (plen, head, keys) ∧
        Accepted start.keys plen)
      (fun ses => ∃ keys readbuf' plen head,
        ses = { start with sock := sock, readbuf := some readbuf', keys := keys } ∧
          HoldsPacket start keys readbuf' got plen head)
      (startPacket { start with sock := sock, readbuf := some readbuf } readbuf) := by
  have used : readbuf.len = start.keys.blocksize := by
    rw [← Buffer.length_contents, holds, complete]
  rw [Buffer.contents, used] at holds
  refine (returns_bufSetpos fun _ => Nat.zero_le _).bind ?_
  rintro b₁ ⟨_, data₁, len₁, pos₁⟩
  have found := @returns_readLength _ _ { start with sock := sock, readbuf := some readbuf } got b₁
    pos₁ (Nat.le_of_eq (len₁.trans used).symm) (by rw [data₁]; exact holds)
  refine (found.mono ?_ fun _ => id).bind fun read facts => ?_
  · rintro ⟨plen, head, keys, opened, _⟩
    exact Option.isSome_iff_ne_none.1 (opened ▸ rfl)
  obtain ⟨plen, head, keys, b₂, rfl, opened, field, headLen, data₂, len₂⟩ := facts
  dsimp only at opened headLen ⊢
  have accepts : (∃ plen head keys, openBlock start.keys start.recvseq got =
      some (plen, head, keys) ∧ Accepted start.keys plen) → Accepted start.keys plen := by
    rintro ⟨_, _, _, opened', accepted⟩
    cases opened.symm.trans opened'
    exact accepted
  refine (Returns.checked (fun opens => ?_) trivial).bind ?_
  · simp only [not_or, Nat.not_lt, ne_eq, not_not]
    exact ⟨(accepts opens).bounded, (accepts opens).least, (accepts opens).whole⟩
  rintro _ ⟨passed, _⟩
  simp only [not_or, Nat.not_lt, ne_eq, not_not] at passed
  refine (returns_growReadbuf fun opens => Nat.le_trans (accepts opens).bounded (by decide)).bind ?_
  rintro b₃ ⟨kept, roomy⟩
  refine (returns_bufSetlen fun _ => roomy).bind ?_
  rintro b₄ ⟨data₄, len₄⟩
  refine (returns_bufSetpos fun opens => ?_).bind ?_
  · rw [len₄]
    exact (accepts opens).block
  rintro b₅ ⟨inside, data₅, len₅, pos₅⟩
  have sized : start.keys.blocksize ≤ b₂.data.length := by
    rw [← used, ← len₁, ← len₂]
    exact b₂.len_le_size
  have headHeld : b₃.data.take start.keys.blocksize = head := by
    rw [← Nat.min_eq_left sized, ← List.take_take, kept, data₂, ← headLen, overwrite,
      List.take_zero, List.nil_append, List.take_left]
  exact .ok ⟨keys, b₅, plen, head, rfl,
    { opened := by rw [List.take_of_length_le (by omega)]; exact opened
      accepted := ⟨field, passed.1, passed.2.1, passed.2.2, len₄ ▸ inside⟩
      head_length := headLen
      block := by omega
      pos := by rw [pos₅, complete]
      len := by rw [len₅, len₄]
      held := by
        rw [data₅, data₄, complete, headHeld, List.drop_of_length_le (by omega), List.append_nil] }⟩

/-! ## A complete packet -/

/-- The clear packet in a complete packet that decrypts and passes
authentication, with the context afterwards. -/
def authenticate (keys : KeyContextDirectional σ ζ) (seq : Nat) (wire : Bytes) :
    Option (Bytes × KeyContextDirectional σ ζ) :=
  match keys.mode with
  | .aead mode => do
    let (clear, cipherState) ← mode.decrypt seq wire keys.hashsize keys.cipherState
    some (clear, { keys with cipherState := cipherState })
  | .stream mode => do
    let (head, middle) ← mode.decrypt (wire.take keys.blocksize) keys.cipherState
    let (tail, cipherState) ←
      mode.decrypt ((wire.take (wire.length - keys.hashsize)).drop keys.blocksize) middle
    let mac ← macOf keys seq (head ++ tail)
    if mac.take keys.hashsize = wire.drop (wire.length - keys.hashsize) then
      some (head ++ tail, { keys with cipherState := cipherState })
    else none

variable {plen : Nat} {keys : KeyContextDirectional σ ζ}

/-- In an accepted length nothing wrapped, provided the packet has room for its
MAC. -/
theorem Accepted.exact (accepted : Accepted keys plen)
    (mac : keys.hashsize ≤ wireLength keys plen) :
    wireLength keys plen = 4 + plen + keys.hashsize := by
  obtain ⟨field, -, least, whole, -⟩ := accepted
  have hashsize := keys.hashsize_le
  simp only [maxMacLen] at hashsize
  simp only [wireLength, checkedLength, u32] at mac least whole ⊢
  cases mode_eq : keys.mode <;> simp only [mode_eq] at least whole <;>
    rcases keys.blocksize_cases with size | size <;> rw [size] at least whole <;> omega

variable {keys' : KeyContextDirectional σ ζ} {seq : Nat}

variable {head : Bytes}

theorem openBlock_aead {mode : AeadMode σ} (mode_eq : keys.mode = .aead mode)
    (opened : openBlock keys seq block = some (plen, head, keys')) :
    mode.getlength seq block keys.cipherState = some plen ∧ head = block ∧ keys' = keys := by
  simp only [openBlock, mode_eq, Option.map_eq_some_iff, Prod.mk.injEq] at opened
  obtain ⟨_, found, rfl, rfl, rfl⟩ := opened
  exact ⟨found, rfl, rfl⟩

theorem openBlock_stream {mode : StreamMode σ} (mode_eq : keys.mode = .stream mode)
    (opened : openBlock keys seq block = some (plen, head, keys')) :
    ∃ middle, mode.decrypt block keys.cipherState = some (head, middle) ∧
      plen = ofBe (head.take 4) ∧ keys' = { keys with cipherState := middle } := by
  simp only [openBlock, mode_eq, Option.map_eq_some_iff, Prod.mk.injEq] at opened
  obtain ⟨⟨_, middle⟩, decrypted, rfl, rfl, rfl⟩ := opened
  exact ⟨middle, decrypted, rfl, by simp only [mode_eq]⟩

/-- Opening the first block leaves the sizes of the context. -/
theorem openBlock_sizes (opened : openBlock keys seq block = some (plen, head, keys')) :
    keys'.blocksize = keys.blocksize ∧ keys'.hashsize = keys.hashsize := by
  cases mode_eq : keys.mode with
  | aead mode =>
    rw [(openBlock_aead mode_eq opened).2.2]
    exact ⟨rfl, rfl⟩
  | stream mode =>
    obtain ⟨_, -, -, rfl⟩ := openBlock_stream mode_eq opened
    exact ⟨rfl, rfl⟩

variable {total mac : Nat}

/-- A chain of 32-bit differences that ends small enough for the buffer functions
did not borrow anywhere. -/
theorem le_of_sub32_sub32_le {front : Nat} (valid : total ≤ bufMaxSize) (macLe : mac ≤ maxMacLen)
    (frontLe : front ≤ 16) (small : sub32 (sub32 total mac) front ≤ bufMaxIncr) :
    mac + front ≤ total := by
  simp only [sub32, u32, bufMaxSize, bufMaxIncr, maxMacLen] at *
  omega

theorem sub32_sub32_of_le {front : Nat} (valid : total ≤ bufMaxSize) (room : mac + front ≤ total) :
    sub32 (sub32 total mac) front = total - mac - front := by
  simp only [sub32, u32, bufMaxSize] at *
  omega

/-- The MAC check on a decrypted packet compares the packet's last bytes with the
MAC of the rest. -/
theorem returns_checkmac {n : Nat} (front : n + ses.keys.hashsize = readbuf.len) :
    Returns (macOf ses.keys ses.recvseq (readbuf.data.take n) ≠ none)
      (fun same => ∃ full, macOf ses.keys ses.recvseq (readbuf.data.take n) = some full ∧
        (same = true ↔ full.take ses.keys.hashsize = (readbuf.data.drop n).take ses.keys.hashsize))
      (checkmac ses readbuf) := by
  have allocated := readbuf.len_le_size
  have valid := readbuf.len_le_max
  have exact : sub32 readbuf.len ses.keys.hashsize = n := by
    rw [sub32_of_le (Nat.lt_of_le_of_lt valid (by decide)) (by omega)]
    omega
  simp only [checkmac, exact]
  refine (returns_bufSetpos fun _ => Nat.zero_le _).bind ?_
  rintro b₁ ⟨_, data₁, len₁, _⟩
  rw [← data₁]
  refine (returns_makeMac (by omega)).bind ?_
  rintro ⟨mac, b₂⟩ ⟨full, hashed, isMac, data₂, len₂⟩
  dsimp only at isMac data₂ len₂ ⊢
  refine (returns_bufSetpos fun _ => by omega).bind ?_
  rintro b₃ ⟨_, data₃, len₃, pos₃⟩
  refine (returns_bufGetptr fun _ => ⟨Nat.le_trans (by omega) valid, by omega⟩).bind ?_
  rintro ptr ⟨_, isPtr⟩
  refine (returns_peek (by rw [data₃, data₂, data₁]; omega)).bind fun received same => ?_
  refine .ok ⟨full, hashed, ?_⟩
  rw [decide_eq_true_eq, same, isMac, isPtr, pos₃, data₃, data₂]

namespace HoldsPacket

variable {start : Receive σ ζ} {keys : KeyContextDirectional σ ζ} {readbuf : Buffer}
  {wire head tail : Bytes} {plen : Nat}

/-- What follows the first block in the buffer is what followed it on the wire. -/
theorem rest_eq (holds : HoldsPacket start keys readbuf wire plen head) (mac : Nat) :
    (readbuf.data.drop start.keys.blocksize).take (wire.length - mac - start.keys.blocksize) =
      (wire.take (wire.length - mac)).drop start.keys.blocksize := by
  have rest : (readbuf.data.drop start.keys.blocksize).take
      (wire.length - start.keys.blocksize) = wire.drop start.keys.blocksize := by
    rw [← List.drop_take, holds.held, List.drop_left' holds.head_length]
  rw [List.drop_take, ← rest, List.take_take, Nat.min_eq_left (by omega)]

/-- After the rest was decrypted in place, the clear packet stands before the MAC. -/
theorem clear_eq (holds : HoldsPacket start keys readbuf wire plen head)
    (inside : start.keys.blocksize + tail.length ≤ readbuf.data.length) :
    (overwrite readbuf.data start.keys.blocksize tail).take
      (start.keys.blocksize + tail.length) = head ++ tail := by
  have first : readbuf.data.take start.keys.blocksize = head := by
    rw [← Nat.min_eq_left holds.block, ← List.take_take, holds.held,
      List.take_left' holds.head_length]
  rw [take_overwrite_end inside, first]

/-- Decrypting in place leaves the MAC as it was on the wire. -/
theorem mac_eq (holds : HoldsPacket start keys readbuf wire plen head) (macLe : mac ≤ wire.length)
    (inside : start.keys.blocksize + tail.length ≤ readbuf.data.length)
    (tailLen : start.keys.blocksize + tail.length = wire.length - mac) :
    ((overwrite readbuf.data start.keys.blocksize tail).drop (wire.length - mac)).take mac =
      wire.drop (wire.length - mac) := by
  have stored : (readbuf.data.take start.keys.blocksize ++ tail).length = wire.length - mac := by
    rw [List.length_append, List.length_take]
    omega
  have dropped : (readbuf.data.take wire.length).drop (wire.length - mac) =
      wire.drop (wire.length - mac) := by
    rw [holds.held, List.drop_append, holds.head_length, List.drop_drop,
      List.drop_of_length_le (by rw [holds.head_length]; omega), List.nil_append]
    congr 1
    omega
  rw [overwrite, List.drop_left' stored, tailLen, ← dropped, List.drop_take, Nat.sub_sub_self macLe]

/-- Bytes stored at the position continue the packet. -/
theorem append (holds : HoldsPacket start keys readbuf wire plen head) {readbuf' : Buffer}
    {bytes : Bytes} (data : readbuf'.data = overwrite readbuf.data readbuf.pos bytes)
    (len : readbuf'.len = readbuf.len) (pos : readbuf'.pos = readbuf.pos + bytes.length)
    (inside : readbuf.pos + bytes.length ≤ readbuf.data.length) :
    HoldsPacket start keys readbuf' (wire ++ bytes) plen head where
  opened := by
    rw [List.take_append_of_le_length holds.block]
    exact holds.opened
  accepted := holds.accepted
  head_length := holds.head_length
  block := by
    rw [List.length_append]
    exact Nat.le_add_right_of_le holds.block
  pos := by rw [pos, holds.pos, List.length_append]
  len := by rw [len, holds.len]
  held := by
    rw [holds.pos] at inside data
    rw [data, List.length_append, take_overwrite_end inside, holds.held,
      List.drop_append_of_le_length holds.block, List.append_assoc]

end HoldsPacket

/-- A complete packet is decrypted if it is authentic and has room for a block and
its MAC, and then its lengths are exact. -/
theorem returns_openReadbuf (ses : Receive σ ζ) {wire head : Bytes}
    (holds : HoldsPacket start keys readbuf wire plen head) (complete : wire.length = readbuf.len)
    (keys_eq : ses.keys = keys) (seq_eq : ses.recvseq = start.recvseq) :
    Returns (start.keys.blocksize + start.keys.hashsize ≤ wire.length ∧
        authenticate start.keys start.recvseq wire ≠ none)
      (fun opened => ∃ clear, authenticate start.keys start.recvseq wire =
          some (clear, opened.1) ∧
        wire.length = 4 + plen + start.keys.hashsize ∧ clear.length = 4 + plen ∧
        opened.2.data.take clear.length = clear ∧ opened.2.len = wire.length)
      (openReadbuf ses readbuf) := by
  have valid := readbuf.len_le_max
  have allocated := readbuf.len_le_size
  have macLe := start.keys.hashsize_le
  have sums : start.keys.hashsize ≤ wire.length →
      wire.length = 4 + plen + start.keys.hashsize := by
    intro room
    rw [complete, holds.len, holds.accepted.exact (by rwa [← holds.len, ← complete])]
  cases mode_eq : start.keys.mode with
  | aead mode =>
    obtain ⟨-, rfl, rfl⟩ := openBlock_aead mode_eq holds.opened
    have whole : readbuf.data.take wire.length = wire := by
      rw [holds.held, List.take_append_drop]
    simp only [openReadbuf, keys_eq, seq_eq, mode_eq]
    refine (returns_bufSetpos fun _ => Nat.zero_le _).bind ?_
    rintro b₁ ⟨_, data₁, len₁, pos₁⟩
    rw [len₁, pos₁]
    have fits : start.keys.hashsize ≤ wire.length →
        sub32 (sub32 readbuf.len start.keys.hashsize) 0 = wire.length - start.keys.hashsize ∧
        u32 (wire.length - start.keys.hashsize + start.keys.hashsize) = wire.length := by
      intro room
      rw [sub32_sub32_of_le valid (by omega), Nat.sub_add_cancel room, complete]
      exact ⟨rfl, u32_of_lt (Nat.lt_of_le_of_lt valid (by decide))⟩
    refine (returns_bufGetptr fun authentic => ?_).bind ?_
    · obtain ⟨len_eq, total⟩ := fits (by omega)
      rw [len_eq, total, pos₁, len₁]
      exact ⟨Nat.le_trans (by omega) valid, by omega⟩
    rintro src ⟨_, isSrc⟩
    refine (returns_bufGetwriteptr fun authentic => ?_).bind ?_
    · rw [(fits (by omega)).1, pos₁, data₁]
      exact ⟨Nat.le_trans (by omega) valid, by omega⟩
    rintro dst ⟨⟨small, _⟩, isDst⟩
    have room := le_of_sub32_sub32_le valid macLe (Nat.zero_le _) small
    obtain ⟨len_eq, total⟩ := fits (by omega)
    rw [len_eq, total]
    refine (returns_peek (by rw [data₁]; omega)).bind fun ct isCt => ?_
    rw [isSrc, pos₁, List.drop_zero, data₁, whole] at isCt
    subst isCt
    cases decrypted : mode.decrypt start.recvseq ct start.keys.hashsize start.keys.cipherState with
    | none =>
      refine .error (fun authentic => authentic.2 ?_) trivial
      simp only [authenticate, mode_eq, decrypted]
      rfl
    | some result =>
      obtain ⟨clear, cipherState⟩ := result
      have clearLen := mode.decrypt_length decrypted
      rw [pos₁] at isDst
      subst isDst
      refine (returns_poke (by rw [data₁]; omega)).bind ?_
      rintro b₂ ⟨data₂, len₂, _⟩
      refine (returns_bufIncrpos fun _ => ⟨Nat.le_trans (by omega) valid, by omega⟩).bind ?_
      rintro b₃ ⟨data₃, len₃, _⟩
      refine .ok ⟨clear, ?_, sums (by omega), ?_, ?_, len₃.trans (by omega)⟩
      · simp only [authenticate, mode_eq, decrypted, Option.bind_eq_bind, Option.bind_some]
      · have := sums (by omega)
        omega
      · rw [data₃, data₂, overwrite, List.take_zero, List.nil_append, List.take_left]
  | stream mode =>
    obtain ⟨middle, firstBlock, -, rfl⟩ := openBlock_stream mode_eq holds.opened
    have headLen := holds.head_length
    have block := holds.block
    simp only [openReadbuf, keys_eq, mode_eq]
    refine (returns_bufSetpos fun _ => by omega).bind ?_
    rintro b₁ ⟨_, data₁, len₁, pos₁⟩
    rw [len₁, pos₁]
    refine (returns_bufGetptr fun authentic => ?_).bind ?_
    · rw [sub32_sub32_of_le valid (by omega), pos₁, len₁]
      exact ⟨Nat.le_trans (by omega) valid, by omega⟩
    rintro src ⟨⟨small, _⟩, isSrc⟩
    have room := le_of_sub32_sub32_le valid macLe (blocksize_le _) small
    rw [sub32_sub32_of_le valid room] at small ⊢
    refine (returns_bufGetwriteptr fun _ => ⟨small, by rw [pos₁, data₁]; omega⟩).bind ?_
    rintro dst ⟨_, isDst⟩
    refine (returns_peek (by rw [isSrc, pos₁, data₁]; omega)).bind fun ct isCt => ?_
    rw [isSrc, pos₁, data₁, ← complete, holds.rest_eq] at isCt
    subst isCt
    cases decrypted : mode.decrypt
        ((wire.take (wire.length - start.keys.hashsize)).drop start.keys.blocksize) middle with
    | none =>
      refine .error (fun authentic => authentic.2 ?_) trivial
      simp only [authenticate, mode_eq, firstBlock, Option.bind_eq_bind, Option.bind_some,
        decrypted]
      rfl
    | some result =>
      obtain ⟨tail, cipherState⟩ := result
      have tailLen : start.keys.blocksize + tail.length =
          wire.length - start.keys.hashsize := by
        rw [mode.decrypt_length decrypted, List.length_drop, List.length_take]
        omega
      have inside : start.keys.blocksize + tail.length ≤ readbuf.data.length := by omega
      rw [pos₁] at isDst
      subst isDst
      refine (returns_poke (by rwa [data₁])).bind ?_
      rintro b₂ ⟨data₂, len₂, pos₂⟩
      refine (returns_bufIncrpos fun _ => ⟨small, by omega⟩).bind ?_
      rintro b₃ ⟨data₃, len₃, _⟩
      rw [data₁] at data₂
      have clear_eq := holds.clear_eq inside
      have mac_eq := holds.mac_eq (by omega) inside tailLen
      rw [tailLen, ← data₂, ← data₃] at clear_eq
      rw [← data₂, ← data₃] at mac_eq
      have checked := @returns_checkmac _ _ ses b₃ (wire.length - start.keys.hashsize)
        (by rw [keys_eq]; dsimp only; omega)
      simp only [macOf, clear_eq, keys_eq, seq_eq, mac_eq] at checked
      refine (checked.mono ?_ fun _ => id).bind ?_
      · rintro ⟨_, authentic⟩ unhashed
        apply authentic
        simp only [authenticate, mode_eq, firstBlock, macOf, decrypted, Option.bind_eq_bind,
          Option.bind_some, unhashed]
        rfl
      rintro same ⟨full, hashed, iff⟩
      cases same with
      | false =>
        refine .error (fun authentic => authentic.2 ?_) trivial
        simp only [authenticate, mode_eq, firstBlock, macOf, decrypted, Option.bind_eq_bind,
          Option.bind_some, hashed,
          if_neg (fun equal => Bool.false_ne_true (iff.2 equal))]
      | true =>
        refine .ok ⟨head ++ tail, ?_, sums (by omega), ?_, ?_, len₃.trans (by omega)⟩
        · simp only [authenticate, mode_eq, firstBlock, macOf, decrypted,
            Option.bind_eq_bind, Option.bind_some, hashed, iff.1 rfl, if_true]
        · have := sums (by omega)
          rw [List.length_append]
          omega
        · rw [List.length_append, headLen, tailLen, clear_eq]

/-! ## The payload -/

/-- The bytes handed to `process_packet`: the payload from its beginning on. -/
def Receive.handedOver (ses : Receive σ ζ) : Option Bytes :=
  ses.payload.map fun payload => payload.contents.drop ses.payloadBeginning

/-- A receiver that began in `start` has completed the packet `wire`.  All sums are
exact: the bytes read are the length field, as many bytes as it says and the MAC.
`clear` are the authenticated bytes, and `body` is the part of them between
padding length and padding.  It is handed over as it is, or inflated. -/
structure Delivered (start ses : Receive σ ζ) (wire clear body : Bytes) (plen : Nat)
    (padlen : UInt8) (keys : KeyContextDirectional σ ζ) : Prop where
  taken : start.sock.incoming = wire ++ ses.sock.incoming
  field : (openBlock start.keys start.recvseq (wire.take start.keys.blocksize)).map (·.1) =
    some plen
  block : start.keys.blocksize ≤ wire.length
  total : 4 + plen + start.keys.hashsize = wire.length
  bounded : wire.length ≤ recvMaxPacketLen
  authentic : authenticate start.keys start.recvseq wire = some (clear, keys)
  clear_length : clear.length = 4 + plen
  padding : clear[4]? = some padlen
  nonempty : 1 ≤ body.length
  body_length : body.length + padlen.toNat + 1 = plen
  inside : body = (clear.drop 5).take body.length
  handed : if start.compress then
      ∃ out zstream, keys.zlib.inflate body (recvMaxPayloadLen + 1) keys.zstream =
          some (out, 0, zstream) ∧ ses.handedOver = some out ∧
        ses.keys = { keys with zstream := zstream }
    else ses.handedOver = some body ∧ ses.keys = keys
  recvseq : ses.recvseq = u32 (start.recvseq + 1)
  readbuf : ses.readbuf = none

theorem Delivered.payload_isSome {wire clear body : Bytes} {padlen : UInt8}
    (delivered : Delivered start ses wire clear body plen padlen keys) : ses.payload.isSome := by
  have some_handed : ses.handedOver.isSome := by
    have handed := delivered.handed
    split at handed
    · obtain ⟨_, _, _, eq, _⟩ := handed
      rw [eq]
      rfl
    · rw [handed.1]
      rfl
  rwa [Receive.handedOver, Option.isSome_map] at some_handed

/-- The payload length is exact when everything taken off is there. -/
theorem payloadLength_of_le {padlen : Nat} (bounded : total ≤ bufMaxSize)
    (enough : padlen + 5 + mac ≤ total) :
    payloadLength total padlen mac = total - padlen - 5 - mac := by
  simp only [payloadLength, sub32, u32, bufMaxSize] at *
  omega

/-- A payload length that passes its check was computed without a borrow. -/
theorem payloadLength_exact {padlen : Nat} (bounded : total ≤ bufMaxSize) (padLe : padlen < 256)
    (macLe : mac ≤ maxMacLen)
    (small : payloadLength total padlen mac ≤ recvMaxPayloadLen + zlibCompressExpansion) :
    padlen + 5 + mac ≤ total := by
  simp only [payloadLength, sub32, u32, bufMaxSize, maxMacLen, recvMaxPayloadLen,
    zlibCompressExpansion] at *
  omega

theorem returns_bufDecompress {buf : Buffer} {len : Nat} {body : Bytes}
    (used : condition → buf.pos + len ≤ buf.len) (isBody : (buf.data.drop buf.pos).take len = body)
    (inflates : condition → ∃ out zstream, out.length ≤ recvMaxPayloadLen ∧
      keys.zlib.inflate body (recvMaxPayloadLen + 1) keys.zstream = some (out, 0, zstream)) :
    Returns condition
      (fun result => ∃ out zstream, keys.zlib.inflate body (recvMaxPayloadLen + 1) keys.zstream =
          some (out, 0, zstream) ∧
        result.1 = { keys with zstream := zstream } ∧ result.2.contents = out)
      (bufDecompress keys buf len) := by
  have allocated := buf.len_le_size
  have valid := buf.len_le_max
  refine (returns_bufNew fun _ => by decide).bind fun ret new => ?_
  have room : ret.data.length = recvMaxPayloadLen + 1 := by rw [new.1, List.length_replicate]
  refine (returns_bufGetptr fun holds => ?_).bind ?_
  · have := used holds
    exact ⟨Nat.le_trans (by omega) valid, this⟩
  rintro ptr ⟨⟨_, inside⟩, isPtr⟩
  refine (returns_peek (by omega)).bind fun input isInput => ?_
  rw [isPtr, isBody] at isInput
  rw [isInput, room]
  cases inflated : keys.zlib.inflate body (recvMaxPayloadLen + 1) keys.zstream with
  | none =>
    refine .error (fun holds => ?_) trivial
    obtain ⟨_, _, _, same⟩ := inflates holds
    cases inflated.symm.trans same
  | some result =>
    obtain ⟨out, left, zstream⟩ := result
    have small : condition → left = 0 ∧ out.length ≤ recvMaxPayloadLen := by
      intro holds
      obtain ⟨_, _, small, same⟩ := inflates holds
      cases inflated.symm.trans same
      exact ⟨rfl, small⟩
    have fits : 0 + out.length ≤ ret.data.length := by
      rw [room, Nat.zero_add]
      exact keys.zlib.inflate_length inflated
    refine (returns_poke fits).bind ?_
    rintro b₁ ⟨data₁, _, _⟩
    have sized : out.length ≤ b₁.data.length := by
      rw [data₁, length_overwrite fits]
      omega
    refine (returns_bufSetlen fun _ => sized).bind ?_
    rintro b₂ ⟨data₂, len₂⟩
    split
    case _ refused =>
      refine .error (fun holds => ?_) trivial
      have := small holds
      omega
    case _ accepted =>
      have none_left : left = 0 := by omega
      subst none_left
      refine .ok ⟨out, zstream, rfl, rfl, ?_⟩
      rw [Buffer.contents, len₂, data₂, data₁, overwrite, List.take_zero, List.nil_append,
        List.take_left]

/-! ## One call, and any number of calls -/

/-- What a call of `read_packet` can come to, for a receiver that had taken `got`
from the socket before it. -/
def Advances (start : Receive σ ζ) (sock : Socket) (got : Bytes) (ses' : Receive σ ζ) : Prop :=
  (∃ more, Reading start ses' (got ++ more) ∧ sock.Progress ses'.sock more.length) ∨
    ∃ wire clear body plen padlen keys, Delivered start ses' wire clear body plen padlen keys

theorem returns_readbufOrNew {readbuf : Option Buffer} (holds : HoldsBlock readbuf got) :
    Returns condition (fun b => b.contents = got ∧ b.pos = b.len ∧ b.data.length = initReadbuf)
      (readbufOrNew readbuf) := by
  cases readbuf with
  | some readbuf => exact .ok holds
  | none =>
    refine (returns_bufNew fun _ => by decide).mono id ?_
    rintro b ⟨data, len, pos⟩
    refine ⟨?_, by rw [pos, len], by rw [data, List.length_replicate]⟩
    rw [Buffer.contents, len, List.take_zero]
    exact holds.symm

theorem inFirstBlock_packet {sock : Socket} (holds : HoldsPacket start keys readbuf got plen head) :
    Receive.inFirstBlock { start with sock := sock, readbuf := some readbuf, keys := keys } =
      false := by
  refine decide_eq_false ?_
  rw [(openBlock_sizes holds.opened).1, holds.len]
  exact Nat.not_lt.2 holds.accepted.block

theorem inFirstBlock_block {sock : Socket} {readbuf : Option Buffer}
    (within : got.length < start.keys.blocksize) (holds : HoldsBlock readbuf got) :
    Receive.inFirstBlock { start with sock := sock, readbuf := readbuf } = true := by
  cases readbuf with
  | none => rfl
  | some readbuf =>
    refine decide_eq_true ?_
    rw [← Buffer.length_contents, holds.1]
    exact within

theorem Reading.payload_eq (reading : Reading start ses got) :
    ses.payload = start.payload := by
  cases reading <;> rfl

/-- At the beginning of a packet nothing of it has been taken. -/
theorem Reading.begin (idle : start.readbuf = none) :
    Reading start start [] := by
  have same : { start with sock := start.sock, readbuf := none } = start := by rw [← idle]
  rw [← same]
  refine .block rfl ?_ rfl
  rcases start.keys.blocksize_cases with size | size <;> simp [size]

theorem readRounds_of_payload (there : ses.payload.isSome) (rounds : Nat) :
    readRounds rounds ses = .ok ses := by
  cases rounds with
  | zero => rfl
  | succ rounds =>
    simp only [readRounds, there, if_true]
    rfl

end Dropbear.Packet
