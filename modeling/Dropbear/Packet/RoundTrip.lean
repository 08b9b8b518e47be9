/-
# A packet that was sent is received

A non-empty payload of permitted size always goes onto the write queue, and the
context that matches the sender's opens the queued packet to the frame that was
laid out.  Together with the receiver's half this is the round trip: what is
given to `encrypt_packet` on one side comes out of `read_packet` on the other.
-/

import Dropbear.Packet.Opening

namespace Dropbear.Packet

open Program

variable {σ ζ : Type}

/-! ## Sending -/

section Sending

variable {cipher : σ → σ → Prop} {stream : ζ → ζ → Prop}
  {sending receiving : KeyContextDirectional σ ζ}

theorem CipherMatches.isAead (matched : CipherMatches cipher sending receiving) :
    receiving.mode.isAead = sending.mode.isAead := by
  have modes := matched.mode
  cases sending_eq : sending.mode <;> cases receiving_eq : receiving.mode <;>
    simp only [sending_eq, receiving_eq] at modes <;> rfl

theorem CipherMatches.macOf (matched : CipherMatches cipher sending receiving) (seq : Nat)
    (clear : Bytes) :
    Packet.macOf receiving seq clear = Packet.macOf sending seq clear ∧
      ∃ full, Packet.macOf sending seq clear = some full ∧
        (full.take sending.hashsize).length = sending.hashsize := by
  rw [Packet.macOf, Packet.macOf, matched.hashsize, matched.hmac]
  refine ⟨rfl, ?_⟩
  split
  case _ zero => exact ⟨[], rfl, by rw [zero, List.take_nil, List.length_nil]⟩
  case _ =>
    obtain ⟨full, hashed⟩ := matched.hmac_total (be32 seq ++ clear)
    refine ⟨full, hashed, ?_⟩
    rw [List.length_take, Nat.min_eq_left (sending.hmac_length hashed)]

/-- The matching receiver opens the protected form of a frame. -/
theorem CipherMatches.authenticate (matched : CipherMatches cipher sending receiving) (seq : Nat)
    {clear : Bytes}
    (whole : sending.blocksize ∣ clear.length - (if sending.mode.isAead then 4 else 0))
    (enough : sending.blocksize + (if sending.mode.isAead then 4 else 0) ≤ clear.length) :
    ∃ out st rt, protectedForm sending seq clear = some (out, st) ∧
      (∃ head keys, openBlock receiving seq (out.take receiving.blocksize) =
        some (ofBe (clear.take 4), head, keys)) ∧
      Packet.authenticate receiving seq out = some (clear, { receiving with cipherState := rt }) ∧
      out.length = clear.length + sending.hashsize ∧ cipher st rt := by
  have modes := matched.mode
  cases mode_eq : sending.mode with
  | aead mode =>
    simp only [mode_eq, CryptMode.isAead, if_true] at whole enough
    cases mode_eq' : receiving.mode with
    | stream other =>
      rw [mode_eq, mode_eq'] at modes
      exact modes.elim
    | aead other =>
      rw [mode_eq, mode_eq'] at modes
      obtain ⟨out, st, rt, encrypted, found, decrypted, related⟩ :=
        modes.recovers seq matched.cipherState whole (by omega)
      refine ⟨out, st, rt, ?_, ?_, ?_, mode.encrypt_length encrypted, related⟩
      · rw [protectedForm, mode_eq]
        exact encrypted
      · rw [matched.blocksize]
        simp only [openBlock, mode_eq', found, Option.map_some]
        exact ⟨_, _, rfl⟩
      · simp only [Packet.authenticate, mode_eq', matched.hashsize, decrypted,
          Option.bind_eq_bind, Option.bind_some]
  | stream mode =>
    simp only [mode_eq, CryptMode.isAead, Bool.false_eq_true, if_false, Nat.sub_zero,
      Nat.add_zero] at whole enough
    cases mode_eq' : receiving.mode with
    | aead other =>
      rw [mode_eq, mode_eq'] at modes
      exact modes.elim
    | stream other =>
      rw [mode_eq, mode_eq'] at modes
      obtain ⟨ct, st, middle, rt, encrypted, first, rest, related⟩ :=
        modes.recovers matched.cipherState whole enough
      obtain ⟨mac_eq, full, hashed, macLen⟩ := matched.macOf seq clear
      rw [hashed] at mac_eq
      have ctLen := mode.encrypt_length encrypted
      have block : (ct ++ full.take sending.hashsize).take sending.blocksize =
          ct.take sending.blocksize :=
        List.take_append_of_le_length (by omega)
      have four : (clear.take sending.blocksize).take 4 = clear.take 4 := by
        have := sending.blocksize_cases
        rw [List.take_take, Nat.min_eq_left (by omega)]
      have size : (ct ++ full.take sending.hashsize).length - sending.hashsize =
          ct.length := by
        rw [List.length_append, macLen, Nat.add_sub_cancel]
      refine ⟨ct ++ full.take sending.hashsize, st, rt, ?_, ?_, ?_, ?_, related⟩
      · simp only [protectedForm, mode_eq, hashed, encrypted, Option.bind_eq_bind, Option.bind_some]
      · rw [matched.blocksize, block]
        simp only [openBlock, mode_eq', first, Option.map_some, four]
        exact ⟨_, _, rfl⟩
      · simp only [Packet.authenticate, mode_eq', matched.blocksize, matched.hashsize, block,
          first, size, Option.bind_eq_bind, Option.bind_some, List.take_left, rest,
          List.take_append_drop, mac_eq, List.drop_left, if_true]
      · rw [List.length_append, macLen, ctLen]

/-- The payload goes into the frame as it is, or compressed such that the matching
receiver inflates it to the same payload. -/
theorem Matches.putPayload (matched : Matches cipher stream sending receiving)
    {ses : Transmit σ ζ} {writebuf writepayload : Buffer} (keys_eq : ses.keys = sending)
    (start : writepayload.pos = 0) (nonempty : 0 < writepayload.len)
    (small : writepayload.len ≤ transMaxPayloadLen) (atEnd : writebuf.pos = writebuf.len)
    (room : writebuf.len + (writepayload.len + zlibCompressExpansion) ≤ writebuf.data.length) :
    ∃ writebuf' body zst zrt, putPayload ses writebuf writepayload =
        .ok ({ sending with zstream := zst }, writebuf') ∧
      writebuf'.contents = writebuf.contents ++ body ∧
      writebuf'.data.length = writebuf.data.length ∧
      0 < body.length ∧ body.length ≤ writepayload.len + zlibCompressExpansion ∧
      stream zst zrt ∧
      if ses.compress then receiving.zlib.inflate body (recvMaxPayloadLen + 1) receiving.zstream =
        some (writepayload.contents, 0, zrt)
      else body = writepayload.contents ∧ zrt = receiving.zstream := by
  have positive : 0 < writepayload.contents.length := by rwa [Buffer.length_contents]
  have fits : writepayload.contents.length ≤ transMaxPayloadLen := by rwa [Buffer.length_contents]
  obtain ⟨out, zst, zrt, deflated, outPos, outLe, inflated, related⟩ :=
    matched.zlib.recovers (writebuf.data.length - writebuf.len) matched.zstream
      positive fits (by rw [Buffer.length_contents]; omega)
  rw [Buffer.length_contents] at positive outLe
  rw [← keys_eq] at deflated
  have put : Returns _ _ (Packet.putPayload ses writebuf writepayload) := returns_putPayload atEnd
  obtain ⟨⟨keys, writebuf'⟩, done, body, zstream, made, isKeys, contents, sized⟩ :=
    put.exists_ok ⟨start, room, fun _ => ⟨out, zst, deflated⟩⟩
  dsimp only at isKeys contents sized
  rw [isKeys, keys_eq] at done
  cases compressing : ses.compress with
  | false =>
    rw [compressing, if_neg nofun] at made
    obtain ⟨rfl, rfl⟩ := made
    refine ⟨writebuf', _, _, receiving.zstream, done, contents, sized, ?_, ?_,
      keys_eq ▸ matched.zstream, rfl, rfl⟩
    · rwa [Buffer.length_contents]
    · rw [Buffer.length_contents]
      exact Nat.le_add_right _ _
  | true =>
    rw [compressing, if_pos rfl] at made
    cases deflated.symm.trans made
    exact ⟨writebuf', out, zst, zrt, done, contents, sized, outPos, outLe, related, inflated⟩

/-- A payload of permitted size goes onto the write queue as a packet that the
matching receiver opens, and the two contexts still match behind it. -/
theorem Matches.enqueuePacket {sender : Transmit σ ζ} {receiver : Receive σ ζ}
    (matched : Matches cipher stream sender.keys receiver.keys)
    (sequence : receiver.recvseq = sender.transseq)
    (agreed : receiver.compress = sender.compress) (random : Nat → UInt8) {writepayload : Buffer}
    (start : writepayload.pos = 0) (nonempty : 0 < writepayload.len)
    (small : writepayload.len ≤ transMaxPayloadLen) :
    ∃ sender' writebuf body padding keys zstream,
      Packet.enqueuePacket random sender writepayload = .ok sender' ∧
      sender'.writequeue = sender.writequeue ++ [writebuf] ∧
      sender'.transseq = u32 (sender.transseq + 1) ∧
      Opens receiver writebuf.contents body padding keys ∧
      Matches cipher stream sender'.keys { keys with zstream := zstream } ∧
      if sender.compress then keys.zlib.inflate body (recvMaxPayloadLen + 1) keys.zstream =
        some (writepayload.contents, 0, zstream)
      else body = writepayload.contents ∧ zstream = keys.zstream := by
  have hashsize := sender.keys.hashsize_le
  have blocksize := blocksize_le sender.keys
  simp only [maxMacLen, transMaxPayloadLen] at hashsize small
  obtain ⟨b₁, new, data₁, len₁, pos₁⟩ :=
    exists_bufNew (encryptBufSize sender.keys writepayload.len) (by
      simp only [encryptBufSize, minPacketLen, zlibCompressExpansion, bufMaxSize]
      omega)
  have size₁ : b₁.data.length = writepayload.len + 5 + max minPacketLen sender.keys.blocksize + 3 +
      sender.keys.hashsize + zlibCompressExpansion + 1 := by
    rw [data₁, List.length_replicate, encryptBufSize]
  obtain ⟨b₂, setlen, data₂, len₂, pos₂⟩ := exists_bufSetlen b₁ 5 (by omega)
  obtain ⟨b₃, setpos, data₃, len₃, pos₃⟩ := exists_bufSetpos b₂ 5 (by omega)
  have size₃ : b₃.data.length = b₁.data.length := by rw [data₃, data₂]
  obtain ⟨b₄, body, zst, zrt, put, contents₄, size₄, bodyPos, bodyLe, zrelated, payload⟩ :=
    matched.putPayload rfl start nonempty (by simpa [transMaxPayloadLen] using small)
      (show b₃.pos = b₃.len by omega) (by omega)
  have len₄ : b₄.len = 5 + body.length := by
    rw [← Buffer.length_contents, contents₄, List.length_append, Buffer.length_contents, len₃, len₂]
  have putsHeader : Returns _ _ (putHeader random { sender.keys with zstream := zst } b₄) :=
    returns_putHeader random (by omega)
  obtain ⟨b₅, header, padding, contents₅, size₅, padding_eq⟩ := putsHeader.exists_ok ⟨by omega, by
    change b₄.len + (max minPacketLen sender.keys.blocksize + 3) ≤ b₄.data.length
    omega⟩
  rw [contents₄, List.drop_left' (by rw [Buffer.length_contents, len₃, len₂])] at contents₅
  have len₅ : b₅.len = (frame body padding).length := by
    rw [← Buffer.length_contents, contents₅]
  obtain ⟨padLeast, padMost, padWhole, padMin, padEnough⟩ :=
    paddingLength_spec (5 + body.length) sender.keys.mode.isAead sender.keys.blocksize_cases
      (by omega) (by simp only [zlibCompressExpansion] at bodyLe; omega)
  rw [len₄] at padding_eq
  change padding.length = paddingLength sender.keys.blocksize sender.keys.mode.isAead _
    at padding_eq
  rw [← padding_eq, ← length_frame] at padWhole padMin padEnough
  rw [← padding_eq] at padLeast padMost
  have ciphers : CipherMatches cipher { sender.keys with zstream := zst } receiver.keys :=
    { matched with }
  obtain ⟨_, st, rt, form, ⟨head, keys₁, opened⟩, authentic, outLen, crelated⟩ :=
    ciphers.authenticate sender.transseq padWhole padEnough
  have protects : Returns _ _
      (protectWritebuf { sender.keys with zstream := zst } sender.transseq b₅) :=
    returns_protectWritebuf
  rw [contents₅, form] at protects
  obtain ⟨⟨_, b₆⟩, done, _, same, rfl⟩ := protects.exists_ok ⟨Option.some_ne_none _, by
    change b₅.len + sender.keys.hashsize ≤ b₅.data.length
    rw [len₅, length_frame]
    omega⟩
  cases same
  obtain ⟨b₇, rewound, data₇, len₇, -⟩ := exists_bufSetpos b₆ 0 (Nat.zero_le _)
  have contents₇ : b₇.contents = b₆.contents := by
    rw [Buffer.contents, data₇, len₇, Buffer.contents]
  rw [ofBe_frame (by simp only [zlibCompressExpansion, minPacketLen] at *; omega), ← sequence,
    ← contents₇] at opened
  rw [← sequence, ← contents₇] at authentic
  refine
    ⟨{ sender with
        keys := { sender.keys with zstream := zst, cipherState := st }
        datatrans := u32 (sender.datatrans + b₆.len)
        writequeue := sender.writequeue ++ [b₇]
        transseq := u32 (sender.transseq + 1) },
      b₇, body, padding, { receiver.keys with cipherState := rt }, zrt, ?_, rfl, rfl, ?_, ?_, ?_⟩
  · rw [Packet.enqueuePacket, new, Except.ok_bind, setlen, Except.ok_bind, setpos, Except.ok_bind,
      put, Except.ok_bind]
    simp only [header, done, rewound, Except.ok_bind]
    rfl
  · refine
      { block := ⟨head, keys₁, opened⟩
        authentic := authentic
        wire_length := by
          rw [contents₇, outLen, matched.hashsize]
        nonempty := bodyPos
        bounded := by simp only [transMaxPayloadLen]; omega
        padding_least := padLeast
        padding_most := by simp only [minPacketLen] at padMost; omega
        least := padMin
        whole := by rw [matched.blocksize, matched.isAead]; exact padWhole
        enough := by rw [matched.blocksize, matched.isAead]; exact padEnough
        inflates := ?_ }
    intro compressing
    rw [agreed] at compressing
    rw [if_pos compressing] at payload
    refine ⟨writepayload.contents, zrt, ?_, payload⟩
    rw [Buffer.length_contents, recvMaxPayloadLen]
    omega
  · exact { ciphers with
      cipherState := crelated
      zlib := matched.zlib
      zstream := zrelated }
  · exact payload

end Sending

/-! ## The round trip -/

/-- A deferred payload is kept as it is. -/
theorem enqueueReplyPacket_spec (ses : Transmit σ ζ) (writepayload : Buffer) :
    ∃ payload, enqueueReplyPacket ses writepayload =
        .ok { ses with replyQueue := ses.replyQueue ++ [payload] } ∧
      payload.contents = writepayload.contents := by
  obtain ⟨b₁, new, data₁, -, -⟩ := exists_bufNew writepayload.len writepayload.len_le_max
  have size₁ : b₁.data.length = writepayload.len := by rw [data₁, List.length_replicate]
  have inside : 0 + writepayload.contents.length ≤ b₁.data.length := by
    rw [Buffer.length_contents]
    omega
  obtain ⟨b₂, poked, data₂, -, -⟩ := b₁.exists_poke 0 writepayload.contents inside
  have fits : writepayload.len ≤ b₂.data.length := by
    rw [data₂, length_overwrite inside]
    omega
  let copy : Buffer :=
    { b₂ with
      len := writepayload.len
      pos := 0
      pos_le_len := Nat.zero_le _
      len_le_size := fits }
  refine ⟨copy, ?_, ?_⟩
  · simp only [enqueueReplyPacket, bufNewcopy, new, Except.ok_bind, poked, dif_pos fits]
    rfl
  · change b₂.data.take writepayload.len = _
    rw [data₂, ← Buffer.length_contents, overwrite, List.take_zero, List.nil_append, List.take_left]

/-- Whether `encrypt_packet` defers a payload: data is not allowed, and the type in
its first byte has to wait for that. -/
def Transmit.defers (ses : Transmit σ ζ) (payload : Bytes) : Bool :=
  !ses.dataallowed && !packetIsOkayKex (payload.headD 0).toNat

/-- The first byte decides whether a payload is deferred or queued. -/
theorem encryptPacket_eq (random : Nat → UInt8) (ses : Transmit σ ζ) {writepayload : Buffer}
    (nonempty : 0 < writepayload.len) :
    ∃ payload : Buffer, payload.contents = writepayload.contents ∧ payload.pos = 0 ∧
      payload.len = writepayload.len ∧
      encryptPacket random ses writepayload =
        if ses.defers writepayload.contents then enqueueReplyPacket ses payload
        else enqueuePacket random ses payload := by
  obtain ⟨b₁, setpos₁, data₁, len₁, pos₁⟩ := exists_bufSetpos writepayload 0 (Nat.zero_le _)
  obtain ⟨b₂, _, data₂, len₂, pos₂⟩ := exists_bufIncrpos b₁ 1 (by decide) (by omega)
  obtain ⟨type, first⟩ : ∃ type, writepayload.data[0]? = some type := by
    have allocated := writepayload.len_le_size
    exact ⟨_, List.getElem?_eq_getElem (by omega)⟩
  have getbyte : bufGetbyte b₁ = .ok (type, b₂) :=
    bufGetbyte_eq_ok.2 ⟨by omega, by rw [data₁, pos₁, first], data₂, len₂, pos₂⟩
  obtain ⟨b₃, setpos₃, data₃, len₃, pos₃⟩ := exists_bufSetpos b₂ 0 (Nat.zero_le _)
  have head : writepayload.contents.headD 0 = type := by
    rw [List.headD_eq_head?_getD, List.head?_eq_getElem?, Buffer.contents,
      List.getElem?_take_of_lt nonempty, first, Option.getD_some]
  refine ⟨b₃, ?_, pos₃, by rw [len₃, len₂, len₁], ?_⟩
  · rw [Buffer.contents, data₃, len₃, data₂, len₂, data₁, len₁, Buffer.contents]
  · rw [encryptPacket, setpos₁, Except.ok_bind, getbyte, Except.ok_bind, Transmit.defers, head]
    simp only [setpos₃, Except.ok_bind]

/-- Every non-empty payload of permitted size is accepted by `encrypt_packet`.  It
is deferred unchanged, or it goes onto the write queue as one well-formed packet.
A matching receiver that gets the queued bytes, cut into reads in any way and
followed by anything, never exits, and once enough reads have brought bytes it
hands over exactly the payload and still matches the sender. -/
theorem encryptPacket_roundTrip {cipher : σ → σ → Prop} {stream : ζ → ζ → Prop}
    (sender : Transmit σ ζ) (receiver : Receive σ ζ)
    (matched : Matches cipher stream sender.keys receiver.keys)
    (sequence : receiver.recvseq = sender.transseq)
    (agreed : receiver.compress = sender.compress)
    (idle : receiver.readbuf = none) (empty : receiver.payload = none)
    (random : Nat → UInt8) (writepayload : Buffer) (nonempty : 0 < writepayload.len)
    (small : writepayload.len ≤ transMaxPayloadLen) :
    if sender.defers writepayload.contents then
      ∃ payload, encryptPacket random sender writepayload =
          .ok { sender with replyQueue := sender.replyQueue ++ [payload] } ∧
        payload.contents = writepayload.contents
    else
      ∃ sender' writebuf body padding keys,
        encryptPacket random sender writepayload = .ok sender' ∧
        sender'.writequeue = sender.writequeue ++ [writebuf] ∧
        authenticate receiver.keys receiver.recvseq writebuf.contents =
          some (frame body padding, keys) ∧
        writebuf.len = (frame body padding).length + sender.keys.hashsize ∧
        4 ≤ padding.length ∧ padding.length ≤ 255 ∧
        minPacketLen ≤ (frame body padding).length ∧
        sender.keys.blocksize ∣
          (frame body padding).length - (if sender.keys.mode.isAead then 4 else 0) ∧
        ∀ (more : Bytes) (schedule : List ReadEvent), Calm schedule → ∀ rounds,
          ∃ receiver', readRounds rounds
              { receiver with
                sock := { incoming := writebuf.contents ++ more, schedule := schedule } } =
                .ok receiver' ∧
            (schedule.length ≤ rounds →
              writebuf.len ≤ (Socket.mk (writebuf.contents ++ more) schedule).delivers →
                receiver'.handedOver = some writepayload.contents ∧
                receiver'.sock.incoming = more ∧
                receiver'.recvseq = sender'.transseq ∧
                Matches cipher stream sender'.keys receiver'.keys) := by
  obtain ⟨payload, contents, start, len, chosen⟩ := encryptPacket_eq random sender nonempty
  rw [chosen]
  split
  · obtain ⟨copy, deferred, same⟩ := enqueueReplyPacket_spec sender payload
    exact ⟨copy, deferred, same.trans contents⟩
  · obtain ⟨sender', writebuf, body, padding, keys, zstream, queued, writequeue, transseq, opens,
      matched', handed⟩ :=
      matched.enqueuePacket sequence agreed random start (by omega) (by omega)
    refine ⟨sender', writebuf, body, padding, keys, queued, writequeue, opens.authentic, ?_,
      opens.padding_least, Nat.le_trans opens.padding_most (by decide), opens.least, ?_, ?_⟩
    · rw [← Buffer.length_contents, opens.wire_length, matched.hashsize]
    · rw [← matched.blocksize, ← matched.isAead]
      exact opens.whole
    · intro more schedule calm rounds
      let started : Receive σ ζ :=
        { receiver with
          sock := { incoming := writebuf.contents ++ more, schedule := schedule } }
      have opens' : Opens started writebuf.contents body padding keys := { opens with }
      have sent : started.sock.incoming = writebuf.contents ++ more := rfl
      obtain ⟨receiver', returned, complete⟩ :=
        opens'.readRounds sent empty rounds (Reading.begin idle) calm
      refine ⟨receiver', returned, fun ended enough => ?_⟩
      obtain ⟨clear, plen, padlen, delivered⟩ := complete ended (by
        rw [Buffer.length_contents, List.length_nil, Nat.zero_add]
        exact enough)
      have incoming : receiver'.sock.incoming = more := by
        have taken := delivered.taken
        rw [sent] at taken
        exact (List.append_cancel_left taken).symm
      have recvseq : receiver'.recvseq = sender'.transseq := by
        rw [delivered.recvseq, transseq, ← sequence]
      have given := delivered.handed
      rw [show started.compress = sender.compress from agreed] at given
      split at given
      · rename_i compressing
        rw [if_pos compressing] at handed
        obtain ⟨out, zstream', inflated, out_eq, keys_eq⟩ := given
        rw [handed] at inflated
        simp only [Option.some_inj, Prod.mk.injEq, true_and] at inflated
        obtain ⟨rfl, rfl⟩ := inflated
        exact ⟨by rw [out_eq, contents], incoming, recvseq, by rwa [keys_eq]⟩
      · rename_i plain
        rw [if_neg plain] at handed
        obtain ⟨rfl, rfl⟩ := handed
        exact ⟨by rw [given.1, contents], incoming, recvseq, by rw [given.2]; exact matched'⟩

/-- A sender at the start of a session. -/
def senderNone : Transmit Unit Unit where
  keys := keysNone
  transseq := 0
  dataallowed := true
  compress := false
  replyQueue := []
  writequeue := []
  datatrans := 0

/-- A buffer that holds the one byte `2`. -/
def payloadIgnore : Buffer := .ofBytes [2] (by decide)

/-- An unencrypted packet with payload `[2]`, read byte by byte. -/
theorem encryptPacket_roundTrip_ignore :
    ∃ sender' writebuf receiver', encryptPacket (fun _ => 0) senderNone payloadIgnore =
        .ok sender' ∧
      sender'.writequeue = [writebuf] ∧
      readRounds writebuf.len (receiverNone (writebuf.contents ++ [])
        (List.replicate writebuf.len (.deliver 0))) = .ok receiver' ∧
      receiver'.handedOver = some [2] := by
  have sent := encryptPacket_roundTrip senderNone (receiverNone [] []) matches_keysNone
    rfl rfl rfl rfl (fun _ => 0) payloadIgnore (by decide) (by decide)
  rw [if_neg (by decide)] at sent
  obtain ⟨sender', writebuf, body, padding, keys, queued, writequeue, -, -, -, -, -, -, received⟩ :=
    sent
  obtain ⟨receiver', returned, complete⟩ :=
    received [] (List.replicate writebuf.len (.deliver 0))
      (fun event there => .inr ⟨0, List.eq_of_mem_replicate there⟩) writebuf.len
  refine ⟨sender', writebuf, receiver', queued, writequeue, returned, (complete ?_ ?_).1⟩
  · exact Nat.le_of_eq List.length_replicate
  · simp [Socket.delivers, List.countP_replicate]

end Dropbear.Packet
