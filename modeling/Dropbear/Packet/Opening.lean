/-
# Reading packets

`Opens` says that a byte string is a packet which a receiver's current context
decrypts, authenticates and, where needed, inflates.  Such a packet is read
without an exit however the stream is cut into reads, and once enough reads have
brought bytes it is delivered.  Whatever else the peer sends, the receiver stays
within a packet, delivers one or exits.
-/

import Dropbear.Packet.Framing

namespace Dropbear.Packet

open Program

variable {σ ζ : Type}

/-- `wire` is a packet that a receiver in state `start` opens to a frame around
`body`. -/
structure Opens (start : Receive σ ζ) (wire body padding : Bytes)
    (keys : KeyContextDirectional σ ζ) : Prop where
  block : ∃ head keys₁, openBlock start.keys start.recvseq (wire.take start.keys.blocksize) =
    some (1 + body.length + padding.length, head, keys₁)
  authentic : authenticate start.keys start.recvseq wire = some (frame body padding, keys)
  wire_length : wire.length = (frame body padding).length + start.keys.hashsize
  nonempty : 0 < body.length
  bounded : body.length ≤ transMaxPayloadLen + zlibCompressExpansion
  padding_least : 4 ≤ padding.length
  padding_most : padding.length ≤ 19
  least : minPacketLen ≤ (frame body padding).length
  whole : start.keys.blocksize ∣
    (frame body padding).length - (if start.keys.mode.isAead then 4 else 0)
  enough : start.keys.blocksize + (if start.keys.mode.isAead then 4 else 0) ≤
    (frame body padding).length
  inflates : start.compress → ∃ out zstream, out.length ≤ recvMaxPayloadLen ∧
    keys.zlib.inflate body (recvMaxPayloadLen + 1) keys.zstream = some (out, 0, zstream)

namespace Opens

variable {start : Receive σ ζ} {wire body padding : Bytes} {keys : KeyContextDirectional σ ζ}

/-- The length field of a packet that opens passes the receiver's checks. -/
theorem accepted (opens : Opens start wire body padding keys) :
    Accepted start.keys (1 + body.length + padding.length) ∧
      wireLength start.keys (1 + body.length + padding.length) = wire.length := by
  have hashsize := start.keys.hashsize_le
  obtain ⟨-, -, wireLen, -, bounded, -, most, -, whole, enough, -⟩ := opens
  simp only [length_frame, maxMacLen, transMaxPayloadLen, zlibCompressExpansion] at *
  have total : wireLength start.keys (1 + body.length + padding.length) = wire.length := by
    rw [wireLength, u32_of_lt] <;> omega
  refine ⟨⟨by omega, ?_, ?_, ?_, ?_⟩, total⟩
  · rw [total, wireLen, recvMaxPacketLen, recvMaxPayloadLen]
    omega
  · unfold checkedLength
    cases mode_eq : start.keys.mode <;> simp only [mode_eq, CryptMode.isAead, if_true] at enough ⊢
    · rw [u32_of_lt (by omega)]
      simp only [Bool.false_eq_true, if_false] at enough
      omega
    · omega
  · unfold checkedLength
    cases mode_eq : start.keys.mode <;> simp only [mode_eq, CryptMode.isAead, if_true] at whole ⊢
    · rw [u32_of_lt (by omega)]
      simp only [Bool.false_eq_true, if_false] at whole
      rw [← Nat.dvd_iff_mod_eq_zero]
      convert whole using 1
      omega
    · rw [← Nat.dvd_iff_mod_eq_zero]
      convert whole using 1
      omega
  · rw [total, wireLen]
    split at enough <;> omega

/-- A packet that opens is at least one block and its MAC long. -/
theorem long (opens : Opens start wire body padding keys) :
    start.keys.blocksize + start.keys.hashsize ≤ wire.length := by
  have enough := opens.enough
  rw [opens.wire_length]
  omega

end Opens

/-! ## The payload of a packet that opens -/

variable {sock : Socket} {readbuf : Buffer} {head got : Bytes} {plen : Nat} {ses : Receive σ ζ}

section Receiving

variable {start : Receive σ ζ} {wire body padding more : Bytes}
  {keys : KeyContextDirectional σ ζ}

/-- The length field counts everything behind it. -/
theorem ofBe_frame {body padding : Bytes} (small : 1 + body.length + padding.length < 2 ^ 32) :
    ofBe ((frame body padding).take 4) = 1 + body.length + padding.length := by
  have front : (frame body padding).take 4 = be32 (1 + body.length + padding.length) := by
    simp [frame, be32]
  rw [front, ofBe_be32 small]

/-- The padding length stands behind the length field. -/
theorem getElem_frame (body padding : Bytes) :
    (frame body padding)[4]? = some padding.length.toUInt8 := by
  simp [frame, be32]

/-- The body stands behind the padding length. -/
theorem drop_frame (body padding : Bytes) :
    ((frame body padding).drop 5).take body.length = body := by
  simp [frame, be32]

/-- The padding length tells where the body of a packet that opens ends. -/
theorem Opens.padlen (opens : Opens start wire body padding keys) {padlen : UInt8}
    (found : (frame body padding)[4]? = some padlen) :
    padlen.toNat + 5 + start.keys.hashsize + body.length = wire.length := by
  rw [getElem_frame, Option.some_inj] at found
  have most := opens.padding_most
  rw [← found, Nat.toUInt8, UInt8.toNat_ofNat', Nat.mod_eq_of_lt (by omega), opens.wire_length,
    length_frame]
  omega

/-- A complete packet that opens is handled without an exit, and one that is handled
was delivered. -/
theorem returns_decryptPacket {keys : KeyContextDirectional σ ζ}
    (holds : HoldsPacket start keys readbuf wire plen head) (complete : wire.length = readbuf.len)
    (incoming : start.sock.incoming = wire ++ sock.incoming) :
    Returns (∃ body padding keys', Opens start wire body padding keys')
      (fun ses => ∃ clear body padlen keys', Delivered start ses wire clear body plen padlen keys')
      (decryptPacket { start with sock := sock, readbuf := some readbuf, keys := keys }
        readbuf) := by
  have valid := readbuf.len_le_max
  have opened := returns_openReadbuf
    { start with
      sock := sock
      readbuf := some readbuf
      keys := keys
      datarecv := u32 (start.datarecv + readbuf.len) } holds complete rfl rfl
  refine (opened.mono ?_ fun _ => id).bind ?_
  · rintro ⟨body, padding, keys', opens⟩
    exact ⟨opens.long, Option.isSome_iff_ne_none.1 (opens.authentic ▸ rfl)⟩
  rintro ⟨keys', b₁⟩ ⟨clear, authentic, total, clearLen, clear_eq, len₁⟩
  dsimp only at authentic clear_eq len₁ ⊢
  have macSize : keys.hashsize = start.keys.hashsize := (openBlock_sizes holds.opened).2
  have framed : (∃ body padding keys', Opens start wire body padding keys') →
      ∃ body padding, Opens start wire body padding keys' ∧ clear = frame body padding := by
    rintro ⟨body, padding, keys₁, opens⟩
    cases authentic.symm.trans opens.authentic
    exact ⟨body, padding, opens, rfl⟩
  have least : (∃ body padding keys', Opens start wire body padding keys') → 4 < clear.length := by
    intro opening
    obtain ⟨body, padding, opens, rfl⟩ := framed opening
    rw [length_frame]
    omega
  refine (returns_bufSetpos fun opening => ?_).bind ?_
  · have := least opening
    omega
  rintro b₂ ⟨_, data₂, len₂, pos₂⟩
  refine (returns_bufGetbyte fun opening => ?_).bind ?_
  · have := least opening
    omega
  rintro ⟨padlen, b₃⟩ ⟨_, padding, data₃, len₃⟩
  dsimp only at padding data₃ len₃ ⊢
  rw [pos₂, data₂] at padding
  have found : 4 < clear.length → clear[4]? = some padlen := by
    intro longer
    rw [← padding, ← clear_eq, List.getElem?_take_of_lt longer]
  have opensTo : (∃ body padding keys', Opens start wire body padding keys') →
      ∃ body, padlen.toNat + 5 + start.keys.hashsize + body.length = wire.length ∧
        0 < body.length ∧ body.length ≤ recvMaxPayloadLen + zlibCompressExpansion ∧
        (clear.drop 5).take body.length = body ∧ (start.compress → ∃ out zstream,
          out.length ≤ recvMaxPayloadLen ∧ keys'.zlib.inflate body (recvMaxPayloadLen + 1)
            keys'.zstream = some (out, 0, zstream)) := by
    intro opening
    have longer := least opening
    obtain ⟨body, padding', opens, rfl⟩ := framed opening
    exact ⟨body, opens.padlen (found longer), opens.nonempty,
      Nat.le_trans opens.bounded (by decide), drop_frame _ _, opens.inflates⟩
  have len_eq : (padlen.toNat + 5 + start.keys.hashsize ≤ wire.length) →
      payloadLength b₃.len padlen.toNat keys.hashsize =
        wire.length - padlen.toNat - 5 - start.keys.hashsize := by
    intro room
    rw [payloadLength_of_le b₃.len_le_max (by omega), len₃, len₂, len₁, macSize]
  refine (Returns.checked (fun opening => ?_) trivial).bind ?_
  · obtain ⟨body, sum, positive, small, _⟩ := opensTo opening
    rw [len_eq (by omega)]
    omega
  rintro _ ⟨sized, _⟩
  rw [not_or, Nat.not_lt, Nat.not_lt] at sized
  have room := payloadLength_exact b₃.len_le_max padlen.toNat_lt keys.hashsize_le sized.1
  rw [len_eq (by omega)] at sized
  refine (returns_bufSetpos fun _ => by omega).bind ?_
  rintro b₄ ⟨_, data₄, len₄, pos₄⟩
  rw [len_eq (by omega)]
  generalize n_eq : wire.length - padlen.toNat - 5 - start.keys.hashsize = n at sized ⊢
  have dataClear : b₄.data.take (4 + plen) = clear := by
    rw [data₄, data₃, data₂, ← clearLen, clear_eq]
  have body_eq : (b₄.data.drop b₄.pos).take n = (clear.drop 5).take n := by
    rw [pos₄, ← dataClear, List.drop_take, List.take_take, Nat.min_eq_left (by omega)]
  have delivered : ∀ ses : Receive σ ζ, ses.sock = sock → ses.recvseq = u32 (start.recvseq + 1) →
      ses.readbuf = none →
      (if start.compress then
        ∃ out zstream, keys'.zlib.inflate ((clear.drop 5).take n) (recvMaxPayloadLen + 1)
            keys'.zstream = some (out, 0, zstream) ∧ ses.handedOver = some out ∧
          ses.keys = { keys' with zstream := zstream }
      else ses.handedOver = some ((clear.drop 5).take n) ∧ ses.keys = keys') →
      Delivered start ses wire clear ((clear.drop 5).take n) plen padlen keys' := by
    intro ses sock_eq recvseq readbuf_eq handed
    have bodyLen : ((clear.drop 5).take n).length = n := by
      rw [List.length_take, List.length_drop]
      omega
    exact
      { taken := sock_eq ▸ incoming, field := by rw [holds.opened]; rfl, block := holds.block,
        total := total.symm, bounded := by rw [complete, holds.len]; exact holds.accepted.bounded,
        authentic := authentic, clear_length := clearLen, padding := found (by omega),
        nonempty := by omega, body_length := by omega, inside := by rw [bodyLen],
        handed := handed, recvseq := recvseq, readbuf := readbuf_eq }
  split
  case _ compressing =>
    refine (returns_bufDecompress (fun _ => by omega) body_eq fun opening => ?_).bind ?_
    · obtain ⟨body, sum, _, _, isBody, inflates⟩ := opensTo opening
      rw [show n = body.length by omega, isBody]
      exact inflates compressing
    rintro ⟨keys'', payload⟩ ⟨out, zstream, inflated, keys_eq, out_eq⟩
    dsimp only at keys_eq out_eq ⊢
    refine (returns_bufSetpos fun _ => Nat.zero_le _).bind ?_
    rintro b₅ ⟨_, data₅, len₅, _⟩
    refine .ok ⟨clear, _, padlen, keys', delivered _ rfl rfl rfl ?_⟩
    rw [if_pos compressing]
    refine ⟨out, zstream, inflated, ?_, keys_eq⟩
    simp only [Receive.handedOver, Option.map_some, List.drop_zero, Buffer.contents, data₅, len₅]
    rw [← Buffer.contents, out_eq]
  case _ plain =>
    have allocated := b₄.len_le_size
    refine (returns_bufSetlen fun _ => by omega).bind ?_
    rintro b₅ ⟨data₅, len₅⟩
    refine .ok ⟨clear, _, padlen, keys', delivered _ rfl rfl rfl ?_⟩
    rw [if_neg plain]
    refine ⟨?_, rfl⟩
    simp only [Receive.handedOver, Option.map_some, Buffer.contents, data₅, len₅]
    rw [List.drop_take, Nat.add_sub_cancel_left, body_eq]

/-! ## One call -/

/-- A schedule without an end of the stream and without errors. -/
def Calm (schedule : List ReadEvent) : Prop :=
  ∀ event ∈ schedule, event = .again ∨ ∃ n, event = .deliver n

/-- On a calm schedule `read` returns bytes or would block. -/
theorem Calm.read (calm : Calm sock.schedule) (maxlen : Nat) :
    (∃ sock', sock.read maxlen = (.again, sock')) ∨
      ∃ bytes sock', sock.read maxlen = (.data bytes, sock') := by
  unfold Socket.read
  cases scheduled : sock.schedule with
  | nil => exact .inl ⟨sock, rfl⟩
  | cons event later =>
    rcases calm event (by simp [scheduled]) with rfl | ⟨n, rfl⟩
    · exact .inl ⟨_, rfl⟩
    · simp only
      split
      · exact .inl ⟨_, rfl⟩
      · exact .inr ⟨_, _, rfl⟩

/-- A calm schedule stays calm while it is used up. -/
theorem Calm.mono {schedule later : List ReadEvent} (calm : Calm schedule)
    (suffix : later <:+ schedule) : Calm later :=
  fun event there => calm event (suffix.subset there)

variable {keys' : KeyContextDirectional σ ζ}

/-- What was taken so far of a packet that opens is a part of it, and the packet's
length is known to be its own. -/
theorem Opens.holds_length (opens : Opens start wire body padding keys) {rest : Bytes}
    (holds : HoldsPacket start keys' readbuf got plen head)
    (incoming : wire ++ more = got ++ rest) :
    readbuf.len = wire.length ∧ got = wire.take got.length := by
  have long := opens.long
  obtain ⟨head', keys₁, first⟩ := opens.block
  have block : got.take start.keys.blocksize = wire.take start.keys.blocksize := by
    have front : (got ++ rest).take start.keys.blocksize = got.take start.keys.blocksize :=
      List.take_append_of_le_length holds.block
    rw [← front, ← incoming, List.take_append_of_le_length (by omega)]
  have opened := holds.opened
  rw [block, first] at opened
  obtain ⟨rfl, -⟩ := Prod.mk.inj (Option.some.inj opened)
  have len : readbuf.len = wire.length := by rw [holds.len, opens.accepted.2]
  refine ⟨len, ?_⟩
  have within : got.length ≤ wire.length := by
    rw [← holds.pos, ← len]
    exact readbuf.pos_le_len
  have front : (wire ++ more).take got.length = wire.take got.length :=
    List.take_append_of_le_length within
  rw [← front, incoming, List.take_left]

/-- What is being read is a packet that opens, and nothing disturbs the reading. -/
def Undisturbed (start : Receive σ ζ) (sock : Socket) : Prop :=
  Calm sock.schedule ∧ ∃ wire body padding keys more, Opens start wire body padding keys ∧
    start.sock.incoming = wire ++ more

theorem Undisturbed.reads {sock' : Socket} {maxlen : Nat} {result : ReadResult}
    (undisturbed : Undisturbed start sock) (read : sock.read maxlen = (result, sock')) :
    result = .again ∨ ∃ bytes, result = .data bytes := by
  rcases undisturbed.1.read maxlen with ⟨_, same⟩ | ⟨bytes, _, same⟩
  · cases read.symm.trans same
    exact .inl rfl
  · cases read.symm.trans same
    exact .inr ⟨bytes, rfl⟩

/-- Reading on in the remainder of a packet. -/
theorem returns_readRemainder (incoming : start.sock.incoming = got ++ sock.incoming)
    (holds : HoldsPacket start keys readbuf got plen head) :
    Returns (Undisturbed start sock) (Advances start sock got)
      (readRemainder { start with sock := sock, readbuf := some readbuf, keys := keys }
        readbuf) := by
  have used : got.length ≤ readbuf.len := by
    rw [← holds.pos]
    exact readbuf.pos_le_len
  have allocated := readbuf.len_le_size
  have valid := readbuf.len_le_max
  have maxlen : sub32 readbuf.len readbuf.pos = readbuf.len - got.length := by
    rw [holds.pos, sub32_of_le (Nat.lt_of_le_of_lt valid (by decide)) used]
  have handles : ∀ {sock' : Socket} {readbuf' : Buffer} {got' : Bytes},
      HoldsPacket start keys readbuf' got' plen head → got'.length = readbuf'.len →
      start.sock.incoming = got' ++ sock'.incoming →
      Returns (Undisturbed start sock) (Advances start sock got) (decryptPacket
        { start with sock := sock', readbuf := some readbuf', keys := keys } readbuf') := by
    intro sock' readbuf' got' holds' complete incoming'
    refine (returns_decryptPacket holds' complete incoming').mono ?_ ?_
    · rintro ⟨_, wire, body, padding, keys', more, opens, sent⟩
      obtain ⟨len, part⟩ := opens.holds_length holds' (by rw [← sent, incoming'])
      have isWire : got' = wire := by rw [part, List.take_of_length_le (by omega)]
      exact ⟨body, padding, keys', isWire ▸ opens⟩
    · rintro ses ⟨clear, body, padlen, keys', delivered⟩
      exact .inr ⟨got', clear, body, plen, padlen, keys', delivered⟩
  simp only [readRemainder, maxlen]
  split
  case _ zero => exact handles holds (by omega) incoming
  case _ unfinished =>
    refine (returns_bufGetptr fun _ => ?_).bind ?_
    · exact ⟨Nat.le_trans (Nat.sub_le _ _) valid, by rw [holds.pos]; omega⟩
    rintro ptr ⟨_, isPtr⟩
    subst isPtr
    rcases read : sock.read (readbuf.len - got.length) with ⟨result, sock'⟩
    cases result with
    | eof =>
      exact .error (fun undisturbed => by simpa using undisturbed.reads read)
        start.remoteclosed_regular
    | fail errno =>
      exact .error (fun undisturbed => by simpa using undisturbed.reads read) trivial
    | again =>
      obtain ⟨same, progress⟩ := Socket.read_again (by omega) read
      refine .ok (.inl ⟨[], ?_, progress⟩)
      rw [List.append_nil]
      exact .packet (by rw [same]; exact incoming) holds (by omega)
    | data bytes =>
      obtain ⟨split_eq, atMost, progress⟩ := Socket.read_data read
      have inside : readbuf.pos + bytes.length ≤ readbuf.data.length := by
        rw [holds.pos]
        omega
      refine (returns_poke inside).bind ?_
      rintro b₁ ⟨data₁, len₁, pos₁⟩
      refine (returns_bufIncrpos fun _ => ?_).bind ?_
      · exact ⟨Nat.le_trans (by omega) valid, by rw [pos₁, len₁, holds.pos]; omega⟩
      rintro b₂ ⟨data₂, len₂, pos₂⟩
      have incoming' : start.sock.incoming = (got ++ bytes) ++ sock'.incoming := by
        rw [incoming, split_eq, List.append_assoc]
      have holds' := holds.append (by rw [data₂, data₁]) (by rw [len₂, len₁])
        (by rw [pos₂, pos₁]) inside
      split
      · exact handles holds' (by rw [List.length_append]; omega) incoming'
      · exact .ok (.inl ⟨bytes, .packet incoming' holds' (by rw [List.length_append]; omega),
          progress⟩)

/-- Reading on in the first block either leaves it incomplete or finds the
packet's length. -/
theorem returns_readPacketInit {readbuf : Option Buffer}
    (incoming : start.sock.incoming = got ++ sock.incoming)
    (within : got.length < start.keys.blocksize) (holds : HoldsBlock readbuf got) :
    Returns (Undisturbed start sock)
      (fun result => ∃ more, sock.Progress result.2.sock more.length ∧
        sock.incoming = more ++ result.2.sock.incoming ∧
        if result.1 then
          ∃ readbuf' keys plen head,
            result.2 =
              { start with sock := result.2.sock, readbuf := some readbuf', keys := keys } ∧
              HoldsPacket start keys readbuf' (got ++ more) plen head
        else Reading start result.2 (got ++ more))
      (readPacketInit { start with sock := sock, readbuf := readbuf }) := by
  have small := blocksize_le start.keys
  have limit : 16 ≤ bufMaxIncr := by decide
  refine (returns_readbufOrNew holds).bind ?_
  rintro b ⟨contents, atEnd, sized⟩
  have posLen : b.pos = got.length := by rw [atEnd, ← Buffer.length_contents, contents]
  have maxlen : sub32 start.keys.blocksize b.pos = start.keys.blocksize - got.length := by
    rw [posLen, sub32_of_le (by omega) (Nat.le_of_lt within)]
  have room : b.pos + (start.keys.blocksize - got.length) ≤ b.data.length := by
    rw [sized, initReadbuf]
    omega
  simp only [maxlen]
  refine (returns_bufGetwriteptr fun _ => ⟨by omega, room⟩).bind ?_
  rintro ptr ⟨_, isPtr⟩
  subst isPtr
  rcases read : sock.read (start.keys.blocksize - got.length) with ⟨result, sock'⟩
  cases result with
  | eof =>
    exact .error (fun undisturbed => by simpa using undisturbed.reads read)
      start.remoteclosed_regular
  | fail errno =>
    exact .error (fun undisturbed => by simpa using undisturbed.reads read) trivial
  | again =>
    obtain ⟨same, progress⟩ := Socket.read_again (by omega) read
    refine .ok ⟨[], progress, same.symm, ?_⟩
    rw [List.append_nil]
    exact .block (by rw [same]; exact incoming) within ⟨contents, atEnd, sized⟩
  | data bytes =>
    obtain ⟨split_eq, atMost, progress⟩ := Socket.read_data read
    have inside : b.pos + bytes.length ≤ b.data.length := by omega
    refine (returns_poke inside).bind ?_
    rintro b₁ ⟨data₁, len₁, pos₁⟩
    refine (returns_bufIncrwritepos fun _ => ?_).bind ?_
    · rw [pos₁, data₁, length_overwrite inside]
      exact ⟨by omega, inside⟩
    rintro b₂ ⟨data₂, len₂, pos₂⟩
    have incoming' : start.sock.incoming = (got ++ bytes) ++ sock'.incoming := by
      rw [incoming, split_eq, List.append_assoc]
    have len₂' : b₂.len = b.len + bytes.length := by omega
    have contents₂ : b₂.contents = got ++ bytes := by
      rw [Buffer.contents_append b b₂ bytes (by rw [data₂, data₁, atEnd]) len₂'
        (by rw [← atEnd]; exact inside), contents]
    split
    case _ incomplete =>
      refine .ok ⟨bytes, progress, split_eq, ?_⟩
      exact .block incoming' (by rw [List.length_append]; omega)
        ⟨contents₂, by omega, by rw [data₂, data₁, length_overwrite inside, sized]⟩
    case _ complete =>
      have whole : (got ++ bytes).length = start.keys.blocksize := by
        rw [List.length_append]
        omega
      refine ((returns_startPacket start sock' contents₂ whole).mono ?_ fun _ => id).bind ?_
      · rintro ⟨_, wire, body, padding, keys, more, opens, sent⟩
        obtain ⟨head, keys₁, opened⟩ := opens.block
        have front : got ++ bytes = wire.take start.keys.blocksize := by
          have taken : (wire ++ more).take start.keys.blocksize =
              wire.take start.keys.blocksize :=
            List.take_append_of_le_length (Nat.le_trans (Nat.le_add_right _ _) opens.long)
          rw [← taken, ← sent, incoming', ← whole, List.take_left]
        exact ⟨_, head, keys₁, front ▸ opened, opens.accepted.1⟩
      rintro ses ⟨keys, readbuf', plen, head, isSes, holds'⟩
      · subst isSes
        exact .ok ⟨bytes, progress, split_eq, readbuf', keys, plen, head, rfl, holds'⟩

/-- One call of `read_packet` keeps a receiver within its packet or delivers the
packet's payload. -/
theorem returns_readPacket (reading : Reading start ses got) :
    Returns (Undisturbed start ses.sock) (Advances start ses.sock got) (readPacket ses) := by
  cases reading with
  | packet incoming holds within =>
    rw [readPacket, inFirstBlock_packet holds, if_neg Bool.false_ne_true, pure_bind]
    exact returns_readRemainder incoming holds
  | block incoming within holds =>
    rw [readPacket, inFirstBlock_block within holds, if_pos rfl]
    refine (returns_readPacketInit incoming within holds).bind ?_
    rintro ⟨started, ses₁⟩ ⟨more, progress, split_eq, stage⟩
    dsimp only at progress split_eq stage ⊢
    cases started with
    | false => exact .ok (.inl ⟨more, stage, progress⟩)
    | true =>
      obtain ⟨readbuf', keys, plen, head, ses₁_eq, holds'⟩ := stage
      rw [ses₁_eq]
      have incoming' : start.sock.incoming = (got ++ more) ++ ses₁.sock.incoming := by
        rw [incoming, List.append_assoc, split_eq]
      refine (returns_readRemainder incoming' holds').mono ?_ ?_
      · exact fun undisturbed => ⟨undisturbed.1.mono progress.later, undisturbed.2⟩
      · rintro ses' (⟨rest, reading, progress'⟩ | delivered)
        · refine .inl ⟨more ++ rest, by rwa [← List.append_assoc], ?_⟩
          have suffix : ses₁.sock.incoming = rest ++ ses'.sock.incoming := by
            have whole := reading.incoming_eq
            rw [incoming', List.append_assoc (got ++ more)] at whole
            exact List.append_cancel_left whole
          rw [List.length_append]
          exact progress.trans progress' suffix
        · exact .inr delivered

/-! ## Any number of calls -/

/-- Any number of calls keep a receiver within its packet or deliver its payload. -/
theorem returns_readRounds {start : Receive σ ζ} (rounds : Nat) (empty : start.payload = none)
    (reading : Reading start ses got) :
    Returns False (fun ses' => (∃ got', Reading start ses' got') ∨
      ∃ wire clear body plen padlen keys, Delivered start ses' wire clear body plen padlen keys)
      (readRounds rounds ses) := by
  induction rounds generalizing ses got with
  | zero => exact .ok (.inl ⟨got, reading⟩)
  | succ rounds again =>
    simp only [readRounds, reading.payload_eq, empty, Option.isSome_none, Bool.false_eq_true,
      if_false]
    refine ((returns_readPacket reading).mono False.elim fun _ => id).bind ?_
    rintro ses₁ (⟨more, reading', -⟩ | ⟨wire, clear, body, plen, padlen, keys, delivered⟩)
    · exact again reading'
    · rw [readRounds_of_payload delivered.payload_isSome]
      exact .ok (.inr ⟨wire, clear, body, plen, padlen, keys, delivered⟩)

/-- Whatever the peer sends and however it arrives, a payload that reaches
`process_packet` was cut out of the authenticated bytes of one packet whose
lengths are exact.  A length near `2 ^ 32`, for which the sum with the MAC size
wraps, is therefore never accepted.  If the process ends, the code has ended it. -/
theorem delivered_of_payload {start : Receive σ ζ} (rounds : Nat)
    (idle : start.readbuf = none) (empty : start.payload = none) :
    (∀ failure, readRounds rounds start = .error failure → failure.Regular) ∧
      ∀ ses, readRounds rounds start = .ok ses → ses.payload ≠ none →
        ∃ wire clear body plen padlen keys,
          Delivered start ses wire clear body plen padlen keys ∧
            plen + 4 + start.keys.hashsize < 2 ^ 32 := by
  have returns := returns_readRounds rounds empty (Reading.begin idle)
  refine ⟨returns.fails, fun ses returned handed => ?_⟩
  rcases returns.sound ses returned with
    ⟨got, reading⟩ | ⟨wire, clear, body, plen, padlen, keys, delivered⟩
  · exact absurd (reading.payload_eq.trans empty) handed
  · refine ⟨wire, clear, body, plen, padlen, keys, delivered, ?_⟩
    have limit : recvMaxPacketLen < 2 ^ 32 := by decide
    have bounded := delivered.bounded
    rw [← delivered.total] at bounded
    omega

/-- A receiver at the start of a session, with the given bytes on the way. -/
def receiverNone (incoming : Bytes) (schedule : List ReadEvent) : Receive Unit Unit where
  sock := { incoming := incoming, schedule := schedule }
  keys := keysNone
  recvseq := 0
  compress := false
  readbuf := none
  payload := none
  payloadBeginning := 0
  datarecv := 0
  remoteclosed := .close "Exited normally"
  remoteclosed_regular := trivial

/-- An unencrypted packet with payload `[2]`, read in two pieces. -/
theorem delivered_of_payload_ignore :
    ∃ ses wire clear body plen padlen keys,
      readRounds 1 (receiverNone ([0, 0, 0, 12, 10, 2] ++ List.replicate 10 0)
          [.deliver 7, .deliver 20]) = .ok ses ∧
        Delivered (receiverNone ([0, 0, 0, 12, 10, 2] ++ List.replicate 10 0)
          [.deliver 7, .deliver 20]) ses wire clear body plen padlen keys := by
  cases returned : readRounds 1 (receiverNone ([0, 0, 0, 12, 10, 2] ++ List.replicate 10 0)
      [.deliver 7, .deliver 20]) with
  | error failure =>
    have fine : (readRounds 1 (receiverNone ([0, 0, 0, 12, 10, 2] ++ List.replicate 10 0)
      [.deliver 7, .deliver 20])).isOk = true := by decide +kernel
    rw [returned] at fine
    cases fine
  | ok ses =>
    have handed : ((readRounds 1 (receiverNone ([0, 0, 0, 12, 10, 2] ++ List.replicate 10 0)
      [.deliver 7, .deliver 20])).toOption.bind (·.payload)).isSome = true := by
        decide +kernel
    rw [returned] at handed
    obtain ⟨wire, clear, body, plen, padlen, keys, delivered, -⟩ :=
      (delivered_of_payload 1 rfl rfl).2 ses returned (Option.isSome_iff_ne_none.1 handed)
    exact ⟨ses, wire, clear, body, plen, padlen, keys, rfl, delivered⟩

/-- A receiver in the middle of a packet that opens has not taken all of it. -/
theorem Opens.unfinished (opens : Opens start wire body padding keys)
    (sent : start.sock.incoming = wire ++ more) (reading : Reading start ses got) :
    got.length < wire.length := by
  cases reading with
  | block incoming within holds =>
    have := opens.long
    omega
  | packet incoming holds within =>
    rw [← (opens.holds_length holds (by rw [← sent, incoming])).1]
    exact within

/-- What is delivered of a packet that opens is that packet. -/
theorem Opens.delivered_eq (opens : Opens start wire body padding keys) {wire' clear body' : Bytes}
    {padlen : UInt8} (sent : start.sock.incoming = wire ++ more)
    (delivered : Delivered start ses wire' clear body' plen padlen keys') :
    wire' = wire ∧ body' = body ∧ keys' = keys := by
  have taken := delivered.taken
  rw [sent] at taken
  have block : wire'.take start.keys.blocksize = wire.take start.keys.blocksize := by
    have front : (wire ++ more).take start.keys.blocksize = wire.take start.keys.blocksize :=
      List.take_append_of_le_length (Nat.le_trans (Nat.le_add_right _ _) opens.long)
    rw [← front, taken, List.take_append_of_le_length delivered.block]
  obtain ⟨head, keys₁, first⟩ := opens.block
  have field := delivered.field
  rw [block, first, Option.map_some, Option.some_inj] at field
  subst field
  have wire_eq : wire' = wire := by
    refine (List.append_inj taken ?_).1.symm
    rw [opens.wire_length, length_frame, ← delivered.total]
    omega
  have authentic := delivered.authentic
  rw [wire_eq, opens.authentic] at authentic
  obtain ⟨rfl, rfl⟩ := Prod.mk.inj (Option.some.inj authentic)
  refine ⟨wire_eq, ?_, rfl⟩
  have length : body'.length = body.length := by
    have sum := opens.padlen delivered.padding
    have sum' := delivered.body_length
    have total := delivered.total
    rw [wire_eq] at total
    omega
  rw [delivered.inside, length, drop_frame]

/-- Any number of calls read a packet that opens without an exit, and once enough
of them found bytes it is delivered. -/
theorem Opens.readRounds (opens : Opens start wire body padding keys)
    (sent : start.sock.incoming = wire ++ more) (empty : start.payload = none) (rounds : Nat)
    (reading : Reading start ses got) (calm : Calm ses.sock.schedule) :
    ∃ ses', readRounds rounds ses = .ok ses' ∧
      (ses.sock.schedule.length ≤ rounds → wire.length ≤ got.length + ses.sock.delivers →
        ∃ clear plen padlen, Delivered start ses' wire clear body plen padlen keys) := by
  induction rounds generalizing ses got with
  | zero =>
    refine ⟨ses, rfl, fun ended enough => ?_⟩
    have unfinished := opens.unfinished sent reading
    have none_left : ses.sock.delivers = 0 := by
      rw [Socket.delivers, List.length_eq_zero_iff.1 (Nat.le_zero.1 ended), List.countP_nil]
    omega
  | succ rounds again =>
    obtain ⟨ses₁, once⟩ := (returns_readPacket reading).returns
      ⟨calm, wire, body, padding, keys, more, opens, sent⟩
    have unfold : Packet.readRounds (rounds + 1) ses = Packet.readRounds rounds ses₁ := by
      simp only [Packet.readRounds, reading.payload_eq, empty, Option.isSome_none,
        Bool.false_eq_true, if_false, once, Except.ok_bind]
    rw [unfold]
    rcases (returns_readPacket reading).sound _ once with ⟨taken, reading', progress⟩ | delivered
    · obtain ⟨ses', returned, complete⟩ := again reading' (calm.mono progress.later)
      refine ⟨ses', returned, fun ended enough => complete ?_ ?_⟩
      · have := progress.shorter
        omega
      · have unfinished := opens.unfinished sent reading'
        rcases progress.paid with paid | exhausted
        · rw [List.length_append]
          omega
        · have whole := congrArg List.length (sent.symm.trans reading'.incoming_eq)
          rw [exhausted, List.append_nil, List.length_append] at whole
          omega
    · obtain ⟨wire', clear, body', plen, padlen, keys', delivered⟩ := delivered
      obtain ⟨rfl, rfl, rfl⟩ := opens.delivered_eq sent delivered
      exact ⟨ses₁, readRounds_of_payload delivered.payload_isSome rounds,
        fun _ _ => ⟨clear, plen, padlen, delivered⟩⟩

end Receiving

end Dropbear.Packet
