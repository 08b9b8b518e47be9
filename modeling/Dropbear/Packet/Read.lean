/-
# Reading a packet from the socket

`read_packet` is called whenever the socket is readable and takes what is there.
Where it stands within a packet is kept in the length and position of `readbuf`
alone.  The socket is the bytes still to come and a schedule that decides each
`read`: how many bytes it hands over, or whether it finds none, the end of the
stream or an error.
-/

import Dropbear.Packet.Context

namespace Dropbear.Packet

open Program

variable {σ ζ : Type}

/-- What the next call of `read` meets.  `deliver n` hands over up to `n + 1`
bytes of those that are there. -/
inductive ReadEvent where
  | deliver (n : Nat)
  | again
  | eof
  | fail (errno : String)
  deriving DecidableEq, Repr

/-- The result of a call of `read`. -/
inductive ReadResult where
  | data (bytes : Bytes)
  | again
  | eof
  | fail (errno : String)
  deriving DecidableEq, Repr

/-- A socket: the bytes of the peer that were not read yet, and how the coming
calls of `read` will go. -/
structure Socket where
  incoming : Bytes
  schedule : List ReadEvent
  deriving DecidableEq, Repr

/-- `read` with room for `maxlen` bytes.  A call that finds no byte would block,
and so does one beyond the schedule. -/
def Socket.read (sock : Socket) (maxlen : Nat) : ReadResult × Socket :=
  match sock.schedule with
  | [] => (.again, sock)
  | .again :: later => (.again, { sock with schedule := later })
  | .eof :: later => (.eof, { sock with schedule := later })
  | .fail errno :: later => (.fail errno, { sock with schedule := later })
  | .deliver n :: later =>
    let bytes := sock.incoming.take (min (n + 1) maxlen)
    if bytes = [] then (.again, { sock with schedule := later })
    else (.data bytes, { incoming := sock.incoming.drop (min (n + 1) maxlen), schedule := later })

/-- How many calls of `read` the schedule still lets succeed. -/
def Socket.delivers (sock : Socket) : Nat :=
  sock.schedule.countP fun event => match event with
    | .deliver _ => true
    | _ => false

/-- Reading `count` bytes from `sock` has led to `sock'`: the schedule is used up
further, and either every successful read brought at least one byte or the
stream is exhausted. -/
structure Socket.Progress (sock sock' : Socket) (count : Nat) : Prop where
  later : sock'.schedule <:+ sock.schedule
  shorter : sock'.schedule.length ≤ sock.schedule.length - 1
  paid : sock.delivers ≤ sock'.delivers + count ∨ sock'.incoming = []

/-- Bytes that `read` returns come off the front of the stream, no more than were
asked for, and not none. -/
theorem Socket.read_data {sock sock' : Socket} {maxlen : Nat} {bytes : Bytes}
    (read : sock.read maxlen = (.data bytes, sock')) :
    sock.incoming = bytes ++ sock'.incoming ∧ bytes.length ≤ maxlen ∧
      sock.Progress sock' bytes.length := by
  unfold Socket.read at read
  split at read <;> try (cases read)
  rename_i n later scheduled
  simp only at read
  split at read
  · cases read
  · rename_i some
    cases read
    have positive := List.length_pos_iff.2 some
    refine ⟨(List.take_append_drop _ _).symm, ?_, by simp [scheduled], by simp [scheduled], .inl ?_⟩
    · rw [List.length_take]
      omega
    · simp only [Socket.delivers, scheduled, List.countP_cons_of_pos]
      omega

/-- A `read` that would block takes nothing. -/
theorem Socket.read_again {sock sock' : Socket} {maxlen : Nat} (room : 0 < maxlen)
    (read : sock.read maxlen = (.again, sock')) :
    sock'.incoming = sock.incoming ∧ sock.Progress sock' 0 := by
  unfold Socket.read at read
  split at read
  · rename_i scheduled
    cases read
    exact ⟨rfl, List.suffix_refl _, by simp [scheduled], .inl (Nat.le_refl _)⟩
  · rename_i later scheduled
    cases read
    exact ⟨rfl, by simp [scheduled], by simp [scheduled],
      .inl (by simp [Socket.delivers, scheduled])⟩
  · cases read
  · cases read
  · rename_i n later scheduled
    simp only at read
    split at read
    · rename_i empty
      cases read
      refine ⟨rfl, by simp [scheduled], by simp [scheduled], .inr ?_⟩
      rcases List.take_eq_nil_iff.1 empty with zero | none
      · omega
      · exact none
    · cases read

/-- Two reads in a row make progress together. -/
theorem Socket.Progress.trans {first second third : Socket} {count count' : Nat} {bytes : Bytes}
    (earlier : first.Progress second count) (later : second.Progress third count')
    (suffix : second.incoming = bytes ++ third.incoming) : first.Progress third (count + count') := by
  refine ⟨later.later.trans earlier.later, ?_, ?_⟩
  · have := earlier.shorter
    have := later.shorter
    omega
  · rcases later.paid with paid' | exhausted
    · rcases earlier.paid with paid | exhausted
      · left
        omega
      · right
        rw [exhausted] at suffix
        exact (List.append_eq_nil_iff.1 suffix.symm).2
    · exact .inr exhausted

/-- The part of the session that receiving a packet reads and writes. -/
structure Receive (σ ζ : Type) where
  sock : Socket
  /-- `ses.keys->recv`. -/
  keys : KeyContextDirectional σ ζ
  recvseq : Nat
  /-- The answer of `is_compress_recv`. -/
  compress : Bool
  readbuf : Option Buffer
  payload : Option Buffer
  payloadBeginning : Nat
  datarecv : Nat
  /-- How `ses.remoteclosed` ends the session. -/
  remoteclosed : Exit
  remoteclosed_regular : remoteclosed.Regular

/-- Initial size of `readbuf`, `INIT_READBUF`. -/
def initReadbuf : Nat := 128

/-- The length field of the packet whose first block is in `readbuf`, and the
length of the whole packet with its MAC.  An authenticating mode only looks at
the block, any other decrypts it in place.  All sums are 32-bit. -/
def readLength (ses : Receive σ ζ) (readbuf : Buffer) :
    Except Exit (Nat × Nat × KeyContextDirectional σ ζ × Buffer) :=
  match ses.keys.mode with
  | .aead mode => do
    let ptr ← bufGetptr readbuf ses.keys.blocksize
    let block ← readbuf.peek ptr ses.keys.blocksize
    match mode.getlength ses.recvseq block ses.keys.cipherState with
    | none => throw (.exit "Error decrypting")
    | some plen => pure (plen, u32 (plen + 4 + ses.keys.hashsize), ses.keys, readbuf)
  | .stream mode => do
    let src ← bufGetptr readbuf ses.keys.blocksize
    let dst ← bufGetwriteptr readbuf ses.keys.blocksize
    let block ← readbuf.peek src ses.keys.blocksize
    match mode.decrypt block ses.keys.cipherState with
    | none => throw (.exit "Error decrypting")
    | some (clear, cipherState) => do
      let readbuf ← readbuf.poke dst clear
      let (lengthField, readbuf) ← bufGetint readbuf
      let plen := u32 (lengthField + 4)
      pure (plen, u32 (plen + ses.keys.hashsize),
        { ses.keys with cipherState := cipherState }, readbuf)

/-- The check of the length that the first block gave. -/
def checkPacketSize (blocksize plen len : Nat) : Except Exit Unit :=
  if len > recvMaxPacketLen ∨ plen < blocksize ∨ plen % blocksize ≠ 0 then
    .error (.exit ("Integrity error (bad packet size " ++ toString len ++ ")"))
  else .ok ()

/-- Make room for a packet that does not fit the initial buffer. -/
def growReadbuf (readbuf : Buffer) (len : Nat) : Except Exit Buffer :=
  if len > readbuf.data.length then bufResize readbuf len else .ok readbuf

/-- Check the length found in the first block and make room for the packet. -/
def startPacket (ses : Receive σ ζ) (readbuf : Buffer) : Except Exit (Receive σ ζ) := do
  let readbuf ← bufSetpos readbuf 0
  let (plen, len, keys, readbuf) ← readLength ses readbuf
  checkPacketSize ses.keys.blocksize plen len
  let readbuf ← growReadbuf readbuf len
  let readbuf ← bufSetlen readbuf len
  let readbuf ← bufSetpos readbuf ses.keys.blocksize
  pure { ses with keys := keys, readbuf := some readbuf }

/-- The buffer for the current packet, allocated at its start. -/
def readbufOrNew (readbuf : Option Buffer) : Except Exit Buffer :=
  match readbuf with
  | some readbuf => .ok readbuf
  | none => bufNew initReadbuf

/-- Read on in the first block of a packet.  The result says whether the packet's
length is known now. -/
def readPacketInit (ses : Receive σ ζ) : Except Exit (Bool × Receive σ ζ) := do
  let readbuf ← readbufOrNew ses.readbuf
  let maxlen := sub32 ses.keys.blocksize readbuf.pos
  let ptr ← bufGetwriteptr readbuf maxlen
  match ses.sock.read maxlen with
  | (.eof, _) => throw ses.remoteclosed
  | (.fail errno, _) => throw (.exit ("Error reading: " ++ errno))
  | (.again, sock) => pure (false, { ses with sock := sock, readbuf := some readbuf })
  | (.data bytes, sock) => do
    let readbuf ← readbuf.poke ptr bytes
    let readbuf ← bufIncrwritepos readbuf bytes.length
    let ses := { ses with sock := sock, readbuf := some readbuf }
    if bytes.length ≠ maxlen then pure (false, ses)
    else do
      let ses ← startPacket ses readbuf
      pure (true, ses)

/-- Whether the MAC at the end of a decrypted packet is right. -/
def checkmac (ses : Receive σ ζ) (readbuf : Buffer) : Except Exit Bool := do
  let contentsLen := sub32 readbuf.len ses.keys.hashsize
  let readbuf ← bufSetpos readbuf 0
  let (macBytes, readbuf) ← makeMac ses.keys ses.recvseq readbuf contentsLen
  let readbuf ← bufSetpos readbuf contentsLen
  let ptr ← bufGetptr readbuf ses.keys.hashsize
  let received ← readbuf.peek ptr ses.keys.hashsize
  pure (macBytes = received)

/-- Inflate `len` bytes from the position of a buffer into a new buffer. -/
def bufDecompress (keys : KeyContextDirectional σ ζ) (buf : Buffer) (len : Nat) :
    Except Exit (KeyContextDirectional σ ζ × Buffer) := do
  let ret ← bufNew (recvMaxPayloadLen + 1)
  let nextIn ← bufGetptr buf len
  let input ← buf.peek nextIn len
  match keys.zlib.inflate input ret.data.length keys.zstream with
  | none => throw (.exit "zlib error")
  | some (out, left, zstream) => do
    let ret ← ret.poke 0 out
    let ret ← bufSetlen ret out.length
    if left > 0 ∨ ret.len > recvMaxPayloadLen then
      throw (.exit "bad packet, oversized decompressed")
    pure ({ keys with zstream := zstream }, ret)

/-- Decrypt the packet in place and check that it is authentic. -/
def openReadbuf (ses : Receive σ ζ) (readbuf : Buffer) :
    Except Exit (KeyContextDirectional σ ζ × Buffer) :=
  match ses.keys.mode with
  | .aead mode => do
    let readbuf ← bufSetpos readbuf 0
    let len := sub32 (sub32 readbuf.len ses.keys.hashsize) readbuf.pos
    let src ← bufGetptr readbuf (u32 (len + ses.keys.hashsize))
    let dst ← bufGetwriteptr readbuf len
    let ct ← readbuf.peek src (u32 (len + ses.keys.hashsize))
    match mode.decrypt ses.recvseq ct ses.keys.hashsize ses.keys.cipherState with
    | none => throw (.exit "Error decrypting")
    | some (clear, cipherState) => do
      let readbuf ← readbuf.poke dst clear
      let readbuf ← bufIncrpos readbuf len
      pure ({ ses.keys with cipherState := cipherState }, readbuf)
  | .stream mode => do
    let readbuf ← bufSetpos readbuf ses.keys.blocksize
    let len := sub32 (sub32 readbuf.len ses.keys.hashsize) readbuf.pos
    let src ← bufGetptr readbuf len
    let dst ← bufGetwriteptr readbuf len
    let ct ← readbuf.peek src len
    match mode.decrypt ct ses.keys.cipherState with
    | none => throw (.exit "Error decrypting")
    | some (clear, cipherState) => do
      let readbuf ← readbuf.poke dst clear
      let readbuf ← bufIncrpos readbuf len
      let authentic ← checkmac ses readbuf
      if authentic then pure ({ ses.keys with cipherState := cipherState }, readbuf)
      else throw (.exit "Integrity error")

/-- The check of the payload length. -/
def checkPayloadSize (len : Nat) : Except Exit Unit :=
  if len > recvMaxPayloadLen + zlibCompressExpansion ∨ len < 1 then
    .error (.exit ("Bad packet size " ++ toString len))
  else .ok ()

/-- Hand over `len` bytes from the position of the packet, in its own buffer. -/
def handPlain (ses : Receive σ ζ) (keys : KeyContextDirectional σ ζ) (readbuf : Buffer)
    (len : Nat) : Except Exit (Receive σ ζ) := do
  let payload ← bufSetlen readbuf (readbuf.pos + len)
  pure { ses with
    keys := keys
    payload := some payload
    payloadBeginning := readbuf.pos
    readbuf := none
    recvseq := u32 (ses.recvseq + 1) }

/-- Hand over what `len` bytes from the position of the packet inflate to. -/
def handInflated (ses : Receive σ ζ) (keys : KeyContextDirectional σ ζ) (readbuf : Buffer)
    (len : Nat) : Except Exit (Receive σ ζ) := do
  let (keys, payload) ← bufDecompress keys readbuf len
  let payload ← bufSetpos payload 0
  pure { ses with
    keys := keys
    payload := some payload
    payloadBeginning := 0
    readbuf := none
    recvseq := u32 (ses.recvseq + 1) }

/-- The payload length, from the length of the packet: the padding, the two
length fields and the MAC are taken off in 32-bit arithmetic. -/
def payloadLength (total padlen macsize : Nat) : Nat :=
  sub32 (sub32 (sub32 (sub32 total padlen) 4) 1) macsize

/-- Hand over the payload of a decrypted packet with the given padding length. -/
def handPayload (ses : Receive σ ζ) (keys : KeyContextDirectional σ ζ) (readbuf : Buffer)
    (padlen : Nat) : Except Exit (Receive σ ζ) := do
  let len := payloadLength readbuf.len padlen ses.keys.hashsize
  checkPayloadSize len
  let readbuf ← bufSetpos readbuf 5
  if ses.compress then handInflated ses keys readbuf len else handPlain ses keys readbuf len

/-- Take the payload out of a decrypted packet. -/
def takePayload (ses : Receive σ ζ) (keys : KeyContextDirectional σ ζ) (readbuf : Buffer) :
    Except Exit (Receive σ ζ) := do
  let readbuf ← bufSetpos readbuf 4
  let (padlen, readbuf) ← bufGetbyte readbuf
  handPayload ses keys readbuf padlen.toNat

/-- Handle a packet that was read completely. -/
def decryptPacket (ses : Receive σ ζ) (readbuf : Buffer) : Except Exit (Receive σ ζ) := do
  let ses := { ses with datarecv := u32 (ses.datarecv + readbuf.len) }
  let (keys, readbuf) ← openReadbuf ses readbuf
  takePayload ses keys readbuf

/-- Read on in the remainder of a packet, and handle it when it is complete. -/
def readRemainder (ses : Receive σ ζ) (readbuf : Buffer) : Except Exit (Receive σ ζ) := do
  let maxlen := sub32 readbuf.len readbuf.pos
  if maxlen = 0 then decryptPacket ses readbuf
  else do
    let ptr ← bufGetptr readbuf maxlen
    match ses.sock.read maxlen with
    | (.eof, _) => throw ses.remoteclosed
    | (.fail errno, _) => throw (.exit ("Error reading: " ++ errno))
    | (.again, sock) => pure { ses with sock := sock }
    | (.data bytes, sock) => do
      let readbuf ← readbuf.poke ptr bytes
      let readbuf ← bufIncrpos readbuf bytes.length
      let ses := { ses with sock := sock, readbuf := some readbuf }
      if bytes.length = maxlen then decryptPacket ses readbuf else pure ses

/-- Whether the receiver is still in the first block of a packet. -/
def Receive.inFirstBlock (ses : Receive σ ζ) : Bool :=
  match ses.readbuf with
  | none => true
  | some readbuf => readbuf.len < ses.keys.blocksize

/-- Read what is there of the current packet.  Whether its length is still to be
found is decided by the length of `readbuf`. -/
def readPacket (ses : Receive σ ζ) : Except Exit (Receive σ ζ) := do
  let (started, ses) ← if ses.inFirstBlock then readPacketInit ses else pure (true, ses)
  if !started then pure ses
  else match ses.readbuf with
    | some readbuf => readRemainder ses readbuf
    | none => throw .nullDeref

/-- The calls of `read_packet` by the session loop, until one delivers a payload
or `rounds` is reached. -/
def readRounds : Nat → Receive σ ζ → Except Exit (Receive σ ζ)
  | 0, ses => pure ses
  | rounds + 1, ses =>
    if ses.payload.isSome then pure ses
    else do
      let ses ← readPacket ses
      readRounds rounds ses

end Dropbear.Packet
