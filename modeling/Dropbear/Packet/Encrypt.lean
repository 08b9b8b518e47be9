/-
# Putting a packet on the write queue

`encrypt_packet` lays out length, padding length, payload and padding in a fresh
buffer, protects it with the sending context and queues it, or defers the
payload while a key exchange is in progress.  It is modelled statement by
statement on buffers, so that running out of room anywhere would show up as an
exit or an overrun.
-/

import Dropbear.Packet.Context
import Dropbear.Packet.Message

namespace Dropbear.Packet

open Program

variable {σ ζ : Type}

/-- The part of the session that sending a packet reads and writes. -/
structure Transmit (σ ζ : Type) where
  /-- `ses.keys->trans`. -/
  keys : KeyContextDirectional σ ζ
  transseq : Nat
  dataallowed : Bool
  /-- The answer of `is_compress_trans`. -/
  compress : Bool
  /-- The payloads waiting for the end of the key exchange. -/
  replyQueue : List Buffer
  writequeue : List Buffer
  datatrans : Nat

/-- Defer a payload until data is allowed again. -/
def enqueueReplyPacket (ses : Transmit σ ζ) (writepayload : Buffer) :
    Except Exit (Transmit σ ζ) := do
  let payload ← bufNewcopy writepayload
  pure { ses with replyQueue := ses.replyQueue ++ [payload] }

/-- Compress `len` bytes of `src` to the position of `dest`. -/
def bufCompress (keys : KeyContextDirectional σ ζ) (dest src : Buffer) (len : Nat) :
    Except Exit (KeyContextDirectional σ ζ × Buffer) := do
  if sub32 dest.data.length dest.pos < len + zlibCompressExpansion then
    throw (.assertion "dest->size - dest->pos >= len+ZLIB_COMPRESS_EXPANSION")
  let availIn := sub32 (src.pos + len) src.pos
  let nextIn ← bufGetptr src availIn
  let input ← src.peek nextIn availIn
  let availOut := sub32 dest.data.length dest.pos
  let nextOut ← bufGetwriteptr dest availOut
  match keys.zlib.deflate input availOut keys.zstream with
  | none => throw (.exit "zlib error")
  | some (out, left, zstream) => do
    let dest ← dest.poke nextOut out
    let dest ← bufSetlen dest (dest.data.length - (availOut - out.length))
    let dest ← bufSetpos dest dest.len
    if left ≠ 0 then throw (.assertion "ses.keys->trans.zstream->avail_in == 0")
    pure ({ keys with zstream := zstream }, dest)

/-- The space `encrypt_packet` allocates for a payload. -/
def encryptBufSize (keys : KeyContextDirectional σ ζ) (len : Nat) : Nat :=
  (len + 4 + 1) + max minPacketLen keys.blocksize + 3 + keys.hashsize + zlibCompressExpansion + 1

/-- The length of the padding for a packet that so far has `writebufLen` bytes. -/
def paddingLength (blocksize : Nat) (aead : Bool) (writebufLen : Nat) : Nat :=
  let len := if aead then sub32 writebufLen 4 else writebufLen
  let padlen := blocksize - len % blocksize
  let padlen := if padlen < 4 then padlen + blocksize else padlen
  if writebufLen + padlen < minPacketLen then padlen + blocksize else padlen

/-- Copy or compress the payload behind the room for the header. -/
def putPayload (ses : Transmit σ ζ) (writebuf writepayload : Buffer) :
    Except Exit (KeyContextDirectional σ ζ × Buffer) :=
  if ses.compress then bufCompress ses.keys writebuf writepayload writepayload.len
  else do
    let dst ← bufGetwriteptr writebuf writepayload.len
    let src ← bufGetptr writepayload writepayload.len
    let bytes ← writepayload.peek src writepayload.len
    let writebuf ← writebuf.poke dst bytes
    let writebuf ← bufIncrwritepos writebuf writepayload.len
    pure (ses.keys, writebuf)

/-- Fill in the header and append the padding. -/
def putHeader (random : Nat → UInt8) (keys : KeyContextDirectional σ ζ) (writebuf : Buffer) :
    Except Exit Buffer := do
  let padlen := paddingLength keys.blocksize keys.mode.isAead writebuf.len
  let writebuf ← bufSetpos writebuf 0
  let writebuf ← bufPutint writebuf (sub32 (writebuf.len + padlen) 4)
  let writebuf ← bufPutbyte writebuf padlen.toUInt8
  let writebuf ← bufSetpos writebuf writebuf.len
  let writebuf ← bufIncrlen writebuf padlen
  let ptr ← bufGetptr writebuf padlen
  writebuf.poke ptr ((List.range padlen).map random)

/-- Encrypt the laid-out packet in place and add its MAC. -/
def protectWritebuf (keys : KeyContextDirectional σ ζ) (transseq : Nat) (writebuf : Buffer) :
    Except Exit (KeyContextDirectional σ ζ × Buffer) :=
  match keys.mode with
  | .aead mode => do
    let writebuf ← bufSetpos writebuf 0
    let len := writebuf.len
    let writebuf ← bufIncrlen writebuf keys.hashsize
    let src ← bufGetptr writebuf len
    let dst ← bufGetwriteptr writebuf (len + keys.hashsize)
    let clear ← writebuf.peek src len
    match mode.encrypt transseq clear keys.hashsize keys.cipherState with
    | none => throw (.exit "Error encrypting")
    | some (protected_, cipherState) => do
      let writebuf ← writebuf.poke dst protected_
      let writebuf ← bufIncrpos writebuf (len + keys.hashsize)
      pure ({ keys with cipherState := cipherState }, writebuf)
  | .stream mode => do
    let (macBytes, writebuf) ← makeMac keys transseq writebuf writebuf.len
    let writebuf ← bufSetpos writebuf 0
    let len := writebuf.len
    let src ← bufGetptr writebuf len
    let dst ← bufGetwriteptr writebuf len
    let clear ← writebuf.peek src len
    match mode.encrypt clear keys.cipherState with
    | none => throw (.exit "Error encrypting")
    | some (protected_, cipherState) => do
      let writebuf ← writebuf.poke dst protected_
      let writebuf ← bufIncrpos writebuf len
      let writebuf ← bufPutbytes writebuf macBytes
      pure ({ keys with cipherState := cipherState }, writebuf)

/-- Frame a payload, protect it and put it on the write queue. -/
def enqueuePacket (random : Nat → UInt8) (ses : Transmit σ ζ) (writepayload : Buffer) :
    Except Exit (Transmit σ ζ) := do
  let writebuf ← bufNew (encryptBufSize ses.keys writepayload.len)
  let writebuf ← bufSetlen writebuf 5
  let writebuf ← bufSetpos writebuf 5
  let (keys, writebuf) ← putPayload ses writebuf writepayload
  let writebuf ← putHeader random keys writebuf
  let (keys, writebuf) ← protectWritebuf keys ses.transseq writebuf
  let writebuf' ← bufSetpos writebuf 0
  pure { ses with
    keys := keys
    datatrans := u32 (ses.datatrans + writebuf.len)
    writequeue := ses.writequeue ++ [writebuf']
    transseq := u32 (ses.transseq + 1) }

/-- Send a payload: queue it at once, or defer it when its type has to wait for
the end of the key exchange. -/
def encryptPacket (random : Nat → UInt8) (ses : Transmit σ ζ) (writepayload : Buffer) :
    Except Exit (Transmit σ ζ) := do
  let writepayload ← bufSetpos writepayload 0
  let (packetType, writepayload) ← bufGetbyte writepayload
  let writepayload ← bufSetpos writepayload 0
  if !ses.dataallowed && !packetIsOkayKex packetType.toNat then
    enqueueReplyPacket ses writepayload
  else enqueuePacket random ses writepayload

end Dropbear.Packet
