/-
# Channel data

Data from the peer is written to the local side at once as far as that is
possible, and the rest is kept in a circular buffer.  What has been written is
credited to the peer in portions.  Data from the local side is sent as far as the
peer's window allows.

The results of the system calls are arguments.
-/

import Dropbear.Channels.Basic

namespace Dropbear.Channels

open Program

/-- The result of `writev`: how much was written, or an error, which is passing for
`EINTR` and `EAGAIN`. -/
inductive WriteResult where
  | wrote (count : Nat)
  | failed (passing : Bool)
  deriving DecidableEq, Repr

/-- The result of `read`.  Nothing at all is the end of the file. -/
inductive ReadResult where
  | got (bytes : Bytes)
  | failed (interrupted : Bool)
  deriving DecidableEq, Repr

/-- The two buffers for data from the peer, and the descriptors they go to. -/
inductive Into where
  | writebuf
  | extrabuf
  deriving DecidableEq, Repr

namespace Channel

def cbuf (channel : Channel) : Into → Option CircBuffer
  | .writebuf => some channel.writebuf
  | .extrabuf => channel.extrabuf

def setCbuf (channel : Channel) (cbuf : CircBuffer) : Into → Channel
  | .writebuf => { channel with writebuf := cbuf }
  | .extrabuf => { channel with extrabuf := some cbuf }

def fdInto (channel : Channel) : Into → Fd
  | .writebuf => channel.writefd
  | .extrabuf => channel.errfd

end Channel

/-! ## To the local side -/

/-- Write what is buffered, and `moredata` behind it.  Returns whether the
descriptor is still good, and how much of `moredata` was written. -/
def writechannelWritev (channel : Channel) (into : Into) (moredata : Option Bytes)
    (result : WriteResult) : Except Exit (Channel × Bool × Nat) :=
  match channel.cbuf into with
  | none => .error .nullDeref
  | some cbuf => do
    let (circ1, circ2) ← cbufReadptrs cbuf
    let circ := circ1.length + circ2.length
    if circ = 0 ∧ moredata = none then pure (channel, true, 0)
    else
      match result with
      | .failed true => pure (channel, true, 0)
      | .failed false => pure (closeChanFd channel (channel.fdInto into) .shutWr, false, 0)
      | .wrote count => do
        let written := min count (circ + (moredata.getD []).length)
        let cbufWritten := min circ written
        let cbuf ← cbufIncrread cbuf cbufWritten
        let channel := channel.setCbuf cbuf into
        pure ({ channel with recvdonelen := u32 (channel.recvdonelen + written) }, true,
          written - cbufWritten)

/-- Where there is no `writev`: write the first portion of what is buffered, and none of
`moredata`. -/
def writechannelFallback (channel : Channel) (into : Into) (result : WriteResult) :
    Except Exit (Channel × Bool × Nat) :=
  match channel.cbuf into with
  | none => .error .nullDeref
  | some cbuf => do
    let (circ1, _) ← cbufReadptrs cbuf
    match result with
    | .failed true => pure (channel, true, 0)
    | .failed false => pure (closeChanFd channel (channel.fdInto into) .shutWr, false, 0)
    | .wrote count => do
      let written := min count circ1.length
      let cbuf ← cbufIncrread cbuf written
      let channel := channel.setCbuf cbuf into
      pure ({ channel with recvdonelen := u32 (channel.recvdonelen + written) }, true, 0)

/-- One of the two, as the program was built. -/
def writechannelOnce (opts : Opts) (channel : Channel) (into : Into) (moredata : Option Bytes)
    (result : WriteResult) : Except Exit (Channel × Bool × Nat) :=
  if opts.haveWritev then writechannelWritev channel into moredata result
  else writechannelFallback channel into result

/-- The bytes handed to the system call, if it is made. -/
def handed (opts : Opts) (channel : Channel) (into : Into) (moredata : Option Bytes) :
    Option Bytes :=
  match channel.cbuf into with
  | none => none
  | some cbuf =>
    match cbufReadptrs cbuf with
    | .error _ => none
    | .ok (circ1, circ2) =>
      if opts.haveWritev then
        if circ1 ++ circ2 = [] ∧ moredata = none then none
        else some (circ1 ++ circ2 ++ moredata.getD [])
      else some circ1

/-- Only what is for the write descriptor is recorded. -/
def Into.recorded : Into → (after before : Stream) → Stream
  | .writebuf, after, _ => after
  | .extrabuf, _, before => before

namespace Stream

/-- What becomes of bytes handed to the system call. -/
def write (stream : Stream) (bytes : Bytes) : WriteResult → Stream
  | .wrote count => { stream with written := stream.written ++ bytes.take count }
  | .failed passing => { stream with broken := stream.broken || !passing }

def afterCall (stream : Stream) (opts : Opts) (channel : Channel) (into : Into)
    (moredata : Option Bytes) (result : WriteResult) : Stream :=
  match handed opts channel into moredata with
  | some bytes => into.recorded (stream.write bytes result) stream
  | none => stream

/-- Data is taken from a message. -/
def take (stream : Stream) (bytes : Bytes) (into : Into) : Stream :=
  into.recorded { stream with taken := stream.taken ++ bytes } stream

end Stream

def noteStream (change : Stream → Stream) : ChanM Unit :=
  modify fun slot => { slot with stream := change slot.stream }

/-- `RECV_WINDOWEXTEND` -/
def recvWindowextend (opts : Opts) : Nat := opts.recvWindow / 3

/-- Credit what was written, once it is enough. -/
def extendWindow (opts : Opts) : ChanM Unit := do
  let channel ← theChannel
  if channel.recvdonelen ≥ recvWindowextend opts then do
    send (.windowAdjust channel.remotechan channel.recvdonelen)
    setChannel
      { channel with
        recvwindow := u32 (channel.recvwindow + channel.recvdonelen)
        recvdonelen := 0 }
  else pure ()

/-- The assertions at the end of `writechannel`. -/
def assertWindow (opts : Opts) (channel : Channel) : Except Exit Unit :=
  if ¬ channel.recvwindow ≤ opts.recvWindow then
    .error (.assertion "channel->recvwindow <= opts.recv_window")
  else if ¬ channel.recvwindow ≤ cbufGetavail channel.writebuf then
    .error (.assertion "channel->recvwindow <= cbuf_getavail(channel->writebuf)")
  else if ¬ (channel.extrabuf.all (channel.recvwindow ≤ cbufGetavail ·)) then
    .error (.assertion
      "channel->extrabuf == NULL || channel->recvwindow <= cbuf_getavail(channel->extrabuf)")
  else .ok ()

def writechannel (opts : Opts) (into : Into) (moredata : Option Bytes) (result : WriteResult) :
    ChanM (Bool × Nat) := do
  let channel ← theChannel
  noteStream fun stream => stream.afterCall opts channel into moredata result
  let (channel, good, consumed) ← fromResult (writechannelOnce opts channel into moredata result)
  setChannel channel
  extendWindow opts
  let channel ← theChannel
  fromResult (assertWindow opts channel)
  pure (good, consumed)

/-- Keep `len` bytes of the packet.  We may have to run through twice, if the buffer
wraps around; the counter runs out only if a round stores nothing. -/
def storeLoop : Nat → CircBuffer → Buffer → (len : Nat) → Except Exit CircBuffer
  | _, cbuf, _, 0 => .ok cbuf
  | 0, _, _, _ + 1 => .error .stuck
  | n + 1, cbuf, payload, len + 1 => do
    let room ← cbufWritelen cbuf
    let buflen := min room (len + 1)
    let ptr ← bufGetptr payload buflen
    let bytes ← payload.peek ptr buflen
    let cbuf ← cbufPut cbuf bytes
    let cbuf ← cbufIncrwrite cbuf buflen
    let payload ← bufIncrpos payload buflen
    storeLoop n cbuf payload (len + 1 - buflen)

/-- The rest of the data goes to the buffer, unless writing failed. -/
def storeRest (into : Into) (payload : Buffer) (good : Bool) (len : Nat) : ChanM Unit :=
  if good then do
    let channel ← theChannel
    match channel.cbuf into with
    | none => throw .nullDeref
    | some cbuf => do
      let cbuf ← fromResult (storeLoop len cbuf payload len)
      setChannel (channel.setCbuf cbuf into)
  else pure ()

/-- The number of bytes the peer has sent, of which the program keeps no record. -/
def countArrived (datalen : Nat) : ChanM Unit :=
  modify fun slot => { slot with arrived := slot.arrived + datalen }

/-- Take `datalen` bytes off the window. -/
def takeWindow (opts : Opts) (datalen : Nat) : ChanM Unit := do
  let channel ← theChannel
  if ¬ channel.recvwindow ≥ datalen then throw (.assertion "channel->recvwindow >= datalen")
  else do
    let channel := { channel with recvwindow := sub32 channel.recvwindow datalen }
    setChannel channel
    if ¬ channel.recvwindow ≤ opts.recvWindow then
      throw (.assertion "channel->recvwindow <= opts.recv_window")
    else pure ()

/-- Data that fits the window: written as far as it can be, and the rest is kept. -/
def acceptData (opts : Opts) (into : Into) (payload : Buffer) (datalen : Nat)
    (result : WriteResult) : ChanM Unit := do
  takeWindow opts datalen
  let ptr ← fromResult (bufGetptr payload datalen)
  let bytes ← fromResult (payload.peek ptr datalen)
  noteStream fun stream => stream.take bytes into
  let (good, consumed) ← writechannel opts into (some bytes) result
  let payload ← fromResult (bufIncrpos payload consumed)
  storeRest into payload good (datalen - consumed)

/-- A failed write, or nothing to write to: we just drop the data. -/
def dropData (payload : Buffer) : ChanM Unit :=
  match bufGetint payload with
  | .ok (datalen, _) => countArrived datalen
  | .error _ => pure ()

/-- We receive data.  `payload` is the packet from the length of the data on. -/
def commonRecvMsgChannelData (opts : Opts) (into : Into) (payload : Buffer)
    (result : WriteResult) : ChanM Unit := do
  let channel ← theChannel
  if channel.recvEof then throw (.exit "Received data after eof")
  else
    match channel.fdInto into, channel.cbuf into with
    | .fd _, some cbuf => do
      let (datalen, payload) ← fromResult (bufGetint payload)
      countArrived datalen
      if datalen > cbufGetavail cbuf then throw (.exit "Oversized packet")
      else acceptData opts into payload datalen result
    | _, _ => dropData payload

/-! ## From the local side -/

/-- The most that can be sent in one message. -/
def maxSend (channel : Channel) (isextended : Bool) : Nat :=
  min (min channel.transwindow channel.transmaxpacket)
    (Packet.transMaxPayloadLen - 1 - 4 - 4 - (if isextended then 4 else 0))

/-- `DROPBEAR_ESCAPE_CHAR` -/
def escapeChar : UInt8 := 126

/-- Returns whether the character should be consumed. -/
def doEscape (c : UInt8) : Except Exit Bool :=
  if c = 46 then .error (.exit "Terminated")
  else if c = 0x1a then .ok true
  else .ok (c = 82)

/-- Escape characters are only handled if they are read one at a time.  Returns the last
character, and the number of bytes that are left. -/
def cliEscapeHandler (lastChar : UInt8) : Bytes → Except Exit (UInt8 × Nat)
  | [c] =>
    if lastChar = escapeChar then do
      let skipChar ← doEscape c
      pure (0, if skipChar then 0 else 1)
    else if c = escapeChar then
      if lastChar = 13 then pure (escapeChar, 0) else pure (0, 1)
    else pure (c, 1)
  | buf => pure (0, buf.length)

/-- The number of bytes that the channel's mangler leaves. -/
def mangledLen (channel : Channel) (lastChar : UInt8) (bytes : Bytes) : Except Exit Nat :=
  if channel.readMangler then do
    let (_, len) ← cliEscapeHandler lastChar bytes
    pure len
  else pure bytes.length

def noteAllowance (change : Allowance → Allowance) : ChanM Unit :=
  modify fun slot => { slot with allowance := change slot.allowance }

/-- A packet takes `len` bytes off the window. -/
def Allowance.spend (allowance : Allowance) (len transwindow : Nat) : Allowance :=
  { allowance with overdrawn := allowance.overdrawn || decide (transwindow < len) }

/-- Send what has been read. -/
def sendData (channel : Channel) (isextended : Bool) (bytes : Bytes) : ChanM Unit := do
  noteAllowance fun allowance => allowance.spend bytes.length channel.transwindow
  setChannel { channel with transwindow := sub32 channel.transwindow bytes.length }
  send (if isextended then .extendedData channel.remotechan bytes
    else .data channel.remotechan bytes)

/-- Read from the local side and send what was read.  `lastChar` is the last character
that the client's mangler has seen. -/
def sendMsgChannelData (isextended : Bool) (result : ReadResult) (lastChar : UInt8) :
    ChanM Unit := do
  let channel ← theChannel
  let fd := if isextended then channel.errfd else channel.readfd
  if channel.sentClose then throw (.assertion "!channel->sent_close")
  else if ¬ fd.isOpen then throw (.assertion "fd >= 0")
  else if maxSend channel isextended = 0 then pure ()
  else
    match result with
    | .failed true => pure ()
    | .failed false => setChannel (closeChanFd channel fd .shutRd)
    | .got bytes =>
      let bytes := bytes.take (maxSend channel isextended)
      if bytes = [] then setChannel (closeChanFd channel fd .shutRd)
      else do
        let len ← fromResult (mangledLen channel lastChar bytes)
        if len = 0 then pure () else sendData channel isextended (bytes.take len)

end Dropbear.Channels
