/-
# Channels

The channels of `common-channel.c` and the channel types of the server and the
client.  A channel number is followed through the life of a session: the slot holds
the channel that has the number, or none, and the messages sent for that channel.

Descriptors that are not there are of two kinds, and the difference matters: a
descriptor that has never been set, and one that has been closed.
-/

import Dropbear.Channels.CircBuffer
import Dropbear.Packet.Context

namespace Dropbear.Channels

open Program

def recvMaxChannelDataLen : Nat := Packet.recvMaxPayloadLen - (1 + 4 + 4)

/-- A descriptor; `FD_UNINIT` and `FD_CLOSED` are the two that are none. -/
inductive Fd where
  | uninit
  | closed
  | fd (number : Nat)
  deriving DecidableEq, Repr

/-- `fd >= 0` -/
def Fd.isOpen : Fd → Bool
  | .fd _ => true
  | _ => false

/-- The channel types of the two programs. -/
inductive ChanType where
  | svrchansess
  | svrChanTcpdirect
  | svrChanStreamlocal
  | svrChanTcpremote
  | svrChanStreamlocalremote
  | chanX11
  | chanSvrAgent
  | clichansess
  | cliChanNetcat
  | cliChanTcpremote
  | cliChanTcplocal
  | cliChanAgent
  deriving DecidableEq, Repr

/-- `ses.chantypes`: the types the peer can open. -/
def chantypes (isServer : Bool) : List ChanType :=
  if isServer then [.svrchansess, .svrChanTcpdirect, .svrChanStreamlocal]
  else [.cliChanTcpremote, .cliChanAgent]

/-- The types we open ourselves. -/
def ownChantypes (isServer : Bool) : List ChanType :=
  if isServer then [.svrChanTcpremote, .svrChanStreamlocalremote, .chanX11, .chanSvrAgent]
  else [.clichansess, .cliChanNetcat, .cliChanTcplocal]

/-- How a child process ended.  `exitpid` is −1 as long as it has not. -/
structure ExitInfo where
  exitpid : Int
  exitstatus : Nat
  exitsignal : Int
  exitcore : Bool
  deriving DecidableEq, Repr

/-- `struct ChanSess`: the process of a server session.  `pid` is 0 as long as there
is none. -/
structure ChanSess where
  pid : Nat
  cmd : Option Bytes
  originalCommand : Option Bytes
  master : Option Nat
  tty : Bool
  term : Option Bytes
  exit : ExitInfo
  deriving DecidableEq, Repr

structure Channel where
  index : Nat
  type : ChanType
  remotechan : Nat
  recvwindow : Nat
  transwindow : Nat
  recvdonelen : Nat
  recvmaxpacket : Nat
  transmaxpacket : Nat
  typedata : Option ChanSess
  writefd : Fd
  readfd : Fd
  errfd : Fd
  bidirFd : Bool
  writebuf : CircBuffer
  extrabuf : Option CircBuffer
  sentClose : Bool
  recvClose : Bool
  recvEof : Bool
  sentEof : Bool
  flushing : Bool
  connPending : Bool
  awaitOpen : Bool
  readMangler : Bool
  deriving DecidableEq, Repr

/-- The messages that are sent for a channel. -/
inductive Message where
  | openInit (index recvwindow recvmaxpacket : Nat)
  | openConfirmation (remotechan index recvwindow recvmaxpacket : Nat)
  | openFailure (remotechan reason : Nat)
  | windowAdjust (remotechan incr : Nat)
  | data (remotechan : Nat) (bytes : Bytes)
  | extendedData (remotechan : Nat) (bytes : Bytes)
  | eof (remotechan : Nat)
  | close (remotechan : Nat)
  | request (remotechan : Nat) (type : Bytes)
  | success (remotechan : Nat)
  | failure (remotechan : Nat)
  deriving DecidableEq, Repr

/-- The data for the write descriptor, of which the program keeps no record: what was
taken from the peer's messages, what has been written, and whether a write has
failed. -/
structure Stream where
  taken : Bytes
  written : Bytes
  broken : Bool
  deriving DecidableEq, Repr

def Stream.empty : Stream where
  taken := []
  written := []
  broken := false

/-- What the peer has allowed us to send: the window it announced and its increments,
and the largest packet; and whether more was ever taken off the window than it held. -/
structure Allowance where
  budget : Nat
  maxpacket : Nat
  overdrawn : Bool
  deriving DecidableEq, Repr

/-- A channel on which nothing may be sent. -/
def Allowance.nothing : Allowance where
  budget := 0
  maxpacket := 0
  overdrawn := false

/-- A channel number: the channel that has it, the messages sent for this channel,
the number of bytes of channel data the peer has sent on it, the data for the write
descriptor, and what the peer has allowed. -/
structure Slot where
  channel : Option Channel
  sent : List Message
  arrived : Nat
  stream : Stream
  allowance : Allowance
  deriving DecidableEq, Repr

/-- A channel number that no channel has. -/
def Slot.free : Slot where
  channel := none
  sent := []
  arrived := 0
  stream := .empty
  allowance := .nothing

/-- The options that the functions on channels read: whether the program was built
with `writev`, the receive window, the options of the client's session, and those of
the server's.  `signame` is the table of signals. -/
structure Opts where
  isServer : Bool
  haveWritev : Bool
  recvWindow : Nat
  agentFwd : Bool
  wantpty : Bool
  cmd : Option Bytes
  isSubsystem : Bool
  forcedCommand : Option Bytes
  pubkeyForcedCommand : Option Bytes
  allowsPty : Bool
  signame : Int → Option Bytes

abbrev ChanM := EStateM Exit Slot

def fromResult {α : Type} : Except Exit α → ChanM α
  | .ok value => pure value
  | .error failure => throw failure

/-- The channel a function has a pointer to. -/
def theChannel : ChanM Channel := do
  match (← get).channel with
  | some channel => pure channel
  | none => throw .nullDeref

def setChannel (channel : Channel) : ChanM Unit :=
  modify fun slot => { slot with channel := some channel }

/-- Give a message to `encrypt_packet`. -/
def send (message : Message) : ChanM Unit :=
  modify fun slot => { slot with sent := slot.sent ++ [message] }

/-! ## Creation and removal -/

/-- A new channel takes the number. -/
def takeNumber : ChanM Unit := set Slot.free

def newchannel (opts : Opts) (index remotechan : Nat) (type : ChanType)
    (transwindow transmaxpacket : Nat) : Except Exit Channel := do
  let writebuf ← cbufNew opts.recvWindow
  pure
    { index := index
      type := type
      remotechan := remotechan
      recvwindow := opts.recvWindow
      transwindow := transwindow
      recvdonelen := 0
      recvmaxpacket := recvMaxChannelDataLen
      transmaxpacket := transmaxpacket
      typedata := none
      writefd := .uninit
      readfd := .uninit
      errfd := .closed
      bidirFd := false
      writebuf := writebuf
      extrabuf := none
      sentClose := false
      recvClose := false
      recvEof := false
      sentEof := false
      flushing := false
      connPending := false
      awaitOpen := false
      readMangler := false }

/-- Both sides have sent their close, or the channel was never opened.  A pending
connection no longer calls back. -/
def removeChannel : ChanM Unit := modify fun slot => { slot with channel := none }

/-! ## Descriptors -/

/-- `ERRFD_IS_READ`: without a buffer for it the error descriptor is read from. -/
def Channel.errfdIsRead (channel : Channel) : Bool := channel.extrabuf.isNone

inductive How where
  | shutRd
  | shutWr
  | shutRdwr
  deriving DecidableEq, Repr

/-- A descriptor used in both directions is shut down in one of them, any other is
closed wherever it is used. -/
def closeChanFd (channel : Channel) (fd : Fd) (how : How) : Channel :=
  let closeout := !channel.bidirFd || how = .shutRd
  let closein := !channel.bidirFd || how ≠ .shutRd
  { channel with
    readfd := if closeout ∧ fd = channel.readfd then .closed else channel.readfd
    errfd :=
      if closeout ∧ channel.errfdIsRead ∧ fd = channel.errfd then .closed
      else if closein ∧ ¬ channel.errfdIsRead ∧ fd = channel.errfd then .closed
      else channel.errfd
    writefd := if closein ∧ fd = channel.writefd then .closed else channel.writefd }

/-- There is data to be written to the local side. -/
def writePending (channel : Channel) : Bool :=
  (channel.writefd.isOpen && cbufGetused channel.writebuf > 0) ||
    (channel.errfd.isOpen && channel.extrabuf.any (cbufGetused · > 0))

/-! ## Messages -/

def sendMsgChannelEof : ChanM Unit := do
  let channel ← theChannel
  send (.eof channel.remotechan)
  setChannel { channel with sentEof := true }

/-- `send_msg_chansess_exitstatus` and `send_msg_chansess_exitsignal`; a signal
without a name is not sent. -/
def sendExitsignalstatus (opts : Opts) (remotechan : Nat) (chansess : ChanSess) : ChanM Unit :=
  if chansess.exit.exitpid ≥ 0 then
    if chansess.exit.exitsignal > 0 then
      match opts.signame chansess.exit.exitsignal with
      | none => pure ()
      | some _ => send (.request remotechan (ascii "exit-signal"))
    else if ¬ chansess.exit.exitsignal = -1 then
      throw (.assertion "chansess->exit.exitsignal == -1")
    else send (.request remotechan (ascii "exit-status"))
  else pure ()

/-- `closehandler` of the channel type. -/
def closehandler (opts : Opts) (channel : Channel) : ChanM Unit :=
  match channel.type, channel.typedata with
  | .svrchansess, some chansess => sendExitsignalstatus opts channel.remotechan chansess
  | _, _ => pure ()

/-- Set the channel as closed. -/
def markClosed (channel : Channel) : Channel :=
  let channel := { channel with sentEof := true, sentClose := true }
  let channel := closeChanFd channel channel.readfd .shutRd
  let channel := closeChanFd channel channel.errfd .shutRdwr
  closeChanFd channel channel.writefd .shutWr

def sendMsgChannelClose (opts : Opts) : ChanM Unit := do
  let channel ← theChannel
  closehandler opts channel
  send (.close channel.remotechan)
  setChannel (markClosed channel)

def sendMsgChannelFailure : ChanM Unit := do
  let channel ← theChannel
  if channel.sentClose then pure () else send (.failure channel.remotechan)

def sendMsgChannelSuccess : ChanM Unit := do
  let channel ← theChannel
  if channel.sentClose then pure () else send (.success channel.remotechan)

def sendMsgChannelOpenConfirmation : ChanM Unit := do
  let channel ← theChannel
  send (.openConfirmation channel.remotechan channel.index channel.recvwindow
    channel.recvmaxpacket)

/-- The part of `start_send_channel_request` and its callers that is visible here. -/
def sendChannelRequest (type : String) : ChanM Unit := do
  let channel ← theChannel
  send (.request channel.remotechan (ascii type))

end Dropbear.Channels
