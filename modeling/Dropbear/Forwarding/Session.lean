/-
# Forwarding in a session

What happens in a session as far as listeners are concerned: channels are opened and closed,
requests arrive, and sockets become ready.  A session channel that goes away takes its
listeners with it.
-/

import Dropbear.Forwarding.Requests

namespace Dropbear.Forwarding

open Program Channels

def sshOpenAdministrativelyProhibited : Nat := 1

/-- The part of `cleanupchansess` that is about listeners. -/
def cleanupchansess (chansess : Address) : ListenM Unit := do
  x11cleanup chansess
  svrAgentcleanup chansess
  setForwarding chansess fun _ => .off

def cleanupEach : List Address → ListenM Unit
  | [] => pure ()
  | chansess :: rest => do
    cleanupchansess chansess
    cleanupEach rest

/-- The session channels that are gone. -/
def goneSessions (before after : Table) : List Address :=
  (before.channels.map Entry.address).filter fun chansess =>
    hasSession before chansess && !hasSession after chansess

/-- Do something to the channels that may remove some of them. -/
def onChannels (run : TableM Unit) : ListenM Unit := do
  let before := (← get).table
  onTable run
  let after := (← get).table
  cleanupEach (goneSessions before after)

/-- There is a number for a new channel. -/
def hasRoom (table : Table) : Bool :=
  table.channels.any Entry.isNull || table.channels.length < maxChannels

/-- The peer opens a channel that is connected to an address, if that is allowed. -/
def openDirect (opts : FwdOpts) (type : ChanType) (remotechan transwindow transmaxpacket : UInt32)
    (allowed : Except Exit (Option Act)) (channelAt connectionAt : Address) : ListenM Unit := do
  if ¬ opts.chan.isServer ∨ ¬ hasRoom (← get).table then pure ()
  else do
    match ← fromExcept allowed with
    | none =>
      onChannels (openChannel opts.chan type remotechan.toNat transwindow.toNat
        transmaxpacket.toNat (.refused ⟨sshOpenAdministrativelyProhibited, by decide⟩) channelAt
        connectionAt)
    | some connect => do
      act connect
      onChannels (openChannel opts.chan type remotechan.toNat transwindow.toNat
        transmaxpacket.toNat .inProgress channelAt connectionAt)

/-- The peer opens a channel that is connected to an address. -/
def TableEvent.opensDirect : TableEvent → Bool
  | .recvOpen type _ _ _ _ _ _ => type = .svrChanTcpdirect || type = .svrChanStreamlocal
  | _ => false

/-- The session channel of a number. -/
def sessionAt (table : Table) (number : Nat) : Option Address := do
  let entry ← table.channels[number]?
  let channel ← entry.slot.channel
  if channel.type = .svrchansess then some entry.address else none

inductive FwdEvent where
  /-- Something else happens to channels. -/
  | channels (event : TableEvent)
  | openTcpdirect (remotechan transwindow transmaxpacket : UInt32) (payload : Buffer)
      (channelAt connectionAt : Address)
  | openStreamlocal (remotechan transwindow transmaxpacket : UInt32) (payload : Buffer)
      (channelAt connectionAt : Address)
  /-- 'x11-req', for the channel of a number. -/
  | x11req (number : Nat) (payload : Buffer) (outcome : Sockets)
  | agentreq (number : Nat) (outcome : Sockets)
  | globalRequest (payload : Buffer) (outcome : Sockets)
  /-- The client forwards a port, with '-L'. -/
  | localTcp (listenaddr : Option Bytes) (listenport : Nat) (remoteaddr : Bytes)
      (remoteport : Nat) (outcome : Sockets)
  | handleListeners (ready : Nat → Bool) (accepts : Nat → Accepted)

def fwdStep (opts : FwdOpts) : FwdEvent → ListenM Unit
  | .channels event =>
    if TableEvent.opensDirect event then pure ()
    else onChannels (tableStep opts.chan event)
  | .openTcpdirect remotechan transwindow transmaxpacket payload channelAt connectionAt =>
    openDirect opts .svrChanTcpdirect remotechan transwindow transmaxpacket
      ((newtcpdirect opts payload).map (Option.map fun (host, port) => .connectRemote host port))
      channelAt connectionAt
  | .openStreamlocal remotechan transwindow transmaxpacket payload channelAt connectionAt =>
    openDirect opts .svrChanStreamlocal remotechan transwindow transmaxpacket
      ((newstreamlocal opts payload).map (Option.map .connectStreamlocal)) channelAt connectionAt
  | .x11req number payload outcome => do
    match sessionAt (← get).table number with
    | none => pure ()
    | some chansess => do
      let _ ← x11req opts chansess payload outcome
      pure ()
  | .agentreq number outcome => do
    match sessionAt (← get).table number with
    | none => pure ()
    | some chansess => do
      let _ ← svrAgentreq opts chansess outcome
      pure ()
  | .globalRequest payload outcome =>
    if opts.chan.isServer then svrRecvMsgGlobalRequest opts payload outcome else pure ()
  | .localTcp listenaddr listenport remoteaddr remoteport outcome =>
    if opts.chan.isServer then pure ()
    else do
      let _ ← cliLocaltcp opts listenaddr listenport remoteaddr remoteport outcome
      pure ()
  | .handleListeners ready accepts => handleListeners opts.chan ready accepts

end Dropbear.Forwarding
