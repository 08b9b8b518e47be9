/-
# Connections that are accepted

The functions that accept a connection for a listener, and `handle_listeners`, which calls
them for the sockets that are ready.  A connection is handed to a channel that is opened for
it, or closed if there is no channel to be had.  Where X11 is forwarded for a single
connection the listener is removed when that is accepted.
-/

import Dropbear.Buffer.Consume
import Dropbear.Forwarding.Listener

namespace Dropbear.Forwarding

open Program Channels

/-- What comes of accepting a connection: its descriptor, the numeric address and port of the
peer if they can be told, and where a channel for it is allocated. -/
structure Accepted where
  fd : Option Nat
  name : Option (Bytes × Nat)
  channelAt : Address

/-- Create a new channel, and start the open request. -/
def sendMsgChannelOpenInit (opts : Opts) (fd : Nat) (type : ChanType) (channelAt : Address) :
    TableM (Option Nat) := do
  match ← newNumber with
  | none => pure none
  | some number => do
    enterChannel number channelAt (Channels.sendMsgChannelOpenInit opts number fd type)
    pure (some number)

/-- A channel is opened for a connection, with the data of its type, or the connection is
closed. -/
def handOver (opts : Opts) (fd : Nat) (type : ChanType) (channelAt : Address)
    (data : Except Exit Bytes) : ListenM Unit := do
  match ← onTable (sendMsgChannelOpenInit opts fd type channelAt) with
  | some number => do
    let data ← fromExcept data
    act (.opened fd number type data)
  | none => act (.closed fd)

/-- The address and port of the peer are taken from the socket address as they are. -/
def x11accept (opts : Opts) (accepted : Accepted) (chansess : Address) : ListenM Unit := do
  match accepted.fd with
  | none => pure ()
  | some fd => do
    act (.accepted fd)
    let forwarding ← theForwarding chansess
    -- if single-connection we close it up
    if forwarding.x11singleconn then x11cleanup chansess else pure ()
    let (addr, port) := accepted.name.getD ([], 0)
    handOver opts fd .chanX11 accepted.channelAt (.ok (wireString addr ++ be32 port))

def agentaccept (opts : Opts) (accepted : Accepted) : ListenM Unit := do
  match accepted.fd with
  | none => pure ()
  | some fd => do
    act (.accepted fd)
    handOver opts fd .chanSvrAgent accepted.channelAt (.ok [])

/-- The address and port that were connected, or those to connect to. -/
def connectedTo (tcpinfo : FwdListener) : Bytes × Nat :=
  match tcpinfo.fwdType with
  | .direct => (tcpinfo.sendaddr.getD (ascii "localhost"), tcpinfo.sendport)
  | .forwarded => (tcpinfo.requestListenaddr.getD (ascii "localhost"), tcpinfo.listenport)

def tcpAcceptor (opts : Opts) (accepted : Accepted) (tcpinfo : FwdListener) : ListenM Unit := do
  match accepted.fd with
  | none => pure ()
  | some fd => do
    act (.accepted fd)
    match accepted.name with
    | none => act (.closed fd)
    | some (ipstring, originator) =>
      let (addr, port) := connectedTo tcpinfo
      handOver opts fd tcpinfo.chantype accepted.channelAt
        (.ok (wireString (cString addr) ++ be32 port ++ wireString ipstring ++ be32 originator))

def streamlocalAcceptor (opts : Opts) (accepted : Accepted) (tcpinfo : FwdListener) :
    ListenM Unit := do
  match accepted.fd with
  | none => pure ()
  | some fd => do
    act (.accepted fd)
    handOver opts fd tcpinfo.chantype accepted.channelAt
      (match tcpinfo.requestListenaddr with
        | none => .error .nullDeref
        | some path => .ok (wireString (cString path) ++ wireString []))

def acceptor (opts : Opts) (accepted : Accepted) : Acceptor → ListenM Unit
  | .x11accept chansess => x11accept opts accepted chansess
  | .agentaccept _ => agentaccept opts accepted
  | .tcpAcceptor tcpinfo => tcpAcceptor opts accepted tcpinfo
  | .streamlocalAcceptor tcpinfo => streamlocalAcceptor opts accepted tcpinfo

/-- A socket of a listener, if it is ready. -/
def handleSock (opts : Opts) (ready : Nat → Bool) (accepts : Nat → Accepted)
    (listener : Listener) (sock : Nat) : ListenM Unit :=
  if ready sock then acceptor opts (accepts sock) listener.acceptor else pure ()

/-- The sockets of the listener at an address.  Before each of them, and at the end, the
number of the sockets is read again. -/
def handleSocks (opts : Opts) (ready : Nat → Bool) (accepts : Nat → Accepted) (address : Address) :
    List Nat → ListenM Unit
  | [] => do
    let _ ← theListener address
    pure ()
  | sock :: rest => do
    let listener ← theListener address
    handleSock opts ready accepts listener sock
    handleSocks opts ready accepts address rest

/-- The listener in a slot, if there is one. -/
def handleSlot (opts : Opts) (ready : Nat → Bool) (accepts : Nat → Accepted) (index : Nat) :
    ListenM Unit := do
  match (← get).listeners[index]? with
  | some (some listener) => handleSocks opts ready accepts listener.address listener.socks
  | _ => pure ()

/-- Check each in turn. -/
def handleEach (opts : Opts) (ready : Nat → Bool) (accepts : Nat → Accepted) :
    List Nat → ListenM Unit
  | [] => pure ()
  | index :: rest => do
    handleSlot opts ready accepts index
    handleEach opts ready accepts rest

/-- No acceptor creates a listener, so the table does not get larger meanwhile. -/
def handleListeners (opts : Opts) (ready : Nat → Bool) (accepts : Nat → Accepted) :
    ListenM Unit := do
  handleEach opts ready accepts (List.range (← get).listeners.length)

end Dropbear.Forwarding
