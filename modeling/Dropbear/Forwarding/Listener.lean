/-
# Listeners

`listener.c`.  The listening sockets of a session are in a table, each with a function that
accepts a connection and, for some, one that cleans up.  X11 and the agent are forwarded for a
session channel, which points to its listeners, and they point back to it.  A listener is
memory that is freed when it is removed, so pointers are addresses, and following one that
nothing is at ends the program.
-/

import Dropbear.Channels.Table

namespace Dropbear.Forwarding

open Program Channels

def maxListeners : Nat := 20
def listenerExtendSize : Nat := 1

inductive ListenerType where
  | default
  | tcpforwarded
  | streamforwarded
  deriving DecidableEq, Repr

/-- The number that stands for the type. -/
def ListenerType.code : ListenerType → Nat
  | .default => 0
  | .tcpforwarded => 1
  | .streamforwarded => 2

inductive FwdType where
  | direct
  | forwarded
  deriving DecidableEq, Repr

/-- `struct FwdListener` -/
structure FwdListener where
  sendaddr : Option Bytes
  sendport : Nat
  listenaddr : Option Bytes
  listenport : Nat
  requestListenaddr : Option Bytes
  chantype : ChanType
  fwdType : FwdType
  socketPath : Option Bytes
  deriving DecidableEq, Repr

/-- What accepts a connection, with its data: the session channel the listener belongs to, or
the forward. -/
inductive Acceptor where
  | x11accept (chansess : Address)
  | agentaccept (chansess : Address)
  | tcpAcceptor (tcpinfo : FwdListener)
  | streamlocalAcceptor (tcpinfo : FwdListener)
  deriving DecidableEq, Repr

/-- The type such a listener is created with. -/
def Acceptor.type : Acceptor → ListenerType
  | .x11accept _ => .default
  | .agentaccept _ => .default
  | .tcpAcceptor _ => .tcpforwarded
  | .streamlocalAcceptor _ => .streamforwarded

structure Listener where
  address : Address
  socks : List Nat
  index : Nat
  acceptor : Acceptor
  deriving DecidableEq, Repr

/-- What a session channel has to do with listeners. -/
structure ChanSessFwd where
  x11singleconn : Bool
  x11listener : Option Address
  agentlistener : Option Address
  deriving DecidableEq, Repr

/-- What is forwarded for a session channel. -/
inductive Forwarded where
  | x11
  | agent
  deriving DecidableEq, Repr

namespace Forwarded

def acceptor : Forwarded → Address → Acceptor
  | .x11 => .x11accept
  | .agent => .agentaccept

/-- The pointer of the session channel to the listener. -/
def pointer : Forwarded → ChanSessFwd → Option Address
  | .x11 => ChanSessFwd.x11listener
  | .agent => ChanSessFwd.agentlistener

def point (kind : Forwarded) (listener : Option Address) (forwarding : ChanSessFwd) :
    ChanSessFwd :=
  match kind with
  | .x11 => { forwarding with x11listener := listener }
  | .agent => { forwarding with agentlistener := listener }

end Forwarded

/-- Nothing is forwarded. -/
def ChanSessFwd.off : ChanSessFwd where
  x11singleconn := false
  x11listener := none
  agentlistener := none

/-- What the program does to the world. -/
inductive Act where
  | accepted (fd : Nat)
  /-- A channel is opened for a connection, with the data of its type. -/
  | opened (fd number : Nat) (type : ChanType) (data : Bytes)
  | closed (fd : Nat)
  | unlinked (path : Bytes)
  | connectRemote (host : Bytes) (port : Nat)
  | connectStreamlocal (path : Bytes)
  | requestSuccess (data : Bytes)
  | requestFailure
  deriving DecidableEq, Repr

/-- `ses.listeners`, with the channels of the session; `ses.listensize` is the length of the
former. -/
structure Listening where
  listeners : List (Option Listener)
  forwarding : Address → ChanSessFwd
  table : Table
  acts : List Act

/-- Just one slot to start with. -/
def listenersInitialise : Listening where
  listeners := [none]
  forwarding := fun _ => .off
  table := chaninitialise
  acts := []

abbrev ListenM := EStateM Fault Listening

def act (done : Act) : ListenM Unit := modify fun ses => { ses with acts := ses.acts ++ [done] }

def fromExcept {α : Type} : Except Exit α → ListenM α
  | .ok value => pure value
  | .error failure => throw (.exit failure)

/-- Do something to the channels. -/
def onTable {α : Type} (run : TableM α) : ListenM α := fun ses =>
  match run ses.table with
  | .ok value table => .ok value { ses with table := table }
  | .error failure table => .error failure { ses with table := table }

namespace Listening

/-- The listener at an address. -/
def listenerAt (ses : Listening) (address : Address) : Option Listener :=
  ses.listeners.findSome? (Option.filter (·.address = address))

/-- The memory in use. -/
def allocated (ses : Listening) : List Address := ses.listeners.reduceOption.map Listener.address

def setForwarding (ses : Listening) (chansess : Address) (change : ChanSessFwd → ChanSessFwd) :
    Listening :=
  { ses with
    forwarding := Function.update ses.forwarding chansess (change (ses.forwarding chansess)) }

end Listening

/-- A listener that is pointed to. -/
def theListener (address : Address) : ListenM Listener := do
  match (← get).listenerAt address with
  | some listener => pure listener
  | none => throw .dangling

def setForwarding (chansess : Address) (change : ChanSessFwd → ChanSessFwd) : ListenM Unit :=
  modify fun ses => ses.setForwarding chansess change

/-- Close descriptors. -/
def closeAll (socks : List Nat) : ListenM Unit :=
  modify fun ses => { ses with acts := ses.acts ++ socks.map .closed }

/-! ## The table -/

/-- The slot of a new listener.  Try get a new structure to hold it, or create a new one. -/
def newSlot : ListenM (Option Nat) := do
  let ses ← get
  match ses.listeners.findIdx? Option.isNone with
  | some index => pure (some index)
  | none =>
    if ses.listeners.length > maxListeners then pure none
    else do
      set { ses with listeners := ses.listeners ++ List.replicate listenerExtendSize none }
      pure (some ses.listeners.length)

/-- The sockets are closed if there is no room. -/
def newListener (socks : List Nat) (acceptor : Acceptor) (listenerAt : Address) :
    ListenM (Option Address) := do
  match ← newSlot with
  | none => do
    closeAll socks
    pure none
  | some index => do
    let ses ← get
    let address := malloc ses.allocated listenerAt
    let listener : Listener :=
      { address := address
        socks := socks
        index := index
        acceptor := acceptor }
    set { ses with listeners := ses.listeners.set index (some listener) }
    pure (some address)

/-- Return the first listener which matches the type-specific comparison function. -/
def getListener (code : Nat) (fits : Acceptor → Bool) : ListenM (Option Address) := do
  let found := (← get).listeners.findSome?
    (Option.filter fun listener => listener.acceptor.type.code = code && fits listener.acceptor)
  pure (found.map Listener.address)

def unlinkStreamsocket (path : Bytes) : ListenM Unit := act (.unlinked (cString path))

/-- The cleanup function of a listener: `cleanup_tcp` only frees memory, and X11 and the
agent have none. -/
def cleanup : Acceptor → ListenM Unit
  | .streamlocalAcceptor tcpinfo =>
    match tcpinfo.socketPath with
    | some path => unlinkStreamsocket path
    | none => pure ()
  | _ => pure ()

def removeListener (address : Address) : ListenM Unit := do
  let listener ← theListener address
  cleanup listener.acceptor
  closeAll listener.socks
  modify fun ses => { ses with listeners := ses.listeners.set listener.index none }

/-! ## The listeners of a session channel -/

/-- The session channels, by their addresses. -/
def hasSession (table : Table) (chansess : Address) : Bool :=
  table.channels.any fun entry =>
    entry.address = chansess && entry.slot.channel.any (·.type = .svrchansess)

/-- A session channel that is pointed to. -/
def theForwarding (chansess : Address) : ListenM ChanSessFwd := do
  let ses ← get
  if hasSession ses.table chansess then pure (ses.forwarding chansess) else throw .dangling

/-- Remove the listener, if there is one, and forget it. -/
def cleanupListener (kind : Forwarded) (chansess : Address) : ListenM Unit := do
  match kind.pointer ((← get).forwarding chansess) with
  | none => pure ()
  | some address => do
    removeListener address
    setForwarding chansess (kind.point none)

def x11cleanup (chansess : Address) : ListenM Unit := cleanupListener .x11 chansess

def svrAgentcleanup (chansess : Address) : ListenM Unit := cleanupListener .agent chansess

end Dropbear.Forwarding
