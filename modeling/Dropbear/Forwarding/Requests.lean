/-
# Requests for forwarding

The requests that create and remove listeners, and the channels that are connected to an
address of the client's choice: `svr-forward.c`, `svr-tcpfwd.c`, `svr-streamfwd.c`,
`svr-x11fwd.c`, `svr-agentfwd.c`, `tcp-accept.c` and a function of `cli-tcpfwd.c`.  What is
allowed depends on the options of the server and of the key the client has authenticated
with.
-/

import Dropbear.Auth.Options
import Dropbear.Forwarding.Accept

namespace Dropbear.Forwarding

open Program Channels Auth

def maxHostLen : Nat := 254
def ipportReserved : Nat := 1024

/-- `sizeof(addr.sun_path)` -/
def sunPathSize : Nat := 108

/-- The number `svr_cancelremotestreamlocal` gives as the type of its listeners. -/
def channelIdStreamlocalforwarded : Nat := 0x53747265

/-- The options, of the program and of the key, and how the program is built. -/
structure FwdOpts where
  chan : Opts
  keyOptions : Option PubKeyOptions
  noremotefwd : Bool
  nolocaltcp : Bool
  listenFwdAll : Bool
  allowprivport : Bool
  remoteTcpfwd : Bool
  remoteStreamfwd : Bool

/-- `svr_opts.forced_command || svr_pubkey_has_forced_command()` -/
def FwdOpts.hasForcedCommand (opts : FwdOpts) : Bool :=
  opts.chan.forcedCommand.isSome || svrPubkeyHasForcedCommand opts.keyOptions

/-- How far a socket was made to listen. -/
inductive Socket where
  | none
  | unbound (fd : Nat)
  | bound (fd : Nat)
  | listening (fd : Nat)
  deriving DecidableEq, Repr

/-- What the system makes of a request: the socket, or the sockets `dropbear_listen` returns
with the port of the first one, and where the listener is allocated. -/
structure Sockets where
  socket : Socket
  socks : Option (List Nat)
  port : Nat
  listenerAt : Address

/-! ## X11 and the agent -/

def isalnum (c : UInt8) : Bool := (48 ≤ c && c ≤ 57) || (65 ≤ c && c ≤ 90) || (97 ≤ c && c ≤ 122)

/-- Check untrusted xauth strings for metacharacters. -/
def xauthValidString (s : Bytes) : Bool := (cString s).all fun c => isalnum c || c ∈ ascii ".:/-_"

/-- A listener for a session channel, if its socket is listening. -/
def listenFor (kind : Forwarded) (chansess : Address) (outcome : Sockets) : ListenM Bool := do
  match outcome.socket with
  | .none => pure false
  | .unbound fd => do
    act (.closed fd)
    pure false
  | .bound fd => do
    act (.closed fd)
    pure false
  | .listening fd => do
    let listener ← newListener [fd] (kind.acceptor chansess) outcome.listenerAt
    setForwarding chansess (kind.point listener)
    -- there was no room, and the socket is closed for the second time
    if listener.isNone then act (.closed fd) else pure ()
    pure listener.isSome

def x11req (opts : FwdOpts) (chansess : Address) (payload : Buffer) (outcome : Sockets) :
    ListenM Bool := do
  let forwarding ← theForwarding chansess
  if ¬ svrPubkeyAllowsX11fwd opts.keyOptions then pure false
  -- we already have an x11 connection
  else if forwarding.x11listener.isSome then pure false
  else do
    let (singleconn, payload) ← fromExcept (bufGetbool payload)
    setForwarding chansess ({ · with x11singleconn := singleconn })
    let (authprot, payload) ← fromExcept (bufGetstring payload)
    let (authcookie, payload) ← fromExcept (bufGetstring payload)
    let _ ← fromExcept (bufGetint payload)
    if ¬ xauthValidString authprot ∨ ¬ xauthValidString authcookie then pure false
    else listenFor .x11 chansess outcome

/-- If it fails there is no listener to be cleaned up. -/
def svrAgentreq (opts : FwdOpts) (chansess : Address) (outcome : Sockets) : ListenM Bool := do
  let forwarding ← theForwarding chansess
  if ¬ svrPubkeyAllowsAgentfwd opts.keyOptions then pure false
  else if forwarding.agentlistener.isSome then pure false
  else listenFor .agent chansess outcome

/-! ## TCP -/

def listenTcpfwd (tcpinfo : FwdListener) (outcome : Sockets) : ListenM (Option Address) := do
  match outcome.socks with
  | none => pure none
  | some socks => newListener socks (.tcpAcceptor tcpinfo) outcome.listenerAt

/-- A port forwarded by the client. -/
def cliLocaltcp (opts : FwdOpts) (listenaddr : Option Bytes) (listenport : Nat)
    (remoteaddr : Bytes) (remoteport : Nat) (outcome : Sockets) : ListenM Bool := do
  let tcpinfo : FwdListener :=
    { sendaddr := some remoteaddr
      sendport := remoteport
      listenaddr :=
        match listenaddr with
        | some listenaddr => some listenaddr
        | none => some (if opts.listenFwdAll then [] else ascii "localhost")
      listenport := listenport
      requestListenaddr := none
      chantype := .cliChanTcplocal
      fwdType := .direct
      socketPath := none }
  let listener ← listenTcpfwd tcpinfo outcome
  pure listener.isSome

/-- The forward of a listener, whose address and port are compared; that of any other
listener is not looked at. -/
def Acceptor.forward? : Acceptor → Option FwdListener
  | .tcpAcceptor tcpinfo => some tcpinfo
  | .streamlocalAcceptor tcpinfo => some tcpinfo
  | _ => none

def matchtcp (info1 info2 : FwdListener) : Bool :=
  info1.listenport = info2.listenport &&
    info1.requestListenaddr.map cString = info2.requestListenaddr.map cString

/-- Remove the first listener of a type that matches. -/
def cancel (code : Nat) (fits : FwdListener → Bool) : ListenM Bool := do
  match ← getListener code (·.forward?.any fits) with
  | some listener => do
    removeListener listener
    pure true
  | none => pure false

/-- What a client asks to listen on. -/
def remoteTcp (opts : FwdOpts) (requestAddr : Bytes) (port : Nat) : FwdListener where
  sendaddr := none
  sendport := 0
  listenaddr :=
    -- none means "localhost only"
    if ¬ opts.listenFwdAll ∨ cString requestAddr = ascii "localhost" then none
    else some requestAddr
  listenport := port
  requestListenaddr := some requestAddr
  chantype := .svrChanTcpremote
  fwdType := .forwarded
  socketPath := none

def svrCancelremotetcp (opts : FwdOpts) (payload : Buffer) : ListenM Bool := do
  let (requestAddr, payload) ← fromExcept (bufGetstring payload)
  if requestAddr.length > maxHostLen then pure false
  else do
    let (port, _) ← fromExcept (bufGetint payload)
    cancel ListenerType.tcpforwarded.code (matchtcp (remoteTcp opts requestAddr port))

/-- The port that was bound is entered. -/
def setListenport (address : Address) (port : Nat) : ListenM Unit := do
  let listener ← theListener address
  match listener.acceptor with
  | .tcpAcceptor tcpinfo =>
    modify fun ses =>
      { ses with
        listeners := ses.listeners.set listener.index
          (some { listener with acceptor := .tcpAcceptor { tcpinfo with listenport := port } }) }
  | _ => pure ()

/-- The port asked for and the one that is listened on, where the request is granted. -/
def requestedTcp (opts : FwdOpts) (payload : Buffer) (outcome : Sockets) :
    ListenM (Option (Nat × Nat)) := do
  let (requestAddr, payload) ← fromExcept (bufGetstring payload)
  if requestAddr.length > maxHostLen then pure none
  else do
    let (port, _) ← fromExcept (bufGetint payload)
    if port ≠ 0 ∧ (port < 1 ∨ port > 65535) then pure none
    -- can't assign port < 1024 for non-root
    else if port ≠ 0 ∧ ¬ opts.allowprivport ∧ port < ipportReserved then pure none
    else if ¬ svrPubkeyAllowsRemoteTcpfwd opts.keyOptions port then pure none
    else do
      match ← listenTcpfwd (remoteTcp opts requestAddr port) outcome with
      | none => pure none
      | some listener => do
        setListenport listener outcome.port
        pure (some (port, outcome.port))

/-- Will send its own reply if needed. -/
def svrRemotetcpreq (opts : FwdOpts) (payload : Buffer) (wantreply : Bool) (outcome : Sockets) :
    ListenM Bool := do
  let granted ← requestedTcp opts payload outcome
  if wantreply then
    match granted with
    -- port is only included if allocated
    | some (port, listenport) => act (.requestSuccess (if port = 0 then be32 listenport else []))
    | none => act .requestFailure
  else pure ()
  pure granted.isSome

/-! ## Unix sockets -/

def matchstreamlocal (info1 info2 : FwdListener) : Bool :=
  match info1.socketPath, info2.socketPath with
  | some path1, some path2 => info1.chantype = info2.chantype && cString path1 = cString path2
  | _, _ => false

def remoteStreamlocal (requestPath : Bytes) : FwdListener where
  sendaddr := none
  sendport := 0
  listenaddr := none
  listenport := 0
  requestListenaddr := some requestPath
  chantype := .svrChanStreamlocalremote
  fwdType := .forwarded
  socketPath := some requestPath

def svrCancelremotestreamlocal (payload : Buffer) : ListenM Bool := do
  let (socketPath, _) ← fromExcept (bufGetstring payload)
  if socketPath.length > maxHostLen then pure false
  -- path has nul byte
  else if (cString socketPath).length ≠ socketPath.length then pure false
  else cancel channelIdStreamlocalforwarded (matchstreamlocal (remoteStreamlocal socketPath))

def listenStreamlocal (tcpinfo : FwdListener) (outcome : Sockets) : ListenM Bool := do
  match tcpinfo.socketPath with
  | none => pure false
  | some path =>
    if (cString path).length ≥ sunPathSize then pure false
    else
      match outcome.socket with
      | .none => pure false
      | .unbound fd => do
        unlinkStreamsocket path
        act (.closed fd)
        pure false
      | .bound fd => do
        unlinkStreamsocket path
        unlinkStreamsocket path
        act (.closed fd)
        pure false
      | .listening fd => do
        unlinkStreamsocket path
        match ← newListener [fd] (.streamlocalAcceptor tcpinfo) outcome.listenerAt with
        | some _ => pure true
        | none => do
          unlinkStreamsocket path
          act (.closed fd)
          pure false

/-- A request that fails frees the path of the forward, and the forward. -/
def freeForward : Option FwdListener → ListenM Bool
  | none => throw (.exit .nullDeref)
  | some _ => pure false

def svrRemotestreamlocalreq (opts : FwdOpts) (payload : Buffer) (outcome : Sockets) :
    ListenM Bool := do
  if opts.hasForcedCommand then freeForward none
  else if opts.noremotefwd ∨ ¬ svrPubkeyAllowsTcpfwd opts.keyOptions then freeForward none
  else do
    let (requestPath, _) ← fromExcept (bufGetstring payload)
    if requestPath.length > maxHostLen then freeForward none
    else if (cString requestPath).length ≠ requestPath.length then freeForward none
    else if ← listenStreamlocal (remoteStreamlocal requestPath) outcome then pure true
    else freeForward (some (remoteStreamlocal requestPath))

/-! ## Global requests -/

/-- The reply to a request, unless the handler has sent it. -/
def reply (wantreply granted : Bool) : ListenM Unit :=
  if wantreply then act (if granted then .requestSuccess [] else .requestFailure) else pure ()

/-- The handler of a request: whether it is granted, and whether there is still a reply to
be sent. -/
def globalRequest (opts : FwdOpts) (reqname : Bytes) (wantreply : Bool) (payload : Buffer)
    (outcome : Sockets) : ListenM (Bool × Bool) := do
  if opts.remoteTcpfwd ∧ cString reqname = ascii "tcpip-forward" then do
    let granted ← svrRemotetcpreq opts payload wantreply outcome
    pure (granted, false)
  else if opts.remoteTcpfwd ∧ cString reqname = ascii "cancel-tcpip-forward" then do
    let granted ← svrCancelremotetcp opts payload
    pure (granted, wantreply)
  else if opts.remoteStreamfwd ∧ cString reqname = ascii "streamlocal-forward@openssh.com" then do
    let granted ← svrRemotestreamlocalreq opts payload outcome
    pure (granted, wantreply)
  else if opts.remoteStreamfwd ∧
      cString reqname = ascii "cancel-streamlocal-forward@openssh.com" then do
    let granted ← svrCancelremotestreamlocal payload
    pure (granted, wantreply)
  else pure (false, wantreply)

def svrRecvMsgGlobalRequest (opts : FwdOpts) (payload : Buffer) (outcome : Sockets) :
    ListenM Unit := do
  let (reqname, payload) ← fromExcept (bufGetstring payload)
  let (wantreply, payload) ← fromExcept (bufGetbool payload)
  if ¬ (opts.remoteTcpfwd ∨ opts.remoteStreamfwd) then reply wantreply false
  -- remote forwarding is disabled
  else if opts.noremotefwd ∨ ¬ svrPubkeyAllowsTcpfwd opts.keyOptions then reply wantreply false
  else if reqname.length > maxNameLen then reply wantreply false
  else do
    let (granted, unanswered) ← globalRequest opts reqname wantreply payload outcome
    reply unanswered granted

/-! ## Channels to an address -/

/-- The address to connect to, unless that is prohibited. -/
def newtcpdirect (opts : FwdOpts) (payload : Buffer) : Except Exit (Option (Bytes × Nat)) :=
  if opts.nolocaltcp ∨ ¬ svrPubkeyAllowsTcpfwd opts.keyOptions then .ok none
  else do
    let (desthost, payload) ← bufGetstring payload
    if desthost.length > maxHostLen then pure none
    else do
      let (destport, payload) ← bufGetint payload
      let (orighost, payload) ← bufGetstring payload
      if orighost.length > maxHostLen then pure none
      else do
        let (origport, _) ← bufGetint payload
        -- best be sure
        if origport > 65535 ∨ destport > 65535 then pure none
        else if ¬ svrPubkeyAllowsLocalTcpfwd opts.keyOptions (cString desthost) destport then
          pure none
        else pure (some (cString desthost, destport))

def newstreamlocal (opts : FwdOpts) (payload : Buffer) : Except Exit (Option Bytes) :=
  if opts.hasForcedCommand then .ok none
  else if opts.nolocaltcp ∨ ¬ svrPubkeyAllowsTcpfwd opts.keyOptions then .ok none
  else do
    let (destsocket, _) ← bufGetstring payload
    if destsocket.length > maxHostLen then pure none else pure (some (cString destsocket))

end Dropbear.Forwarding
