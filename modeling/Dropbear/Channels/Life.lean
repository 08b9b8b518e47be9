/-
# The life of a channel

Opening, requests, end of file and closing, for all channel types, and the part of
the session loop that serves a channel.  An event is a message of the peer, or
something that happens on the local side, together with the results of the system
calls made while it is handled.
-/

import Dropbear.Auth.Options
import Dropbear.Channels.Data

namespace Dropbear.Channels

open Program

def maxNameLen : Nat := 64
def maxCmdLen : Nat := 9000
def maxTermLen : Nat := 200
def sftpserverPath : Bytes := ascii "/usr/libexec/sftp-server"
def sshExtendedDataStderr : Nat := 1
def sshOpenConnectFailed : Nat := 2
def sshOpenUnknownChannelType : Nat := 3

/-! ## Closing -/

/-- Whether there is more to be read from the two descriptors. -/
structure ReadPending where
  readfd : Bool
  errfd : Bool
  deriving DecidableEq, Repr

/-- Returns whether the session is ready to close: the child process must not be
running. -/
def sesscheckclose (channel : Channel) (chansess : ChanSess) : Channel × Bool :=
  ({ channel with flushing := channel.flushing || chansess.exit.exitpid ≠ -1 },
    chansess.pid = 0 || chansess.exit.exitpid ≠ -1)

/-- `check_close` of the channel type, for the one type that has it. -/
def closeAllowed (channel : Channel) : Except Exit (Channel × Bool) :=
  if channel.type ≠ .svrchansess ∨ channel.sentClose then .ok (channel, true)
  else
    match channel.typedata with
    | none => .error .nullDeref
    | some chansess => .ok (sesscheckclose channel chansess)

/-- In flushing mode we close descriptors as soon as pipes are empty. -/
def flushFds (channel : Channel) (pending : ReadPending) : Channel :=
  if channel.flushing then
    let channel :=
      if channel.readfd.isOpen ∧ ¬ pending.readfd then closeChanFd channel channel.readfd .shutRd
      else channel
    if channel.errfdIsRead ∧ channel.errfd.isOpen ∧ ¬ pending.errfd then
      closeChanFd channel channel.errfd .shutRd
    else channel
  else channel

/-- Nothing will be read from the local side any more. -/
def Channel.readingDone (channel : Channel) : Bool :=
  channel.readfd = .closed && (!channel.errfdIsRead || channel.errfd = .closed)

/-- The write descriptor is closed when the peer has no more data for it, or the
child of a server session has exited. -/
def closeWritefd (channel : Channel) (allowed : Bool) : Channel :=
  if (channel.recvEof ∧ ¬ writePending channel) ∨
      (channel.writefd ≠ .uninit ∧ channel.type = .svrchansess ∧ allowed) then
    closeChanFd channel channel.writefd .shutWr
  else channel

/-- If we're not going to send any more data, send EOF. -/
def eofIfDone : ChanM Unit := do
  let channel ← theChannel
  if ¬ channel.sentEof ∧ channel.readingDone then sendMsgChannelEof else pure ()

/-- And if we can't receive any more data from them either, close up. -/
def closeIfDone (opts : Opts) (allowed : Bool) : ChanM Unit := do
  let channel ← theChannel
  if channel.readingDone ∧ channel.writefd = .closed ∧ ¬ channel.sentClose ∧ allowed ∧
      ¬ writePending channel then
    sendMsgChannelClose opts
  else pure ()

/-- The answer to a close message. -/
def answerClose (opts : Opts) (channel : Channel) : ChanM Unit := do
  if ¬ channel.sentClose then sendMsgChannelClose opts else pure ()
  removeChannel

def checkClose (opts : Opts) (pending : ReadPending) : ChanM Unit := do
  let channel ← theChannel
  let (channel, allowed) ← fromResult (closeAllowed channel)
  let channel := flushFds channel pending
  setChannel channel
  if channel.recvClose ∧ ¬ writePending channel ∧ allowed then answerClose opts channel
  else do
    setChannel (closeWritefd channel allowed)
    eofIfDone
    closeIfDone opts allowed

/-! ## Server sessions -/

/-- Process numbers and signals are positive. -/
abbrev Positive := { n : Nat // 0 < n }

/-- How a child process ended: `WIFEXITED`, or `WIFSIGNALED`. -/
inductive WaitStatus where
  | exited (status : Nat)
  | signaled (signal : Positive) (core : Bool)
  deriving DecidableEq

/-- A child with pipes to it. -/
structure Spawned where
  pid : Positive
  writefd : Nat
  readfd : Nat
  errfd : Nat
  deriving DecidableEq

/-- A terminal that was allocated, and whether its owner is still known and its
attributes can be got. -/
structure Terminal where
  master : Nat
  owned : Bool
  attributes : Bool
  deriving DecidableEq

/-- What the system does for a request: a command started with pipes or on a
terminal, a child that has exited before its number was entered, a terminal, and
the result of the other requests, which is `none` where a request is refused
before it is read. -/
structure Outcome where
  spawned : Option Spawned
  forked : Option Positive
  lastexit : Option ExitInfo
  terminal : Option Terminal
  other : Option Bool

def setChansess (chansess : ChanSess) : ChanM Unit := do
  let channel ← theChannel
  setChannel { channel with typedata := some chansess }

/-- The command of a request, and the length that is checked.  A command left over
from an earlier request is kept. -/
def requestedCommand (payload : Buffer) (earlier : Option Bytes) : Except Exit (Bytes × Nat) :=
  match earlier with
  | some cmd => .ok (cmd, 0)
  | none => do
    let (cmd, _) ← bufGetstring payload
    pure (cmd, cmd.length)

/-- The command of an 'exec' or 'subsystem' request; `none` where it is refused. -/
def readCommand (payload : Buffer) (chansess : ChanSess) (iscmd issubsys : Bool) :
    Except Exit (Option (Option Bytes)) :=
  if ¬ iscmd then .ok (some chansess.cmd)
  else do
    let (cmd, cmdlen) ← requestedCommand payload chansess.cmd
    if cmdlen > maxCmdLen then pure none
    else if issubsys then
      if cmdlen = 4 ∧ cmd.take 4 = ascii "sftp" then pure (some (some sftpserverPath))
      else pure none
    else pure (some (some cmd))

/-- Take forced commands into account. -/
def forceCommand (opts : Opts) (chansess : ChanSess) : ChanSess :=
  match opts.forcedCommand with
  | some forced =>
    { chansess with
      originalCommand := some (chansess.cmd.getD [])
      cmd := some forced }
  | none =>
    let (cmd, original) := Auth.svrPubkeySetForcedCommand
      (some { forcedCommand := opts.pubkeyForcedCommand }) chansess.cmd chansess.originalCommand
    { chansess with
      cmd := cmd
      originalCommand := original }

/-- Execute a command and set up redirection without a pty. -/
def noptycommand (chansess : ChanSess) (outcome : Outcome) : ChanM Bool := do
  match outcome.spawned with
  | none => do
    setChansess { chansess with cmd := none }
    pure false
  | some spawned => do
    let channel ← theChannel
    let exit := match outcome.lastexit with
      | some lastexit => if lastexit.exitpid = spawned.pid.1 then lastexit else chansess.exit
      | none => chansess.exit
    setChannel
      { channel with
        writefd := .fd spawned.writefd
        readfd := .fd spawned.readfd
        errfd := .fd spawned.errfd
        bidirFd := false
        typedata := some
          { chansess with
            pid := spawned.pid.1
            exit := exit } }
    pure true

/-- Execute a command or shell within a pty environment. -/
def ptycommand (chansess : ChanSess) (outcome : Outcome) : ChanM Bool := do
  match chansess.master, chansess.tty, outcome.forked with
  | some master, true, some pid => do
    let channel ← theChannel
    setChannel
      { channel with
        writefd := .fd master
        readfd := .fd master
        bidirFd := false
        typedata := some { chansess with pid := pid.1 } }
    pure true
  | _, _, _ => do
    setChansess { chansess with cmd := none }
    pure false

/-- Handle a command request.  Only one command can succeed. -/
def sessioncommand (opts : Opts) (payload : Buffer) (iscmd issubsys : Bool) (outcome : Outcome)
    (chansess : ChanSess) : ChanM Bool :=
  if chansess.pid ≠ 0 then pure false
  else do
    match ← fromResult (readCommand payload chansess iscmd issubsys) with
    | none => do
      setChansess { chansess with cmd := none }
      pure false
    | some cmd =>
      let chansess := forceCommand opts { chansess with cmd := cmd }
      if chansess.term = none then noptycommand chansess outcome
      else ptycommand chansess outcome

/-- The size of a window. -/
def readWindowSize (payload : Buffer) : Except Exit Buffer := do
  let (_, payload) ← bufGetint payload
  let (_, payload) ← bufGetint payload
  let (_, payload) ← bufGetint payload
  let (_, payload) ← bufGetint payload
  pure payload

/-- The modes of a terminal, a code and a value each, up to a code that is not one of a mode. -/
def readModes : Nat → Buffer → Except Exit Unit
  | 0, _ => pure ()
  | n + 1, payload => do
    let (opcode, payload) ← bufGetbyte payload
    if opcode ≠ 0 ∧ opcode ≤ 159 then do
      let (_, payload) ← bufGetint payload
      readModes n payload
    else pure ()

def getTermmodes (payload : Buffer) : Except Exit Unit := do
  let (len, payload) ← bufGetint payload
  if len ≠ payload.len - payload.pos then throw (.exit "Bad term mode string")
  -- there are fewer modes than bytes
  else readModes len payload

/-- What follows the name of a terminal: its size, and its modes if they can be set. -/
def readTerminal (payload : Buffer) (terminal : Terminal) : Except Exit Unit :=
  if ¬ terminal.owned then throw (.exit "getpwnam failed after succeeding previously")
  else do
    let payload ← readWindowSize payload
    if terminal.attributes then getTermmodes payload else pure ()

/-- Set up a session pty.  The name of the terminal is entered before it is checked. -/
def sessionpty (opts : Opts) (payload : Buffer) (outcome : Outcome) (chansess : ChanSess) :
    ChanM Bool :=
  if ¬ opts.allowsPty then pure false
  else do
    let (term, payload) ← fromResult (bufGetstring payload)
    setChansess { chansess with term := some term }
    if term.length > maxTermLen then pure false
    else if chansess.master ≠ none then throw (.exit "Multiple pty requests")
    else
      match outcome.terminal with
      | none => pure false
      | some terminal => do
        setChansess
          { chansess with
            term := some term
            master := some terminal.master
            tty := true }
        fromResult (readTerminal payload terminal)
        pure true

def sessionwinchange (payload : Buffer) (chansess : ChanSess) : ChanM Bool :=
  if chansess.master = none then pure false
  else do
    let _ ← fromResult (readWindowSize payload)
    pure true

/-- A request whose result is given, with what it reads. -/
def otherRequest {α : Type} (read : Except Exit α) (outcome : Outcome) : ChanM Bool :=
  match outcome.other with
  | none => pure false
  | some good => do
    let _ ← fromResult read
    pure good

/-- What is read of an 'x11-req' request. -/
def readX11 (payload : Buffer) : Except Exit Unit := do
  let (_, payload) ← bufGetbool payload
  let (_, payload) ← bufGetstring payload
  let (_, payload) ← bufGetstring payload
  let _ ← bufGetint payload
  pure ()

def dispatchRequest (opts : Opts) (type : Bytes) (payload : Buffer) (outcome : Outcome)
    (chansess : ChanSess) : ChanM Bool :=
  if cString type = ascii "window-change" then sessionwinchange payload chansess
  else if cString type = ascii "shell" then sessioncommand opts payload false false outcome chansess
  else if cString type = ascii "pty-req" then sessionpty opts payload outcome chansess
  else if cString type = ascii "exec" then sessioncommand opts payload true false outcome chansess
  else if cString type = ascii "subsystem" then sessioncommand opts payload true true outcome chansess
  else if cString type = ascii "x11-req" then otherRequest (readX11 payload) outcome
  else if cString type = ascii "auth-agent-req@openssh.com" then otherRequest (pure ()) outcome
  else if cString type = ascii "signal" then otherRequest (bufGetstring payload) outcome
  else pure false

/-- Whether the request of this type succeeds. -/
def answerRequest (opts : Opts) (type : Bytes) (payload : Buffer) (outcome : Outcome) :
    ChanM Bool :=
  if type.length > maxNameLen then pure false
  else do
    let channel ← theChannel
    match channel.typedata with
    | none => throw (.assertion "chansess != NULL")
    | some chansess => dispatchRequest opts type payload outcome chansess

/-- Handle requests for a session channel. -/
def chansessionrequest (opts : Opts) (payload : Buffer) (outcome : Outcome) : ChanM Unit := do
  let (type, payload) ← fromResult (bufGetstring payload)
  let (wantreply, payload) ← fromResult (bufGetbool payload)
  let good ← answerRequest opts type payload outcome
  if wantreply then
    if good then sendMsgChannelSuccess else sendMsgChannelFailure
  else pure ()

/-! ## Requests of the other types -/

def cliChansessreq (payload : Buffer) : ChanM Unit := do
  let (type, payload) ← fromResult (bufGetstring payload)
  let (wantreply, payload) ← fromResult (bufGetbool payload)
  if cString type = ascii "exit-status" then do
    let _ ← fromResult (bufGetint payload)
    pure ()
  else if cString type = ascii "exit-signal" then pure ()
  else if wantreply then sendMsgChannelFailure
  else pure ()

def recvMsgChannelRequest (opts : Opts) (payload : Buffer) (outcome : Outcome) (channel : Channel) :
    ChanM Unit :=
  match channel.type with
  | .svrchansess => chansessionrequest opts payload outcome
  | .clichansess => cliChansessreq payload
  | _ => do
    let payload ← fromResult (bufEatstring payload)
    let (wantreply, _) ← fromResult (bufGetbool payload)
    if wantreply then sendMsgChannelFailure else pure ()

/-! ## Opening -/

/-- What the `inithandler` of a type that the peer opens comes to: the channel is
ready, it is connected to a descriptor, a connection is pending, or it is refused. -/
inductive InitResult where
  | ready
  | connected (fd : Nat)
  | inProgress
  | refused (reason : Positive)
  deriving DecidableEq

/-- The exit of a child that has not exited. -/
def ExitInfo.unfilled : ExitInfo where
  exitpid := -1
  exitstatus := 0
  exitsignal := 0
  exitcore := false

/-- A fresh `struct ChanSess`. -/
def newchansess : ChanSess where
  pid := 0
  cmd := none
  originalCommand := none
  master := none
  tty := false
  term := none
  exit := .unfilled

/-- `new_agent_chan`: the agent is connected at once. -/
def newAgentChan (channel : Channel) : InitResult → Channel × InitResult
  | .connected fd =>
    ({ channel with
        readfd := .fd fd
        writefd := .fd fd
        bidirFd := true }, .connected fd)
  | .refused reason => (channel, .refused reason)
  | _ => (channel, .refused ⟨sshOpenConnectFailed, by decide⟩)

/-- `newtcpdirect`, `newstreamlocal` and `newtcpforwarded`: the connection is made
later. -/
def newDeferred (channel : Channel) : InitResult → Channel × InitResult
  | .refused reason => (channel, .refused reason)
  | _ => ({ channel with connPending := true }, .inProgress)

/-- `inithandler` of the types that the peer opens. -/
def inithandler (channel : Channel) (init : InitResult) : Channel × InitResult :=
  match channel.type with
  | .svrchansess => ({ channel with typedata := some newchansess }, .ready)
  | .cliChanAgent => newAgentChan channel init
  | _ => newDeferred channel init

/-- Handle a channel open request, for the number `index` where it is free. -/
def recvMsgChannelOpen (opts : Opts) (index : Nat) (type : ChanType)
    (remotechan transwindow transmaxpacket : Nat) (init : InitResult) : ChanM Unit := do
  takeNumber
  if type ∉ chantypes opts.isServer then send (.openFailure remotechan sshOpenUnknownChannelType)
  else do
    let channel ← fromResult (newchannel opts index remotechan type transwindow
      (min transmaxpacket Packet.transMaxPayloadLen))
    noteAllowance fun _ =>
      { budget := transwindow
        maxpacket := transmaxpacket
        overdrawn := false }
    let (channel, init) := inithandler channel init
    setChannel channel
    match init with
    -- we'll send the confirmation later
    | .inProgress => pure ()
    | .refused reason => do
      removeChannel
      send (.openFailure remotechan reason.1)
    | _ => sendMsgChannelOpenConfirmation

/-- Start to open a channel of our own, connected to `fd`. -/
def sendMsgChannelOpenInit (opts : Opts) (index fd : Nat) (type : ChanType) : ChanM Unit := do
  takeNumber
  let channel ← fromResult (newchannel opts index 0 type 0 0)
  setChannel
    { channel with
      writefd := .fd fd
      readfd := .fd fd
      bidirFd := true
      awaitOpen := true }
  send (.openInit index opts.recvWindow recvMaxChannelDataLen)

/-- A deferred connection has been made, or has failed. -/
def channelConnectDone (sock : Option Nat) (channel : Channel) : ChanM Unit :=
  match sock with
  | some sock => do
    setChannel
      { channel with
        readfd := .fd sock
        writefd := .fd sock
        bidirFd := true
        connPending := false }
    sendMsgChannelOpenConfirmation
  | none => do
    send (.openFailure channel.remotechan sshOpenConnectFailed)
    removeChannel

/-- Shared for normal client channel and netcat-alike: standard input and output take
the place of the descriptors. -/
def cliInitStdpipeSess (opts : Opts) : ChanM Unit := do
  let channel ← theChannel
  let extrabuf ← fromResult (cbufNew opts.recvWindow)
  setChannel
    { channel with
      writefd := .fd 1
      readfd := .fd 0
      errfd := .fd 2
      extrabuf := some extrabuf
      bidirFd := false }

/-- A request of the client's session that depends on an option. -/
def requestIf (wanted : Bool) (type : String) : ChanM Unit :=
  if wanted then sendChannelRequest type else pure ()

def sendChansessShellReq (opts : Opts) : ChanM Unit :=
  sendChannelRequest
    (if opts.cmd = none then "shell" else if opts.isSubsystem then "subsystem" else "exec")

/-- Escape characters are looked for only with a terminal. -/
def setReadMangler (opts : Opts) : ChanM Unit := do
  let channel ← theChannel
  setChannel { channel with readMangler := channel.readMangler || opts.wantpty }

def cliInitchansess (opts : Opts) : ChanM Unit := do
  cliInitStdpipeSess opts
  requestIf opts.agentFwd "auth-agent-req@openssh.com"
  requestIf opts.wantpty "pty-req"
  sendChansessShellReq opts
  setReadMangler opts

/-- `inithandler` of the types that we open. -/
def confirmedInit (opts : Opts) : ChanType → ChanM Unit
  | .clichansess => cliInitchansess opts
  | .cliChanNetcat => cliInitStdpipeSess opts
  | _ => pure ()

/-- Confirmation that our channel open request was successful. -/
def recvMsgChannelOpenConfirmation (opts : Opts) (remotechan transwindow transmaxpacket : Nat)
    (channel : Channel) : ChanM Unit :=
  if ¬ channel.awaitOpen then throw (.exit "Unexpected channel reply")
  else do
    noteAllowance fun allowance =>
      { allowance with
        budget := transwindow
        maxpacket := transmaxpacket }
    setChannel
      { channel with
        awaitOpen := false
        remotechan := remotechan
        transwindow := transwindow
        transmaxpacket := transmaxpacket }
    confirmedInit opts channel.type

def recvMsgChannelOpenFailure (channel : Channel) : ChanM Unit :=
  if ¬ channel.awaitOpen then throw (.exit "Unexpected channel reply") else removeChannel

/-! ## Events -/

/-- Which descriptors are ready, and what reading and writing them comes to. -/
structure IoResults where
  readReady : Bool
  errReadReady : Bool
  writeReady : Bool
  errWriteReady : Bool
  read : ReadResult
  errRead : ReadResult
  lastChar : UInt8
  errLastChar : UInt8
  write : WriteResult
  errWrite : WriteResult
  channelSignalPending : Bool
  pending : ReadPending

inductive Event where
  /-- Messages of the peer. -/
  | recvOpen (type : ChanType) (remotechan transwindow transmaxpacket : UInt32) (init : InitResult)
  | recvOpenConfirmation (remotechan transwindow transmaxpacket : UInt32)
  | recvOpenFailure
  | recvWindowAdjust (incr : UInt32)
  | recvData (payload : Buffer) (result : WriteResult)
  | recvExtendedData (payload : Buffer) (result : WriteResult)
  | recvEof (pending : ReadPending)
  | recvClose (pending : ReadPending)
  | recvRequest (payload : Buffer) (outcome : Outcome)
  /-- We open a channel. -/
  | openInit (type : ChanType) (fd : Nat)
  /-- A deferred connection is made, or fails. -/
  | connectDone (sock : Option Nat)
  /-- The session loop serves the channel. -/
  | channelio (io : IoResults)
  /-- A child process exits. -/
  | childExit (pid : Positive) (status : WaitStatus)
  /-- The size of the client's terminal changes. -/
  | winchange
  /-- A keepalive is sent on the first channel that is ready. -/
  | keepalive

/-- The channel a message is for. -/
def getchannelMsg (kind : String) : ChanM Channel := do
  match (← get).channel with
  | some channel => pure channel
  | none => throw (.exit kind)

/-- Something is done to the channel, if there is one. -/
def onChannel (act : Channel → ChanM Unit) : ChanM Unit := do
  match (← get).channel with
  | some channel => act channel
  | none => pure ()

/-- A number in use is not given to a new channel. -/
def ifFree (act : ChanM Unit) : ChanM Unit := do
  match (← get).channel with
  | some _ => pure ()
  | none => act

/-- A part of the session loop, if its descriptor is there and ready. -/
def whenReady (there : Channel → Bool) (ready : Bool) (act : ChanM Unit) : ChanM Bool := do
  let channel ← theChannel
  if there channel ∧ ready then do
    act
    pure true
  else pure false

/-- Perform IO if available. -/
def channelio (opts : Opts) (io : IoResults) : ChanM Unit := do
  let sentData ← whenReady (·.readfd.isOpen) io.readReady
    (sendMsgChannelData false io.read io.lastChar)
  let sentErr ← whenReady (fun channel => channel.errfdIsRead && channel.errfd.isOpen) io.errReadReady
    (sendMsgChannelData true io.errRead io.errLastChar)
  let wrote ← whenReady (·.writefd.isOpen) io.writeReady do
    let _ ← writechannel opts .writebuf none io.write
    pure ()
  let wroteErr ← whenReady (fun channel => !channel.errfdIsRead && channel.errfd.isOpen)
    io.errWriteReady do
      let _ ← writechannel opts .extrabuf none io.errWrite
      pure ()
  if sentData || sentErr || wrote || wroteErr || io.channelSignalPending then
    checkClose opts io.pending
  else pure ()

def recvMsgChannelWindowAdjust (incr : Nat) (channel : Channel) : ChanM Unit := do
  noteAllowance fun allowance => { allowance with budget := allowance.budget + incr }
  let newwin := u32 (channel.transwindow + incr)
  setChannel
    { channel with transwindow := if newwin < channel.transwindow then 2 ^ 32 - 1 else newwin }

/-- Extended data is for the client's session, and only standard error is known. -/
def recvMsgChannelExtendedData (opts : Opts) (payload : Buffer) (result : WriteResult)
    (channel : Channel) : ChanM Unit :=
  if channel.type ≠ .clichansess then pure ()
  else do
    let (datatype, payload) ← fromResult (bufGetint payload)
    if datatype ≠ sshExtendedDataStderr then pure ()
    else commonRecvMsgChannelData opts .extrabuf payload result

/-- Store the state of a child that has exited. -/
def ExitInfo.store (info : ExitInfo) (pid : Nat) : WaitStatus → ExitInfo
  | .exited status =>
    { info with
      exitpid := pid
      exitstatus := status
      exitsignal := -1 }
  | .signaled signal core =>
    { info with
      exitpid := pid
      exitsignal := signal.1
      exitcore := core }

/-- The child of this channel has exited. -/
def childExited (channel : Channel) (pid : Positive) (status : WaitStatus) : Channel :=
  match channel.typedata with
  | none => channel
  | some chansess =>
    if chansess.pid = pid.1 then
      { channel with
        typedata := some { chansess with exit := chansess.exit.store pid.1 status } }
    else channel

/-- `cli_chansess_winchange`, for one channel. -/
def cliChansessWinchange (channel : Channel) : ChanM Unit :=
  if channel.type = .clichansess then sendChannelRequest "window-change" else pure ()

/-- `send_msg_keepalive`, for one channel. -/
def sendMsgKeepalive (channel : Channel) : ChanM Unit :=
  if channel.sentEof ∨ channel.recvEof ∨ channel.awaitOpen then pure ()
  else sendChannelRequest "keepalive@openssh.com"

/-- Handle an event for the channel number `index`. -/
def step (opts : Opts) (index : Nat) : Event → ChanM Unit
  | .recvOpen type remotechan transwindow transmaxpacket init =>
    ifFree (recvMsgChannelOpen opts index type remotechan.toNat transwindow.toNat
      transmaxpacket.toNat init)
  | .recvOpenConfirmation remotechan transwindow transmaxpacket => do
    let channel ← getchannelMsg "Unknown channel %d"
    recvMsgChannelOpenConfirmation opts remotechan.toNat transwindow.toNat transmaxpacket.toNat
      channel
  | .recvOpenFailure => do
    let channel ← getchannelMsg "Unknown channel %d"
    recvMsgChannelOpenFailure channel
  | .recvWindowAdjust incr => do
    let channel ← getchannelMsg "Unknown channel %d"
    recvMsgChannelWindowAdjust incr.toNat channel
  | .recvData payload result => do
    let _ ← getchannelMsg "Unknown channel %d"
    commonRecvMsgChannelData opts .writebuf payload result
  | .recvExtendedData payload result =>
    if opts.isServer then pure ()
    else do
      let channel ← getchannelMsg "Unknown channel %d"
      recvMsgChannelExtendedData opts payload result channel
  | .recvEof pending => do
    let channel ← getchannelMsg "EOF for unknown channel %d"
    setChannel { channel with recvEof := true }
    checkClose opts pending
  | .recvClose pending => do
    let channel ← getchannelMsg "Close for unknown channel %d"
    setChannel { channel with recvEof := true, recvClose := true }
    checkClose opts pending
  | .recvRequest payload outcome => do
    let channel ← getchannelMsg "Unknown channel %d"
    recvMsgChannelRequest opts payload outcome channel
  | .openInit type fd =>
    if type ∈ ownChantypes opts.isServer then ifFree (sendMsgChannelOpenInit opts index fd type)
    else pure ()
  | .connectDone sock =>
    onChannel fun channel =>
      if channel.connPending then channelConnectDone sock channel else pure ()
  | .channelio io => onChannel fun _ => channelio opts io
  | .childExit pid status => onChannel fun channel => setChannel (childExited channel pid status)
  | .winchange => onChannel cliChansessWinchange
  | .keepalive => onChannel sendMsgKeepalive

end Dropbear.Channels
