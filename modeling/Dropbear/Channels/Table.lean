/-
# The table of channels

The channels of a session by their numbers, and the list of the connections that are
being made for them.  A channel and its connection point to each other: the connection
calls back with the channel as its data, and the channel cancels its connection when it
is removed.  Both are memory that is freed and may be allocated again, so pointers are
addresses here, and following one that nothing is at ends the program.
-/

import Dropbear.Channels.Life

namespace Dropbear.Channels

open Program

def maxChannels : Nat := 1000
def chanExtendSize : Nat := 3

/-- Where something is in memory. -/
abbrev Address := Nat

/-- The callback of a connection, with its data. -/
inductive ConnectCallback where
  | channelConnectDone (channel : Address)
  | cancelCallback
  | cliConnected
  deriving DecidableEq, Repr

/-- `struct dropbear_progress_connection`.  Which addresses of the peer are left to be
tried is up to the resolver. -/
structure Connection where
  address : Address
  cb : ConnectCallback
  sock : Option Nat
  deriving DecidableEq, Repr

/-- A number of `ses.channels`: what has become of it so far, where its channel is, and
the channel's pointer to its connection. -/
structure Entry where
  slot : Slot
  address : Address
  connPending : Option Address
  deriving DecidableEq, Repr

/-- A number that has not been used. -/
def Entry.null : Entry where
  slot := .free
  address := 0
  connPending := none

/-- `ses.channels[i] == NULL` -/
def Entry.isNull (entry : Entry) : Bool := entry.slot.channel.isNone

/-- `ses.channels` and `ses.conn_pending`; `ses.chansize` is the length of the former. -/
structure Table where
  channels : List Entry
  chancount : Nat
  connPending : List Connection
  deriving DecidableEq, Repr

/-- May as well create space for a single channel. -/
def chaninitialise : Table where
  channels := [.null]
  chancount := 0
  connPending := []

/-- How the program ends: as the functions on one channel do, or by following a pointer to
memory that has been freed. -/
inductive Fault where
  | exit (failure : Exit)
  | dangling
  deriving DecidableEq, Repr

abbrev TableM := EStateM Fault Table

namespace Table

def put (table : Table) (number : Nat) (entry : Entry) : Table :=
  { table with channels := table.channels.set number entry }

/-- What has become of a number. -/
def slot (table : Table) (number : Nat) : Slot :=
  match table.channels[number]? with
  | some entry => entry.slot
  | none => .free

/-- The memory in use. -/
def allocated (table : Table) : List Address :=
  (table.channels.filter (!·.isNull)).map Entry.address ++ table.connPending.map Connection.address

end Table

/-- Memory that is not in use: `wanted`, if it is not. -/
def malloc (allocated : List Address) (wanted : Address) : Address :=
  if wanted ∈ allocated then allocated.foldr max 0 + 1 else wanted

def theEntry (number : Nat) : TableM Entry := do
  match (← get).channels[number]? with
  | some entry => pure entry
  | none => throw (.exit .overrun)

def setEntry (number : Nat) (entry : Entry) : TableM Unit :=
  modify fun table => table.put number entry

/-- Do something to the channel of a number. -/
def onSlot (number : Nat) (run : ChanM Unit) : TableM Unit := do
  let entry ← theEntry number
  match run entry.slot with
  | .ok _ slot => setEntry number { entry with slot := slot }
  | .error failure slot => do
    setEntry number { entry with slot := slot }
    throw (.exit failure)

/-! ## Creation and removal -/

/-- The number of a new channel.  First see if we can use existing channels, otherwise
extend the list. -/
def newNumber : TableM (Option Nat) := do
  let table ← get
  match table.channels.findIdx? Entry.isNull with
  | some number => pure (some number)
  | none =>
    if table.channels.length ≥ maxChannels then pure none
    else do
      set { table with
        channels := table.channels ++ List.replicate chanExtendSize Entry.null }
      pure (some table.channels.length)

/-- A new channel is allocated, filled in by `init` and entered. -/
def enterChannel (number : Nat) (channelAt : Address) (init : ChanM Unit) : TableM Unit := do
  let table ← get
  setEntry number
    { slot := table.slot number
      address := malloc table.allocated channelAt
      connPending := none }
  onSlot number init
  modify fun table => { table with chancount := table.chancount + 1 }

/-- Change the connection at an address. -/
def Table.setConnection (table : Table) (address : Address) (change : Connection → Connection) :
    Table :=
  { table with
    connPending := table.connPending.map fun connection =>
      if connection.address = address then change connection else connection }

/-- The connection is not needed any more. -/
def cancelConnect (address : Address) : TableM Unit := do
  let table ← get
  if table.connPending.any (·.address = address) then
    set (table.setConnection address ({ · with cb := .cancelCallback }))
  else throw .dangling

/-- The part of `remove_channel` that is about the table. -/
def forgetChannel (number : Nat) : TableM Unit := do
  let entry ← theEntry number
  match entry.connPending with
  | some address => cancelConnect address
  | none => pure ()
  setEntry number { entry with connPending := none }
  modify fun table => { table with chancount := table.chancount - 1 }

/-! ## Connections -/

/-- `connect_remote` and `connect_streamlocal`: the connection is made later. -/
def connectRemote (cb : ConnectCallback) (connectionAt : Address) : TableM Address := do
  let table ← get
  let connection : Connection :=
    { address := malloc table.allocated connectionAt
      cb := cb
      sock := none }
  set { table with connPending := table.connPending ++ [connection] }
  pure connection.address

def removeConnect (address : Address) : TableM Unit :=
  modify fun table => { table with connPending := table.connPending.filter (·.address ≠ address) }

def theConnection (address : Address) : TableM Connection := do
  match (← get).connPending.find? (·.address = address) with
  | some connection => pure connection
  | none => throw .dangling

def setSock (address : Address) (sock : Option Nat) : TableM Unit :=
  modify fun table => table.setConnection address ({ · with sock := sock })

/-- `channel_connect_done`, for the channel at this address. -/
def connectDone (sock : Option Nat) (channel : Address) : TableM Unit := do
  match (← get).channels.findIdx? fun entry => !entry.isNull && entry.address = channel with
  | none => throw .dangling
  | some number => do
    onSlot number (onChannel (channelConnectDone sock))
    match sock with
    | some _ => do
      let entry ← theEntry number
      setEntry number { entry with connPending := none }
    | none => forgetChannel number

/-- Call back with a socket, or without one if the connection has failed. -/
def callback (sock : Option Nat) : ConnectCallback → TableM Unit
  | .channelConnectDone channel => connectDone sock channel
  | .cancelCallback => pure ()
  | .cliConnected =>
    match sock with
    | some _ => pure ()
    | none => throw (.exit (.exit "Connect failed: %s"))

/-- Walk the list as it is at the start.  `tried` is the socket of a connection that is
set going, and none is a final failure. -/
def setConnectFds (tried : Address → Option Nat) : List Address → TableM Unit
  | [] => pure ()
  | address :: rest => do
    let connection ← theConnection address
    match connection.sock <|> tried address with
    | some sock => setSock address (some sock)
    | none => do
      callback none connection.cb
      removeConnect address
    setConnectFds tried rest

/-- What became of a socket that was waited for. -/
inductive Progress where
  | waiting
  | failed
  | established
  deriving DecidableEq, Repr

/-- At most one connection is handed over, as that invalidates the place in the list. -/
def handleConnectFds (progress : Address → Progress) : List Address → TableM Unit
  | [] => pure ()
  | address :: rest => do
    let connection ← theConnection address
    match connection.sock, progress address with
    | some _, .failed => do
      setSock address none
      handleConnectFds progress rest
    | some sock, .established => do
      callback (some sock) connection.cb
      removeConnect address
    | _, _ => handleConnectFds progress rest

/-! ## Events -/

/-- Handle a channel open request. -/
def openChannel (opts : Opts) (type : ChanType) (remotechan transwindow transmaxpacket : Nat)
    (init : InitResult) (channelAt connectionAt : Address) : TableM Unit :=
  if type ∉ chantypes opts.isServer then pure ()
  else do
    match ← newNumber with
    | none => pure ()
    | some number => do
      enterChannel number channelAt
        (recvMsgChannelOpen opts number type remotechan transwindow transmaxpacket init)
      let entry ← theEntry number
      match entry.slot.channel with
      -- the init handler has refused it
      | none => forgetChannel number
      | some channel =>
        if channel.connPending then do
          let address ← connectRemote (.channelConnectDone entry.address) connectionAt
          setEntry number { entry with connPending := some address }
        else pure ()

/-- Start to open a channel of our own. -/
def openOwnChannel (opts : Opts) (type : ChanType) (fd : Nat) (channelAt : Address) :
    TableM Unit :=
  if type ∉ ownChantypes opts.isServer then pure ()
  else do
    match ← newNumber with
    | none => pure ()
    | some number => enterChannel number channelAt (sendMsgChannelOpenInit opts number fd type)

/-- A message for a channel, or something that happens to it. -/
def forChannel (opts : Opts) (number : Nat) (event : Event) : TableM Unit := do
  match (← get).channels[number]? with
  | none =>
    match step opts number event .free with
    | .ok _ _ => pure ()
    | .error failure _ => throw (.exit failure)
  | some entry => do
    onSlot number (step opts number event)
    let after ← theEntry number
    if !entry.isNull && after.isNull then forgetChannel number else pure ()

/-- Clean up channels, at the end of the session. -/
def chancleanup : List Nat → TableM Unit
  | [] => pure ()
  | number :: rest => do
    let entry ← theEntry number
    if entry.isNull then pure ()
    else do
      onSlot number removeChannel
      forgetChannel number
    chancleanup rest

/-- The events that open a channel or complete a connection. -/
def Event.opens : Event → Bool
  | .recvOpen _ _ _ _ _ => true
  | .openInit _ _ => true
  | .connectDone _ => true
  | _ => false

inductive TableEvent where
  /-- The peer opens a channel. -/
  | recvOpen (type : ChanType) (remotechan transwindow transmaxpacket : UInt32)
      (init : InitResult) (channelAt connectionAt : Address)
  /-- We open a channel. -/
  | openInit (type : ChanType) (fd : Nat) (channelAt : Address)
  /-- Any other event, for a channel number. -/
  | forChannel (number : Nat) (event : Event)
  /-- The client connects to the server. -/
  | connect (connectionAt : Address)
  | setConnectFds (tried : Address → Option Nat)
  | handleConnectFds (progress : Address → Progress)
  | chancleanup

def tableStep (opts : Opts) : TableEvent → TableM Unit
  | .recvOpen type remotechan transwindow transmaxpacket init channelAt connectionAt =>
    openChannel opts type remotechan.toNat transwindow.toNat transmaxpacket.toNat init channelAt
      connectionAt
  | .openInit type fd channelAt => openOwnChannel opts type fd channelAt
  | .forChannel number event => if event.opens then pure () else forChannel opts number event
  | .connect connectionAt => do
    let _ ← connectRemote .cliConnected connectionAt
    pure ()
  | .setConnectFds tried => do
    setConnectFds tried ((← get).connPending.map Connection.address)
  | .handleConnectFds progress => do
    handleConnectFds progress ((← get).connPending.map Connection.address)
  | .chancleanup => do
    chancleanup (List.range (← get).channels.length)

end Dropbear.Channels
