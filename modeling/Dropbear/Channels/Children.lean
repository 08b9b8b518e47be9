/-
# The children of the server

The server keeps a table of the process numbers of its children, with the sessions
they were started on, and stores the exit status of a child that it has waited for in
the session it finds there.  The exit status of a child that it does not find is kept
for a command that is being started.

The system gives out process numbers.  It does not give out the number of a process that
is running or has not been waited for, and may give out any other.
-/

import Dropbear.Channels.Table

namespace Dropbear.Channels

open Program

/-- `struct ChildPid`: the number is −1 in an entry that is not in use.  A session is
where its channel is: the two are allocated and freed together. -/
structure ChildPid where
  pid : Int
  chansess : Option Address
  deriving DecidableEq, Repr

/-- A process of the system: how it ended, if it has, and the number of the channel that
it was started on, as long as that is open. -/
structure Process where
  pid : Nat
  status : Option WaitStatus
  session : Option Nat
  deriving DecidableEq

/-- The server, the processes of the system, and for each channel number the exit status
of the child of its session, once the server has waited for it; the program keeps no
record of the latter. -/
structure Server where
  table : Table
  childpids : List ChildPid
  lastexit : ExitInfo
  processes : List Process
  waited : Nat → Option ExitInfo

abbrev ServerM := EStateM Fault Server

/-- `svr_chansessinitialise` -/
def svrChansessinitialise : Server where
  table := chaninitialise
  childpids := [⟨-1, none⟩]
  lastexit := .unfilled
  processes := []
  waited := fun _ => none

def onTable (run : TableM Unit) : ServerM Unit := fun server =>
  match run server.table with
  | .ok _ table => .ok () { server with table := table }
  | .error fault table => .error fault { server with table := table }

/-! ## The table of children -/

/-- Add the pid of a child to the list for exit-handling. -/
def addchildpid (childpids : List ChildPid) (chansess : Address) (pid : Nat) : List ChildPid :=
  match childpids.findIdx? (·.pid = -1) with
  | some i => childpids.set i ⟨pid, some chansess⟩
  | none => childpids ++ [⟨pid, some chansess⟩]

/-- Clear child pid entries. -/
def clearchildpids (childpids : List ChildPid) (chansess : Address) : List ChildPid :=
  childpids.map fun child => if child.chansess = some chansess then ⟨-1, none⟩ else child

/-- The exit status of the session at an address. -/
def storeExit (chansess : Option Address) (store : ExitInfo → ExitInfo) : TableM Unit := do
  match (← get).channels.findIdx? fun entry => !entry.isNull && chansess = some entry.address with
  | none => throw .dangling
  | some number =>
    onSlot number do
      let channel ← theChannel
      match channel.typedata with
      | none => throw .nullDeref
      | some chansess =>
        setChannel
          { channel with typedata := some { chansess with exit := store chansess.exit } }

/-! ## Sessions -/

/-- The session of a channel number. -/
def Table.chansess (table : Table) (number : Nat) : Option ChanSess :=
  (table.slot number).channel.bind Channel.typedata

/-- The channel of a number is gone. -/
def Server.forget (server : Server) (number : Nat) : Server :=
  { server with
    processes := server.processes.map fun process =>
      if process.session = some number then { process with session := none } else process
    waited := fun other => if other = number then none else server.waited other }

/-- The part of `cleanupchansess` that is about the children. -/
def cleanupchansess (number : Nat) (chansess : Address) : ServerM Unit := do
  let server ← get
  if server.childpids.any fun child => child.chansess = some chansess ∧ ¬ child.pid > 0 then
    throw (.exit (.assertion "svr_ses.childpids[i].pid > 0"))
  else
    set { server.forget number with childpids := clearchildpids server.childpids chansess }

/-- Any event for a channel number but a request. -/
def serveChannel (opts : Opts) (number : Nat) (event : Event) : ServerM Unit := do
  let before := (← get).table
  onTable (forChannel opts number event)
  let after := (← get).table
  match before.channels[number]?, before.chansess number, after.chansess number with
  | some entry, some _, none => cleanupchansess number entry.address
  | _, _, _ => pure ()

/-- The process numbers that the system can give out. -/
def Outcome.given (outcome : Outcome) (processes : List Process) : Outcome :=
  { outcome with
    spawned := outcome.spawned.filter fun spawned => processes.all (·.pid ≠ spawned.pid.1)
    forked := outcome.forked.filter fun pid => processes.all (·.pid ≠ pid.1)
    lastexit := none }

/-- The child probably exited and the signal handler triggered possibly before we got
around to adding the childpid. -/
def checkLastexit : ServerM Unit := do
  let server ← get
  if server.lastexit.exitpid ≠ -1 then
    match server.childpids.find? (·.pid = server.lastexit.exitpid) with
    | none => pure ()
    | some child => do
      onTable (storeExit child.chansess fun _ => server.lastexit)
      modify fun server => { server with lastexit := { server.lastexit with exitpid := -1 } }
  else pure ()

/-- A child has been started on a session.  Only without a terminal the last exit status is
looked at. -/
def startChild (number pid : Nat) (entry : Entry) (term : Option Bytes) : ServerM Unit := do
  let process : Process :=
    { pid := pid
      status := none
      session := some number }
  modify fun server =>
    { server with
      childpids := addchildpid server.childpids entry.address pid
      processes := server.processes ++ [process] }
  if term = none then checkLastexit else pure ()

/-- A channel request, which may start a command. -/
def serveRequest (opts : Opts) (number : Nat) (payload : Buffer) (outcome : Outcome) :
    ServerM Unit := do
  let server ← get
  onTable (forChannel opts number (.recvRequest payload (outcome.given server.processes)))
  let after := (← get).table
  match after.channels[number]?, server.table.chansess number, after.chansess number with
  | some entry, some before, some chansess =>
    if chansess.pid ≠ before.pid then startChild number chansess.pid entry chansess.term
    else pure ()
  | _, _, _ => pure ()

/-! ## Exits -/

/-- One round of `svr_chansess_checksignal`: a child that has ended is waited for. -/
def waitChild (process : Process) (status : WaitStatus) : ServerM Unit := do
  let server ← get
  set { server with
    processes := server.processes.filter (·.pid ≠ process.pid)
    waited := fun number =>
      if process.session = some number then some (ExitInfo.unfilled.store process.pid status)
      else server.waited number }
  match server.childpids.find? (·.pid = (process.pid : Int)) with
  | some child => onTable (storeExit child.chansess (·.store process.pid status))
  | none =>
    modify fun server => { server with lastexit := server.lastexit.store process.pid status }

/-- Handler for childs exiting, store the state for return to the client.  `order` is the
order in which the system returns them. -/
def svrChansessChecksignal : List Nat → ServerM Unit
  | [] => pure ()
  | pid :: rest => do
    match (← get).processes.find? (·.pid = pid) with
    | none => pure ()
    | some process =>
      match process.status with
      | none => pure ()
      | some status => waitChild process status
    svrChansessChecksignal rest

/-- A process ends. -/
def processEnds (pid : Nat) (status : WaitStatus) : ServerM Unit :=
  modify fun server =>
    { server with
      processes := server.processes.map fun process =>
        if process.pid = pid ∧ process.status = none then { process with status := some status }
        else process }

inductive ServerEvent where
  /-- The client opens a session. -/
  | openSession (remotechan transwindow transmaxpacket : UInt32) (channelAt : Address)
  /-- The client asks for something on a channel. -/
  | request (number : Nat) (payload : Buffer) (outcome : Outcome)
  /-- Any other event for a channel number. -/
  | forChannel (number : Nat) (event : Event)
  /-- A child exits. -/
  | processEnds (pid : Nat) (status : WaitStatus)
  /-- The server waits for its children. -/
  | checksignal (order : List Nat)

/-- The events that are dealt with here and not by the channel alone. -/
def Event.concernsChildren : Event → Bool
  | .recvRequest _ _ => true
  | .childExit _ _ => true
  | event => event.opens

def serverStep (opts : Opts) : ServerEvent → ServerM Unit
  | .openSession remotechan transwindow transmaxpacket channelAt =>
    onTable (openChannel opts .svrchansess remotechan.toNat transwindow.toNat
      transmaxpacket.toNat .ready channelAt 0)
  | .request number payload outcome => serveRequest opts number payload outcome
  | .forChannel number event =>
    if event.concernsChildren then pure () else serveChannel opts number event
  | .processEnds pid status => processEnds pid status
  | .checksignal order => svrChansessChecksignal order

end Dropbear.Channels
