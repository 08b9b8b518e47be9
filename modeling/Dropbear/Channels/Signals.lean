/-
# Whom a signal request reaches

A client can ask for a signal to the process of a session.  The session keeps the process
number for as long as its channel is there, also after the server has waited for the
process, when the system may have given the number to another one.  The exit status tells
the two apart, but `sessionsignal` does not look at it.
-/

import Dropbear.Channels.Routing

namespace Dropbear.Channels

open Program

/-- A call of `kill`. -/
structure Kill where
  pid : Nat
  signal : Nat
  deriving DecidableEq, Repr

/-- How the server was built, `DROPBEAR_SVR_MULTIUSER` and `DROPBEAR_SVR_DROP_PRIVS`, and
the signals of the system with their names, `signames`. -/
structure SignalOpts where
  multiuser : Bool
  dropPrivs : Bool
  signames : List (Nat × Bytes)

/-- Send a signal to a session's process as requested by the client.  Returns the call of
`kill`, where one is made. -/
def sessionsignal (opts : Opts) (build : SignalOpts) (payload : Buffer) (chansess : ChanSess) :
    Except Exit (Option Kill) :=
  -- haven't got a process pid yet
  if chansess.pid = 0 then pure none
  else if opts.forcedCommand.isSome ∨ opts.pubkeyForcedCommand.isSome then pure none
  else if build.multiuser ∧ ¬ build.dropPrivs then pure none
  else do
    let (signame, _) ← bufGetstring payload
    match build.signames.find? (fun entry => entry.2 = cString signame) with
    | none => pure none
    | some (sig, _) =>
      if sig = 0 then pure none
      else pure (some
        { pid := chansess.pid
          signal := sig })

/-- The call of `kill` that a request on a session makes, from its type on. -/
def requestedKill (opts : Opts) (build : SignalOpts) (payload : Buffer) (chansess : ChanSess) :
    Except Exit (Option Kill) := do
  let (type, payload) ← bufGetstring payload
  let (_, payload) ← bufGetbool payload
  if type.length > maxNameLen then pure none
  else if cString type = ascii "signal" then sessionsignal opts build payload chansess
  else pure none

/-- The call of `kill` that a request on a channel makes. -/
def Server.kill (server : Server) (opts : Opts) (build : SignalOpts) (number : Nat)
    (payload : Buffer) : Option Kill :=
  match server.table.chansess number with
  | none => none
  | some chansess =>
    match requestedKill opts build payload chansess with
    | .ok kill => kill
    | .error _ => none

section

variable {opts : Opts} {build : SignalOpts} {payload : Buffer} {chansess : ChanSess} {kill : Kill}

/-- A signal is for the recorded process, and no command is forced. -/
theorem sessionsignal_spec (called : sessionsignal opts build payload chansess = .ok (some kill)) :
    kill.pid = chansess.pid ∧ 0 < chansess.pid ∧ opts.forcedCommand = none ∧
      opts.pubkeyForcedCommand = none := by
  rw [sessionsignal] at called
  split at called
  · cases called
  case _ started =>
    split at called
    · cases called
    case _ free =>
      split at called
      · cases called
      · obtain ⟨⟨signame, rest⟩, _, called⟩ := Except.bind_eq_ok.1 called
        dsimp only at called
        split at called
        · cases called
        · split at called
          · cases called
          · cases called
            rw [not_or, Option.not_isSome_iff_eq_none, Option.not_isSome_iff_eq_none] at free
            exact ⟨rfl, Nat.pos_of_ne_zero started, free⟩

theorem requestedKill_spec (called : requestedKill opts build payload chansess = .ok (some kill)) :
    kill.pid = chansess.pid ∧ 0 < chansess.pid ∧ opts.forcedCommand = none ∧
      opts.pubkeyForcedCommand = none := by
  obtain ⟨⟨type, rest⟩, _, called⟩ := Except.bind_eq_ok.1 called
  obtain ⟨⟨wantreply, rest'⟩, _, called⟩ := Except.bind_eq_ok.1 called
  dsimp only at called
  split at called
  · cases called
  · split at called
    · exact sessionsignal_spec called
    · cases called

theorem Server.kill_spec {server : Server} {number : Nat}
    (called : server.kill opts build number payload = some kill) :
    ∃ chansess, server.table.chansess number = some chansess ∧ kill.pid = chansess.pid ∧
      0 < chansess.pid ∧ opts.forcedCommand = none ∧ opts.pubkeyForcedCommand = none := by
  rw [Server.kill] at called
  cases found : server.table.chansess number with
  | none =>
    rw [found] at called
    cases called
  | some chansess =>
    rw [found] at called
    dsimp only at called
    split at called
    case _ requested =>
      subst called
      exact ⟨chansess, rfl, requestedKill_spec requested⟩
    case _ => cases called

end

/-! ## Runs -/

/-- A signal reaches a child that was started on the session and that the server has not
waited for yet, and only where no command is forced. -/
def ServerEvent.SignalsOwnChild (opts : Opts) (build : SignalOpts) :
    ServerEvent → Server → Prop
  | .request number payload _, server =>
    ∀ kill, server.kill opts build number payload = some kill →
      opts.forcedCommand = none ∧ opts.pubkeyForcedCommand = none ∧
        ∃ process ∈ server.processes, process.session = some number ∧ process.pid = kill.pid
  | _, _ => True

/-- A signal is asked for while no exit status is recorded in the session. -/
def ServerEvent.SignalsInTime (opts : Opts) (build : SignalOpts) : ServerEvent → Server → Prop
  | .request number payload _, server =>
    ∀ kill chansess, server.kill opts build number payload = some kill →
      server.table.chansess number = some chansess → chansess.exit.exitpid = -1
  | _, _ => True

/-- The exit status shows whether the child of a session has been waited for. -/
theorem Server.Matched.exitpid_iff {server : Server} (matched : server.Matched) {number : Nat}
    {session : Session} (found : server.table.session number = some session) :
    session.exit.exitpid = -1 ↔ server.waited number = none := by
  rw [matched.filled number session found]
  cases waited : server.waited number with
  | none => exact iff_of_true rfl rfl
  | some info => exact iff_of_false (matched.recorded number info waited) nofun

theorem Server.Matched.signals_iff {server : Server} (matched : server.Matched) (opts : Opts)
    (build : SignalOpts) (event : ServerEvent) :
    event.SignalsOwnChild opts build server ↔ event.SignalsInTime opts build server := by
  cases event with
  | request number payload outcome =>
    constructor
    · intro own kill chansess called found
      obtain ⟨_, _, process, listed, mine, _⟩ := own kill called
      obtain ⟨session, there, _⟩ := matched.belongs process listed number mine
      obtain ⟨_, _, chansess', _, _, _, found', rfl⟩ := Table.exists_of_session there
      cases found.symm.trans found'
      exact (matched.exitpid_iff there).2 (matched.running process listed number mine)
    · intro inTime kill called
      obtain ⟨chansess, found, pid, positive, unforced⟩ := Server.kill_spec called
      cases there : server.table.session number with
      | none =>
        rw [Table.session_eq_none.1 there] at found
        cases found
      | some session =>
        obtain ⟨_, _, chansess', _, _, _, found', rfl⟩ := Table.exists_of_session there
        cases found.symm.trans found'
        have unwaited := (matched.exitpid_iff there).1 (inTime kill chansess called found)
        obtain ⟨process, listed, mine, same⟩ := matched.alive number _ there positive unwaited
        exact ⟨unforced.1, unforced.2, process, listed, mine, same.trans pid.symm⟩
  | _ => exact Iff.rfl

/-- **Signals reach only the session's own live child** in the runs in which no signal is
asked for once an exit status is recorded in the session, as long as process numbers do not
come back as `ServerEvent.Fresh` says. -/
theorem signalsOwnChild_iff (opts : Opts) (build : SignalOpts) (events : List ServerEvent)
    (fresh : AllMeet (serverStep opts) ServerEvent.Fresh events svrChansessinitialise) :
    AllMeet (serverStep opts) (ServerEvent.SignalsOwnChild opts build) events
        svrChansessinitialise ↔
      AllMeet (serverStep opts) (ServerEvent.SignalsInTime opts build) events
        svrChansessinitialise :=
  allMeet_congr (ends_serverStep opts) (fun event _ matched => matched.signals_iff opts build event)
    fresh matched_svrChansessinitialise

/-- A server with privileges dropped, on a system with one signal. -/
def signalBuild : SignalOpts where
  multiuser := true
  dropPrivs := true
  signames := [(15, ascii "TERM")]

/-- A 'signal' request without a reply. -/
def termRequest : Buffer :=
  .ofBytes (wireString (ascii "signal") ++ [0] ++ wireString (ascii "TERM")) (by decide)

/-- The system starts nothing. -/
def idleOutcome : Outcome where
  spawned := none
  forked := none
  lastexit := none
  terminal := none
  other := some true

/-- A command is started and gets a signal. -/
def signalledCommand : List ServerEvent :=
  twoCommands.take 2 ++ [.request 0 termRequest idleOutcome]

theorem signalsOwnChild_running :
    (finalState (runAll (serverStep plainServer) (twoCommands.take 2)
        svrChansessinitialise)).kill plainServer signalBuild 0 termRequest = some ⟨7, 15⟩ ∧
      AllMeet (serverStep plainServer) (ServerEvent.SignalsOwnChild plainServer signalBuild)
        signalledCommand svrChansessinitialise := by
  refine ⟨by decide +kernel, (signalsOwnChild_iff plainServer signalBuild signalledCommand ?_).2 ?_⟩
  · refine ⟨trivial, fun opened ran => ⟨?_, fun _ _ => ⟨fun _ _ => ⟨nofun, nofun⟩, fun _ _ =>
      trivial⟩⟩⟩
    cases ran
    refine fun _ _ => ⟨?_, nofun⟩
    intro spawned isSpawned
    cases isSpawned
    exact ⟨by decide, by decide⟩
  · refine ⟨trivial, fun opened ran => ?_⟩
    cases ran
    refine ⟨fun kill chansess called found => ?_, fun started ran => ?_⟩
    · cases found
      rfl
    · cases ran
      refine ⟨fun kill chansess called found => ?_, fun _ _ => trivial⟩
      cases found
      rfl

/-- **The command has ended and the server has waited for it**, but the channel is still
there: the signal goes to a process number that is no longer that of the command. -/
theorem signalsOwnChild_fails_after_exit :
    let server := finalState (runAll (serverStep plainServer) (twoCommands.take 4)
      svrChansessinitialise)
    server.kill plainServer signalBuild 0 termRequest = some ⟨7, 15⟩ ∧
      server.processes = [] ∧
      ¬ (ServerEvent.request 0 termRequest execOutcome).SignalsOwnChild plainServer signalBuild
        server := by
  have called : (finalState (runAll (serverStep plainServer) (twoCommands.take 4)
      svrChansessinitialise)).kill plainServer signalBuild 0 termRequest = some ⟨7, 15⟩ := by
    decide +kernel
  have nobody : (finalState (runAll (serverStep plainServer) (twoCommands.take 4)
      svrChansessinitialise)).processes = [] := by
    decide +kernel
  refine ⟨called, nobody, fun own => ?_⟩
  obtain ⟨_, _, process, listed, _⟩ := own _ called
  rw [nobody] at listed
  cases listed

end Dropbear.Channels
