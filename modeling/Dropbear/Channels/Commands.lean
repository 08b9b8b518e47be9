/-
# What a session executes

A session starts at most one child, whatever is asked for.  The child executes the forced
command, if there is one, and else the command of the request that it was started for: a
request that fails leaves no command behind.

It does leave the name of a terminal behind.  Whether a command gets a terminal is decided by
that name, so a request for a terminal that was refused makes the commands after it fail.
-/

import Dropbear.Channels.Discipline
import Dropbear.Channels.Identity

namespace Dropbear.Channels

open Program

/-! ## Executions -/

/-- What a child executes, a login shell or a command, and its `SSH_ORIGINAL_COMMAND`. -/
structure Execution where
  command : Option Bytes
  originalCommand : Option Bytes
  deriving DecidableEq, Repr

/-- The part of `execchild` that depends on the request. -/
def execchild (chansess : ChanSess) : Execution where
  command := chansess.cmd.map cString
  originalCommand := chansess.originalCommand.map cString

/-- What has to be executed for a request for a command, or for a shell. -/
def Opts.execution (opts : Opts) (requested : Option Bytes) : Execution :=
  match opts.forced with
  | some forced =>
    { command := some (cString forced)
      originalCommand := some (cString (requested.getD [])) }
  | none =>
    { command := requested.map cString
      originalCommand := none }

/-- The command that a 'shell', 'exec' or 'subsystem' request is for, behind its type. -/
def AsksFor (payload : Buffer) (iscmd issubsys : Bool) (requested : Option Bytes) : Prop :=
  if iscmd then
    ∃ cmd behind, bufGetstring payload = .ok (cmd, behind) ∧
      if issubsys then cmd = ascii "sftp" ∧ requested = some sftpserverPath
      else requested = some cmd
  else requested = none

/-- What a request of this type is for. -/
def TypeRequests (type : Bytes) (payload : Buffer) (requested : Option Bytes) : Prop :=
  cString type = ascii "shell" ∧ AsksFor payload false false requested ∨
    cString type = ascii "exec" ∧ AsksFor payload true false requested ∨
    cString type = ascii "subsystem" ∧ AsksFor payload true true requested

/-- The request is for this command, or for a shell. -/
def Requests (payload : Buffer) (requested : Option Bytes) : Prop :=
  ∃ type behind wantreply rest, bufGetstring payload = .ok (type, behind) ∧
    bufGetbool behind = .ok (wantreply, rest) ∧ TypeRequests type rest requested

/-! ## Sessions between requests -/

/-- A session between requests: without a child it has no command. -/
structure ChanSess.Settled (opts : Opts) (chansess : ChanSess) : Prop where
  forgotten : chansess.pid = 0 → chansess.cmd = none
  unforced : opts.forced = none → chansess.originalCommand = none

theorem settled_newchansess (opts : Opts) : newchansess.Settled opts := ⟨fun _ => rfl, fun _ => rfl⟩

/-- What is left of a session after something happened: no child was started, or one that
executes what it has to. -/
structure ChanSess.Becomes (opts : Opts) (executes : Execution → Prop) (before after : ChanSess) :
    Prop where
  settled : after.Settled opts
  child : after.pid = before.pid ∨ before.pid = 0 ∧ executes (execchild after)

/-- The channel of a session, of which this can be said. -/
def Channel.Serves (good : ChanSess → Prop) (channel : Channel) : Prop :=
  channel.type = .svrchansess ∧ channel.connPending = false ∧
    ∃ chansess, channel.typedata = some chansess ∧ good chansess

theorem stable_serves (good : ChanSess → Prop) : Stable (Channel.Serves good) := by
  rintro channel channel' same ⟨type, pending, chansess, typedata, held⟩
  exact ⟨(congrArg Identity.type same).trans type,
    (congrArg Identity.connPending same).trans pending, chansess,
    (congrArg Identity.typedata same).trans typedata, held⟩

section

variable {opts : Opts} {good : ChanSess → Prop} {executes : Execution → Prop} {before : ChanSess}

/-- The child executes what it has to. -/
theorem execchild_forceCommand (settled : before.Settled opts) (requested : Option Bytes) :
    execchild (forceCommand opts { before with cmd := requested }) = opts.execution requested := by
  rw [forceCommand_eq, Opts.execution]
  cases forced : opts.forced with
  | some command => rfl
  | none => simp only [execchild, settled.unforced forced, Option.map_none]

variable {payload : Buffer}

/-- The command that was read is that of the request. -/
theorem asksFor_of_readCommand {iscmd issubsys : Bool} {cmd : Option Bytes}
    (nothing : before.cmd = none)
    (read : readCommand payload before iscmd issubsys = .ok (some cmd)) :
    AsksFor payload iscmd issubsys cmd := by
  rw [readCommand] at read
  rw [AsksFor]
  cases iscmd with
  | false =>
    cases read
    exact nothing
  | true =>
    rw [if_neg (by decide)] at read
    rw [if_pos rfl]
    obtain ⟨⟨found, cmdlen⟩, requested, read⟩ := Except.bind_eq_ok.1 read
    rw [nothing, requestedCommand] at requested
    obtain ⟨⟨text, behind⟩, got, requested⟩ := Except.bind_eq_ok.1 requested
    cases requested
    refine ⟨found, behind, got, ?_⟩
    dsimp only at read
    split at read
    · cases read
    · split at read
      case _ subsystem =>
        rw [if_pos subsystem]
        split at read
        case _ isSftp =>
          cases read
          rw [List.take_of_length_le (Nat.le_of_eq isSftp.1)] at isSftp
          exact ⟨isSftp.2, rfl⟩
        case _ => cases read
      case _ plain =>
        rw [if_neg plain]
        cases read
        rfl

variable {after : ChanSess}

/-- Nothing that matters for a command has changed. -/
theorem ChanSess.Settled.becomes (settled : before.Settled opts) (pid : after.pid = before.pid)
    (cmd : after.cmd = none ∨ after.cmd = before.cmd)
    (original : opts.forced = none → after.originalCommand = before.originalCommand) :
    before.Becomes opts executes after where
  settled :=
    { forgotten := fun idle =>
        cmd.elim id fun same => same.trans (settled.forgotten (pid.symm.trans idle))
      unforced := fun none => (original none).trans (settled.unforced none) }
  child := .inl pid

variable {requested : Option Bytes}

/-- What a request of a type for commands is for. -/
theorem typeRequests_of_readCommand {type : Bytes} {iscmd issubsys : Bool}
    (kind : CommandType type iscmd issubsys) (nothing : before.cmd = none)
    (read : readCommand payload before iscmd issubsys = .ok (some requested)) :
    TypeRequests type payload requested := by
  have asks := asksFor_of_readCommand nothing read
  rcases kind with ⟨shell, rfl, rfl⟩ | ⟨exec, rfl, rfl⟩ | ⟨subsystem, rfl, rfl⟩
  · exact .inl ⟨shell, asks⟩
  · exact .inr (.inl ⟨exec, asks⟩)
  · exact .inr (.inr ⟨subsystem, asks⟩)

variable {outcome : Outcome}

/-- A child that is started executes what it has to. -/
theorem ChanSess.Starts.execchild (starts : before.Starts opts outcome requested after)
    (settled : before.Settled opts) :
    execchild after = opts.execution requested := by
  rw [← execchild_forceCommand settled requested, Channels.execchild, starts.cmd, starts.original]
  rfl

theorem ChanSess.Starts.settled (starts : before.Starts opts outcome requested after)
    (settled : before.Settled opts) :
    after.Settled opts where
  forgotten idle := absurd idle (Nat.pos_iff_ne_zero.1 starts.pid)
  unforced none := by
    rw [starts.original, forceCommand_eq, none]
    exact settled.unforced none

/-! ## Events -/

/-- The channel of a session after an event: a child is started by requests only, and
executes what the request is for. -/
def Channel.Follows (opts : Opts) (event : Event) (before : ChanSess) : Channel → Prop :=
  Channel.Serves (before.Becomes opts fun execution => ∃ payload outcome requested,
    event = .recvRequest payload outcome ∧ Requests payload requested ∧
      execution = opts.execution requested)

theorem Channel.Requested.follows (settled : before.Settled opts) {channel channel' : Channel}
    (serves : channel.Serves (· = before))
    (requested : channel.Requested opts payload outcome channel') :
    channel'.Follows opts (.recvRequest payload outcome) before := by
  obtain ⟨type, pending, chansess, typedata, rfl⟩ := serves
  rcases requested with rfl | ⟨_, chansess', kind, behind, wantreply, rest, typedata', isKind,
    isReply, answers⟩
  · exact ⟨type, pending, chansess, typedata, settled.becomes rfl (.inr rfl) fun _ => rfl⟩
  · cases typedata.symm.trans typedata'
    cases answers with
    | waits waits =>
      exact ⟨type, pending, _, rfl, settled.becomes waits.pid waits.cmd waits.original⟩
    | starts isCommand read starts _ _ _ =>
      have asks := typeRequests_of_readCommand isCommand (settled.forgotten starts.idle) read
      exact ⟨type, pending, _, rfl, starts.settled settled, .inr ⟨starts.idle, payload, outcome, _,
        rfl, ⟨kind, behind, wantreply, rest, isKind, isReply, asks⟩, starts.execchild settled⟩⟩

theorem Served.follows (settled : before.Settled opts) {slot after : Slot} {channel : Channel}
    (serves : channel.Serves (· = before))
    (served : Served opts payload outcome slot channel after) :
    after.Has (Channel.Follows opts (.recvRequest payload outcome) before) := by
  cases served with
  | silently requested => exact ⟨_, rfl, requested.follows settled serves⟩
  | replying requested _ _ => exact ⟨_, rfl, requested.follows settled serves⟩

theorem childExited_becomes (settled : before.Settled opts) {channel : Channel}
    (serves : channel.Serves (· = before)) (pid : Positive) (status : WaitStatus) :
    (childExited channel pid status).Serves (before.Becomes opts executes) := by
  obtain ⟨type, pending, chansess, typedata, rfl⟩ := serves
  rw [childExited.eq_def, typedata]
  dsimp only
  split
  · exact ⟨type, pending, _, rfl, settled.becomes rfl (.inr rfl) fun _ => rfl⟩
  · exact ⟨type, pending, chansess, typedata, settled.becomes rfl (.inr rfl) fun _ => rfl⟩

/-- Every event but a request leaves the child and the command of a session alone. -/
theorem ends_step_serves (settled : before.Settled opts) (index : Nat) (event : Event)
    {slot : Slot} (has : slot.Has (Channel.Serves (· = before))) :
    Ends (fun _ after => after.channel = none ∨ after.Has (Channel.Follows opts event before))
      (fun _ after => after.Has (Channel.Follows opts event before))
      (step opts index event slot) := by
  have same : ∀ slot : Slot, slot.Has (Channel.Serves (· = before)) →
      slot.Has (Channel.Follows opts event before) := by
    rintro slot ⟨channel, present, type, pending, chansess, typedata, rfl⟩
    exact ⟨channel, present, type, pending, chansess, typedata,
      settled.becomes rfl (.inr rfl) fun _ => rfl⟩
  have nothing := same slot has
  obtain ⟨channel, present, serves⟩ := has
  -- the events that keep the session itself
  have quiet : event.opens = false →
      (∀ channel', event.MayLeave channel.identity channel' →
        channel'.identity = channel.identity) →
      Ends (fun _ after => after.channel = none ∨ after.Has (Channel.Follows opts event before))
        (fun _ after => after.Has (Channel.Follows opts event before))
        (step opts index event slot) := by
    intro running keeps
    have kept : ∀ after : Slot, after.Has (event.MayLeave channel.identity) →
        after.Has (Channel.Follows opts event before) := by
      rintro after ⟨channel', present', may⟩
      exact same after ⟨channel', present',
        stable_serves _ channel channel' (keeps channel' may) serves⟩
    exact (ends_step_identity opts index running present).imp
      (fun _ after => .imp_right (kept after)) fun _ after => kept after
  cases event with
  | recvRequest payload outcome =>
    apply ends_getchannelMsg
    · intro missing
      cases missing.symm.trans present
    · intro channel' found
      cases found.symm.trans present
      exact (ends_recvMsgChannelRequest present rfl).imp
        (fun _ _ served => .inr (served.follows settled serves))
        fun _ _ failed => failed.1.follows settled serves
  | childExit pid status =>
    rw [step, onChannel_of_present present]
    exact .inr ⟨_, rfl, childExited_becomes settled serves pid status⟩
  | recvOpen type remotechan transwindow transmaxpacket init =>
    rw [step, ifFree_of_present present]
    exact .inr nothing
  | openInit type fd =>
    rw [step]
    split
    · rw [ifFree_of_present present]
      exact .inr nothing
    · exact .inr nothing
  | connectDone sock =>
    rw [step, onChannel_of_present present, serves.2.1]
    exact .inr nothing
  | _ => exact quiet rfl fun _ may => may

end

/-! ## The children of a session -/

/-- The session of a channel number. -/
def Slot.chansess (slot : Slot) : Option ChanSess := slot.channel.bind Channel.typedata

/-- The child that is started, if the process of a session becomes another one. -/
def launched (before after : Slot) : Option Execution :=
  match before.chansess, after.chansess with
  | some chansess, some chansess' =>
    if chansess'.pid ≠ chansess.pid then some (execchild chansess') else none
  | _, _ => none

/-- The children that are started on a session, with the events they are started by, until
the channel is gone or the program ends. -/
def launches (opts : Opts) (index : Nat) : List Event → Slot → List (Event × Execution)
  | [], _ => []
  | event :: events, slot =>
    match step opts index event slot with
    | .error _ after => ((launched slot after).map (event, ·)).toList
    | .ok _ after =>
      ((launched slot after).map (event, ·)).toList ++
        if after.channel.isSome then launches opts index events after else []

/-- The event is a request, and this is what has to be executed for it. -/
def Event.Demands (opts : Opts) (event : Event) (execution : Execution) : Prop :=
  ∃ payload outcome requested, event = .recvRequest payload outcome ∧
    Requests payload requested ∧ execution = opts.execution requested

section

variable {opts : Opts} {before : ChanSess} {slot after : Slot} {event : Event}

theorem Slot.chansess_of_serves {good : ChanSess → Prop} (has : slot.Has (Channel.Serves good)) :
    ∃ chansess, slot.chansess = some chansess ∧ good chansess ∧
      slot.Has (Channel.Serves (· = chansess)) := by
  obtain ⟨channel, present, type, pending, chansess, typedata, held⟩ := has
  refine ⟨chansess, ?_, held, channel, present, type, pending, chansess, typedata, rfl⟩
  rw [Slot.chansess, present]
  exact typedata

/-- One event starts no child, or the one that it demands on a session that had none. -/
theorem launched_spec (has : slot.Has (Channel.Serves (· = before)))
    (follows : after.Has (Channel.Follows opts event before)) :
    ∃ chansess, after.Has (Channel.Serves (· = chansess)) ∧ chansess.Settled opts ∧
      (launched slot after = none ∧ (before.pid ≠ 0 → chansess.pid ≠ 0) ∨
        before.pid = 0 ∧ chansess.pid ≠ 0 ∧
          ∃ execution, launched slot after = some execution ∧ event.Demands opts execution) := by
  obtain ⟨_, isBefore, rfl, _⟩ := Slot.chansess_of_serves has
  obtain ⟨chansess, isAfter, becomes, served⟩ := Slot.chansess_of_serves follows
  refine ⟨chansess, served, becomes.settled, ?_⟩
  rw [launched, isBefore, isAfter]
  dsimp only
  rcases becomes.child with same | ⟨idle, demanded⟩
  · refine .inl ⟨if_neg (not_not.2 same), fun running => ?_⟩
    rw [same]
    exact running
  · rw [idle]
    by_cases started : chansess.pid = 0
    · exact .inl ⟨if_neg (not_not.2 started), fun running => absurd rfl running⟩
    · exact .inr ⟨rfl, started, _, if_pos started, demanded⟩

/-- The children that may be started on a session: one if there is none yet, and only those
that are demanded. -/
structure ChanSess.Permits (opts : Opts) (chansess : ChanSess)
    (launches : List (Event × Execution)) : Prop where
  few : launches.length ≤ if chansess.pid = 0 then 1 else 0
  demanded : ∀ launch ∈ launches, launch.1.Demands opts launch.2

theorem ChanSess.permits_nil (opts : Opts) (chansess : ChanSess) : chansess.Permits opts [] :=
  ⟨Nat.zero_le _, fun _ listed => absurd listed List.not_mem_nil⟩

/-- What an event starts, and then the rest. -/
theorem permits_launched (has : slot.Has (Channel.Serves (· = before)))
    (follows : after.Has (Channel.Follows opts event before)) {rest : List (Event × Execution)}
    (later : ∀ chansess, after.Has (Channel.Serves (· = chansess)) → chansess.Settled opts →
      chansess.Permits opts rest) :
    before.Permits opts (((launched slot after).map (event, ·)).toList ++ rest) := by
  obtain ⟨chansess, served, settled, nothing | started⟩ := launched_spec has follows
  · obtain ⟨none, running⟩ := nothing
    obtain ⟨few, demanded⟩ := later chansess served settled
    rw [none]
    refine ⟨Nat.le_trans few ?_, demanded⟩
    by_cases idle : before.pid = 0
    · rw [if_pos idle]
      split
      · exact Nat.le_refl _
      · exact Nat.zero_le _
    · rw [if_neg (running idle)]
      exact Nat.zero_le _
  · obtain ⟨idle, running, execution, one, demanded⟩ := started
    have few := (later chansess served settled).few
    rw [if_neg running] at few
    rw [one, List.eq_nil_of_length_eq_zero (Nat.le_zero.1 few)]
    refine ⟨?_, fun launch listed => ?_⟩
    · rw [if_pos idle]
      exact Nat.le_refl _
    · cases List.mem_singleton.1 listed
      exact demanded

theorem launched_of_gone (gone : after.channel = none) : launched slot after = none := by
  have none : after.chansess = none := by
    rw [Slot.chansess, gone]
    rfl
  rw [launched, none]
  cases slot.chansess <;> rfl

/-- A session with a child starts no other, and one without starts at most one. -/
theorem launches_spec (index : Nat) (events : List Event) (settled : before.Settled opts)
    (has : slot.Has (Channel.Serves (· = before))) :
    before.Permits opts (launches opts index events slot) := by
  induction events generalizing slot before with
  | nil => exact before.permits_nil opts
  | cons event events hypothesis =>
    have ends := ends_step_serves settled index event has
    rw [launches]
    cases ran : step opts index event slot with
    | error failure after =>
      rw [ran] at ends
      dsimp only
      rw [← List.append_nil (Option.toList _)]
      exact permits_launched has ends fun chansess _ _ => chansess.permits_nil opts
    | ok value after =>
      rw [ran] at ends
      dsimp only
      rcases ends with gone | follows
      · rw [launched_of_gone gone, gone]
        exact before.permits_nil opts
      · apply permits_launched has follows
        intro chansess served settled'
        split
        · exact hypothesis settled' served
        · exact chansess.permits_nil opts

end

/-- **Forced commands cannot be bypassed.**  Whatever happens on a session, at most one child
is started, by a request, and it executes the forced command with that of the request as its
original command, or else the command of the request. -/
theorem oneCommand (opts : Opts) (index : Nat) (events : List Event) {slot : Slot}
    (opened : slot.Has (Channel.Serves (· = newchansess))) :
    (launches opts index events slot).length ≤ 1 ∧
      ∀ launch ∈ launches opts index events slot, launch.1.Demands opts launch.2 := by
  obtain ⟨few, demanded⟩ := launches_spec index events (settled_newchansess opts) opened
  exact ⟨few, demanded⟩

/-- A server that forces a command. -/
def forcingServer : Opts := { plainServer with forcedCommand := some (ascii "true") }

/-- A session that has just been opened. -/
def openedSession : Slot := finalState (step plainServer 0 sessionOpen .free)

/-- Two requests for a command, of which the first is granted. -/
def twoRequests : List Event :=
  [.recvRequest execRequest execOutcome, .recvRequest execRequest execOutcome]

theorem oneCommand_forced :
    (launches forcingServer 0 twoRequests openedSession).map (·.2) =
        [⟨some (ascii "true"), some (ascii "ls")⟩] ∧
      ∀ launch ∈ launches forcingServer 0 twoRequests openedSession,
        launch.1.Demands forcingServer launch.2 := by
  refine ⟨by decide +kernel, (oneCommand forcingServer 0 twoRequests ?_).2⟩
  exact ⟨_, rfl, rfl, rfl, _, rfl, rfl⟩

/-! ## Terminals -/

/-- A request for a terminal that is refused leaves everything as it was. -/
def RefusedWithoutEffect (opts : Opts) (payload : Buffer) (outcome : Outcome) (chansess : ChanSess)
    (slot : Slot) : Prop :=
  ∀ after, sessionpty opts payload outcome chansess slot = .ok false after → after = slot

section

variable {opts : Opts} {payload behind : Buffer} {outcome : Outcome} {chansess : ChanSess}
  {slot : Slot} {channel : Channel} {term : Bytes}

/-- The name of the terminal is entered. -/
def Slot.named (slot : Slot) (channel : Channel) (chansess : ChanSess) (term : Bytes) : Slot :=
  { slot with
    channel := some { channel with typedata := some { chansess with term := some term } } }

theorem sessionpty_eq (present : slot.channel = some channel) (allowed : opts.allowsPty)
    (read : bufGetstring payload = .ok (term, behind)) :
    sessionpty opts payload outcome chansess slot =
      (if term.length > maxTermLen then pure false
        else if chansess.master ≠ none then throw (.exit "Multiple pty requests")
        else
          match outcome.terminal with
          | none => pure false
          | some terminal => do
            setChansess
              { chansess with
                term := some term
                master := some terminal.master
                tty := true }
            fromResult (readTerminal behind terminal)
            pure true : ChanM Bool) (slot.named channel chansess term) := by
  rw [sessionpty, if_neg (not_not_intro allowed), read]
  change ((setChansess { chansess with term := some term } >>= fun _ => _ : ChanM Bool)) slot = _
  rw [setChansess, bind_assoc, theChannel_bind present]
  rfl

theorem Slot.named_eq_iff (present : slot.channel = some channel)
    (typedata : channel.typedata = some chansess) :
    slot.named channel chansess term = slot ↔ chansess.term = some term := by
  constructor
  · intro same
    have entered := congrArg Slot.channel same
    rw [present] at entered
    have entered := (congrArg Channel.typedata (Option.some_inj.1 entered)).trans typedata
    exact (congrArg ChanSess.term (Option.some_inj.1 entered)).symm
  · intro same
    have session : { chansess with term := some term } = chansess := by rw [← same]
    rw [Slot.named, session, ← typedata]
    cases slot
    cases present
    rfl

/-- The requests that are refused after the name has been entered. -/
theorem sessionpty_refused_iff (present : slot.channel = some channel) (allowed : opts.allowsPty)
    (read : bufGetstring payload = .ok (term, behind)) {after : Slot} :
    sessionpty opts payload outcome chansess slot = .ok false after ↔
      (maxTermLen < term.length ∨ chansess.master = none ∧ outcome.terminal = none) ∧
        slot.named channel chansess term = after := by
  rw [sessionpty_eq present allowed read]
  split
  case _ long =>
    exact ⟨fun refused => ⟨.inl long, (EStateM.Result.ok.inj refused).2⟩,
      fun refused => congrArg _ refused.2⟩
  case _ short =>
    split
    case _ hasTerminal =>
      exact ⟨nofun, fun refused => (refused.1.elim short fun none => hasTerminal none.1).elim⟩
    case _ none =>
      cases outcome.terminal with
      | none =>
        exact ⟨fun refused => ⟨.inr ⟨not_not.1 none, rfl⟩, (EStateM.Result.ok.inj refused).2⟩,
          fun refused => congrArg _ refused.2⟩
      | some terminal =>
        refine ⟨fun granted => ?_, fun refused => (refused.1.elim short fun none => nomatch none.2).elim⟩
        dsimp only at granted
        rw [EStateM.bind_of_ok (setChansess_eq rfl _)] at granted
        obtain ⟨_, _, _, ended⟩ := EStateM.bind_eq_ok.1 granted
        cases ended

/-- **A refused request for a terminal has no effect** exactly if the key forbids terminals,
or the session has that name already: the name is entered before it is checked and before a
terminal is allocated. -/
theorem refusedWithoutEffect_iff (present : slot.channel = some channel)
    (typedata : channel.typedata = some chansess) (opts : Opts) (payload : Buffer)
    (outcome : Outcome) :
    RefusedWithoutEffect opts payload outcome chansess slot ↔
      (opts.allowsPty → ∀ term behind, bufGetstring payload = .ok (term, behind) →
        (maxTermLen < term.length ∨ chansess.master = none ∧ outcome.terminal = none) →
          chansess.term = some term) := by
  by_cases allowed : opts.allowsPty
  · constructor
    · intro harmless _ term behind read refused
      rw [← Slot.named_eq_iff present typedata]
      exact harmless _ ((sessionpty_refused_iff present allowed read).2 ⟨refused, rfl⟩)
    · intro named after refused
      cases read : bufGetstring payload with
      | error failure =>
        rw [sessionpty, if_neg (not_not_intro allowed), read] at refused
        cases refused
      | ok result =>
        obtain ⟨term, behind⟩ := result
        obtain ⟨reason, rfl⟩ := (sessionpty_refused_iff present allowed read).1 refused
        exact (Slot.named_eq_iff present typedata).2 (named allowed term behind read reason)
  · refine iff_of_true (fun after refused => ?_) (fun yes => absurd yes allowed)
    rw [sessionpty, if_pos allowed] at refused
    cases refused
    rfl

end

/-- A server that allows terminals. -/
def terminalServer : Opts := { plainServer with allowsPty := true }

/-- A terminal with its name, its size and no modes. -/
def terminalBytes : Bytes :=
  wireString (ascii "xterm") ++ be32 80 ++ be32 24 ++ be32 0 ++ be32 0 ++ wireString [0]

/-- A 'pty-req' request without a reply. -/
def ptyRequest : Buffer :=
  .ofBytes (wireString (ascii "pty-req") ++ [0] ++ terminalBytes) (by decide)

/-- The request behind its type. -/
def terminalName : Buffer := .ofBytes terminalBytes (by decide)

/-- The key forbids terminals: the request is refused and nothing changes. -/
theorem refusedWithoutEffect_forbidden :
    RefusedWithoutEffect plainServer terminalName execOutcome newchansess openedSession := by
  refine (refusedWithoutEffect_iff rfl rfl plainServer terminalName execOutcome).2 ?_
  exact fun allowed => nomatch allowed

/-- **There is no terminal to be had**, and the command that follows is not executed, though
it would be if no terminal had been asked for. -/
theorem refusedWithoutEffect_fails :
    ¬ RefusedWithoutEffect terminalServer terminalName execOutcome newchansess openedSession ∧
      ((finalState (runAll (step terminalServer 0) [.recvRequest ptyRequest execOutcome,
        .recvRequest execRequest execOutcome] openedSession)).chansess.map (·.pid)) = some 0 ∧
      ((finalState (runAll (step terminalServer 0) [.recvRequest execRequest execOutcome]
        openedSession)).chansess.map (·.pid)) = some 7 := by
  refine ⟨fun harmless => ?_, by decide +kernel, by decide +kernel⟩
  obtain ⟨channel, present, typedata⟩ : ∃ channel, openedSession.channel = some channel ∧
      channel.typedata = some newchansess := ⟨_, rfl, rfl⟩
  obtain ⟨behind, read⟩ : ∃ behind, bufGetstring terminalName = .ok (ascii "xterm", behind) :=
    ⟨_, rfl⟩
  have refused : sessionpty terminalServer terminalName execOutcome newchansess openedSession =
      .ok false (openedSession.named channel newchansess (ascii "xterm")) :=
    (sessionpty_refused_iff present rfl read).2 ⟨.inr ⟨rfl, rfl⟩, rfl⟩
  nomatch (Slot.named_eq_iff present typedata).1 (harmless _ refused)

end Dropbear.Channels
