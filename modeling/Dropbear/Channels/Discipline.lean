/-
# Channel message discipline

Every event keeps the order of the messages, unless a vacant channel that has sent
its CLOSE gets its descriptors after all, or the client tells the peer the size of
its terminal on a session that has sent its CLOSE.  The source checks neither.
-/

import Dropbear.Buffer.Consume
import Dropbear.Channels.Orderly

namespace Dropbear.Channels

open Program

section

variable {opts : Opts} {channel : Channel} {slot : Slot} {sent : List Message}

/-! ## Opening -/

/-- A new channel: no flags, no descriptors. -/
structure Channel.Fresh (channel : Channel) (type : ChanType) (transmaxpacket : Nat) : Prop where
  type : channel.type = type
  typedata : channel.typedata = none
  readfd : channel.readfd = .uninit
  writefd : channel.writefd = .uninit
  errfd : channel.errfd = .closed
  errfdIsRead : channel.errfdIsRead
  bidirFd : channel.bidirFd = false
  sentEof : channel.sentEof = false
  sentClose : channel.sentClose = false
  connPending : channel.connPending = false
  awaitOpen : channel.awaitOpen = false
  flushing : channel.flushing = false
  transmaxpacket : channel.transmaxpacket = transmaxpacket

variable {type : ChanType}

theorem newchannel_fresh {index remotechan : Nat} {transwindow transmaxpacket : Nat}
    (made : newchannel opts index remotechan type transwindow transmaxpacket = .ok channel) :
    channel.Fresh type transmaxpacket := by
  obtain ⟨writebuf, _, made⟩ := Except.bind_eq_ok.1 made
  cases made
  exact ⟨rfl, rfl, rfl, rfl, rfl, rfl, rfl, rfl, rfl, rfl, rfl, rfl, rfl⟩

theorem failsOnly_cbufNew (size : Nat) : FailsOnly (· ≠ sentCloseAssert) (cbufNew size) := by
  rw [cbufNew]
  split
  · exact .error (by decide)
  · exact .ok _

theorem failsOnly_newchannel (index remotechan : Nat) (type : ChanType)
    (transwindow transmaxpacket : Nat) : FailsOnly (· ≠ sentCloseAssert)
      (newchannel opts index remotechan type transwindow transmaxpacket) := by
  apply (failsOnly_cbufNew _).bind
  intro writebuf _
  exact .ok _

/-- A channel that has sent nothing is in order. -/
theorem ordered_of_nothing_sent (noEof : channel.sentEof = false)
    (notClosed : channel.sentClose = false) (bidirFd : channel.bidirFd → channel.errfd = .closed)
    (vacant : channel.Vacant → channel.Idle) (awaiting : channel.awaitOpen → channel.Awaiting)
    (pending : channel.connPending → channel.type ≠ .svrchansess ∧ channel.typedata = none ∧
      channel.awaitOpen = false) : channel.Ordered [] where
  follows := .nil
  eofs := nofun
  closes := nofun
  reading sentEof := absurd sentEof (Bool.eq_false_iff.1 noEof)
  closed sentClose := absurd sentClose (Bool.eq_false_iff.1 notClosed)
  bidirFd := bidirFd
  vacant := vacant
  awaiting := awaiting
  pending := pending
  finished _ sentEof := absurd sentEof (Bool.eq_false_iff.1 noEof)

/-- The descriptors of a new channel are idle. -/
theorem Channel.Fresh.idle {transmaxpacket : Nat} (fresh : channel.Fresh type transmaxpacket) :
    channel.Idle :=
  ⟨fresh.writefd.trans fresh.readfd.symm, by rw [fresh.readfd]; rfl, fresh.errfd, fresh.errfdIsRead,
    fresh.bidirFd⟩

theorem ordered_refused (message : Message) {allowance : Allowance} :
    Slot.Ordered ⟨none, [message], 0, .empty, allowance⟩ :=
  ordered_of_removed (List.pairwise_singleton _ _)

theorem orderly_openConfirmation (ordered : channel.Ordered [])
    (notClosed : channel.sentClose = false) {allowance : Allowance} :
    Ends (fun _ after => after.Ordered) EndsWell
      (sendMsgChannelOpenConfirmation ⟨some channel, [], 0, .empty, allowance⟩) :=
  (ordered.append notClosed rfl rfl rfl).slot

theorem orderly_recvMsgChannelOpen (index : Nat) (type : ChanType)
    (remotechan transwindow transmaxpacket : Nat) (init : InitResult) (slot : Slot) :
    Ends (fun _ after => after.Ordered) EndsWell
      (recvMsgChannelOpen opts index type remotechan transwindow transmaxpacket init slot) := by
  rw [recvMsgChannelOpen, EStateM.bind_of_ok (show takeNumber slot = .ok () .free from rfl)]
  split
  · exact ordered_refused _
  · apply orderly_read (failsOnly_newchannel _ _ _ _ _) (ordered_of_removed .nil)
    intro channel made
    rw [noteAllowance_bind]
    have fresh := newchannel_fresh made
    have notAwaiting : channel.awaitOpen → False := fun waits => by
      rw [fresh.awaitOpen] at waits
      cases waits
    have notPending : channel.connPending → False := fun pending => by
      rw [fresh.connPending] at pending
      cases pending
    rcases inithandler_cases channel init with ⟨_, handled⟩ | ⟨fd, handled⟩ | ⟨reason, handled⟩ |
      ⟨notSession, _, handled⟩
    · rw [handled]
      have session : Channel.Ordered [] { channel with typedata := some newchansess } := by
        apply ordered_of_nothing_sent
        · exact fresh.sentEof
        · exact fresh.sentClose
        · exact fun _ => fresh.errfd
        · exact fun _ => { fresh.idle with }
        · exact fun waits => (notAwaiting waits).elim
        · exact fun pending => (notPending pending).elim
      exact orderly_openConfirmation session fresh.sentClose
    · rw [handled]
      have connected : Channel.Ordered []
          { channel with
            readfd := .fd fd
            writefd := .fd fd
            bidirFd := true } := by
        apply ordered_of_nothing_sent
        · exact fresh.sentEof
        · exact fresh.sentClose
        · exact fun _ => fresh.errfd
        · rintro (pending | ⟨chansess, there, _⟩)
          · exact (notPending pending).elim
          · cases fresh.typedata.symm.trans there
        · exact fun waits => (notAwaiting waits).elim
        · exact fun pending => (notPending pending).elim
      exact orderly_openConfirmation connected fresh.sentClose
    · rw [handled]
      exact ordered_refused _
    · rw [handled]
      have deferred : Channel.Ordered [] { channel with connPending := true } := by
        apply ordered_of_nothing_sent
        · exact fresh.sentEof
        · exact fresh.sentClose
        · exact fun _ => fresh.errfd
        · exact fun _ => { fresh.idle with }
        · exact fun waits => (notAwaiting waits).elim
        · exact fun _ => ⟨notSession, fresh.typedata, fresh.awaitOpen⟩
      exact deferred.slot

theorem orderly_sendMsgChannelOpenInit (own : type ∈ ownChantypes opts.isServer) (index fd : Nat)
    (slot : Slot) :
    Ends (fun _ after => after.Ordered) EndsWell
      (sendMsgChannelOpenInit opts index fd type slot) := by
  rw [sendMsgChannelOpenInit, EStateM.bind_of_ok (show takeNumber slot = .ok () .free from rfl)]
  apply orderly_read (failsOnly_newchannel _ _ _ _ _) (ordered_of_removed .nil)
  intro channel made
  have fresh := newchannel_fresh made
  have notSession : type ≠ .svrchansess := by
    rintro rfl
    cases isServer : opts.isServer <;> rw [isServer] at own <;> exact absurd own (by decide)
  have notPending : channel.connPending → False := fun pending => by
    rw [fresh.connPending] at pending
    cases pending
  have opened : Channel.Ordered []
      { channel with
        writefd := .fd fd
        readfd := .fd fd
        bidirFd := true
        awaitOpen := true } := by
    apply ordered_of_nothing_sent
    · exact fresh.sentEof
    · exact fresh.sentClose
    · exact fun _ => fresh.errfd
    · rintro (pending | ⟨chansess, there, _⟩)
      · exact (notPending pending).elim
      · cases fresh.typedata.symm.trans there
    · exact fun _ => ⟨rfl, rfl, fresh.transmaxpacket, fresh.sentEof, fresh.flushing,
        fresh.type.symm ▸ notSession, fresh.typedata⟩
    · exact fun pending => (notPending pending).elim
  have requested : Channel.Ordered ([] ++ [.openInit index opts.recvWindow recvMaxChannelDataLen])
      _ := opened.append fresh.sentClose rfl rfl rfl
  exact requested.slot

/-- A connection that is made before the CLOSE. -/
theorem orderly_channelConnectDone (ordered : channel.Ordered slot.sent)
    (pending : channel.connPending) (notClosed : channel.sentClose = false) (sock : Option Nat) :
    Ends (fun _ after => after.Ordered) EndsWell (channelConnectDone sock channel slot) := by
  have idle := ordered.vacant (.inl pending)
  obtain ⟨_, noData, notAwaiting⟩ := ordered.pending pending
  have noEof : channel.sentEof = false := by
    cases sentEof : channel.sentEof with
    | false => rfl
    | true =>
      have sentClose := ordered.finished (.inl pending) sentEof
      rw [notClosed] at sentClose
      cases sentClose
  cases sock with
  | none =>
    have follows :
        (slot.sent ++ [Message.openFailure channel.remotechan sshOpenConnectFailed]).Pairwise
          MayFollow :=
      ordered.follows_append notClosed fun _ => ⟨rfl, rfl⟩
    exact ordered_of_removed follows
  | some sock =>
    have connected : Channel.Ordered slot.sent
        { channel with
          readfd := .fd sock
          writefd := .fd sock
          bidirFd := true
          connPending := false } := by
      have notVacant : ¬ Channel.Vacant
          { channel with
            readfd := .fd sock
            writefd := .fd sock
            bidirFd := true
            connPending := false } := by
        rintro (pending | ⟨chansess, there, _⟩)
        · cases pending
        · cases noData.symm.trans there
      exact
        { follows := ordered.follows
          eofs := ordered.eofs
          closes := ordered.closes
          reading := fun sentEof => absurd sentEof (Bool.eq_false_iff.1 noEof)
          closed := fun sentClose => absurd sentClose (Bool.eq_false_iff.1 notClosed)
          bidirFd := fun _ => idle.errfd
          vacant := fun vacant => absurd vacant notVacant
          awaiting := fun waits => absurd waits (Bool.eq_false_iff.1 notAwaiting)
          pending := nofun
          finished := fun vacant => absurd vacant notVacant }
    exact (connected.append notClosed rfl rfl rfl).slot

theorem orderly_requestIf (running : slot.Running) (wanted : Bool) (type : String) :
    Ends (fun _ after => after.Running) EndsWell (requestIf wanted type slot) := by
  obtain ⟨channel, present, ordered, notClosed⟩ := running
  rw [requestIf]
  split
  · apply (orderly_sendChannelRequest present ordered notClosed type).mono
    rintro _ after ⟨present, ordered⟩
    exact ⟨channel, present, ordered, notClosed⟩
  · exact ⟨channel, present, ordered, notClosed⟩

theorem orderly_setReadMangler (running : slot.Running) :
    Ends (fun _ after => after.Running) EndsWell (setReadMangler opts slot) := by
  obtain ⟨channel, present, ordered, notClosed⟩ := running
  rw [setReadMangler, theChannel_bind present]
  exact ⟨_, rfl, ordered.congr rfl, notClosed⟩

/-- The client's session gets its descriptors when it is confirmed.  It has not read
anything before. -/
theorem orderly_cliInitStdpipeSess (present : slot.channel = some channel)
    (ordered : channel.Ordered slot.sent) (noEof : channel.sentEof = false)
    (notVacant : ¬ channel.Vacant) (confirmed : channel.awaitOpen = false) :
    Ends (fun _ after => after.Running) EndsWell (cliInitStdpipeSess opts slot) := by
  have notClosed := ordered.notClosed_of_noEof noEof
  rw [cliInitStdpipeSess, theChannel_bind present]
  apply orderly_read (failsOnly_cbufNew _) (Slot.Live.ordered ⟨channel, present, ordered⟩)
  intro extrabuf _
  refine ⟨_, rfl, ?_, notClosed⟩
  exact
    { follows := ordered.follows
      eofs := ordered.eofs
      closes := ordered.closes
      reading := fun sentEof => absurd sentEof (Bool.eq_false_iff.1 noEof)
      closed := fun sentClose => absurd sentClose (Bool.eq_false_iff.1 notClosed)
      bidirFd := nofun
      vacant := fun vacant => absurd vacant notVacant
      awaiting := fun waits => absurd waits (Bool.eq_false_iff.1 confirmed)
      pending := ordered.pending
      finished := fun vacant => absurd vacant notVacant }

theorem orderly_cliInitchansess (present : slot.channel = some channel)
    (ordered : channel.Ordered slot.sent) (noEof : channel.sentEof = false)
    (notVacant : ¬ channel.Vacant) (confirmed : channel.awaitOpen = false) :
    Ends (fun _ after => after.Running) EndsWell (cliInitchansess opts slot) := by
  apply (orderly_cliInitStdpipeSess present ordered noEof notVacant confirmed).bind
  intro _ after running
  apply (orderly_requestIf running _ _).bind
  intro _ after running
  apply (orderly_requestIf running _ _).bind
  intro _ after running
  apply (orderly_requestIf running true _).bind
  intro _ after running
  exact orderly_setReadMangler running

theorem orderly_confirmedInit (present : slot.channel = some channel)
    (ordered : channel.Ordered slot.sent) (noEof : channel.sentEof = false)
    (notVacant : ¬ channel.Vacant) (confirmed : channel.awaitOpen = false) (type : ChanType) :
    Ends (fun _ after => after.Ordered) EndsWell (confirmedInit opts type slot) := by
  cases type with
  | clichansess =>
    exact (orderly_cliInitchansess present ordered noEof notVacant confirmed).mono
      fun _ _ => Slot.Running.ordered
  | cliChanNetcat =>
    exact (orderly_cliInitStdpipeSess present ordered noEof notVacant confirmed).mono
      fun _ _ => Slot.Running.ordered
  | _ => exact Slot.Live.ordered ⟨channel, present, ordered⟩

theorem orderly_recvMsgChannelOpenConfirmation (present : slot.channel = some channel)
    (ordered : channel.Ordered slot.sent) (remotechan transwindow transmaxpacket : Nat) :
    Ends (fun _ after => after.Ordered) EndsWell
      (recvMsgChannelOpenConfirmation opts remotechan transwindow transmaxpacket channel slot) := by
  rw [recvMsgChannelOpenConfirmation]
  split
  · exact ⟨ordered.disciplined present, by decide⟩
  case _ waits =>
    have waits := not_not.1 waits
    have awaiting := ordered.awaiting waits
    have notVacant : ¬ channel.Vacant := by
      rintro (pending | ⟨chansess, there, _⟩)
      · have confirmed := (ordered.pending pending).2.2
        rw [waits] at confirmed
        cases confirmed
      · cases awaiting.typedata.symm.trans there
    have entered : Channel.Ordered slot.sent
        { channel with
          awaitOpen := false
          remotechan := remotechan
          transwindow := transwindow
          transmaxpacket := transmaxpacket } :=
      { ordered with
        vacant := fun vacant => absurd vacant notVacant
        awaiting := nofun
        pending := fun pending => absurd (.inl pending) notVacant }
    rw [noteAllowance_bind]
    apply ends_setChannel
    apply orderly_confirmedInit rfl
    · exact entered
    · exact awaiting.sentEof
    · exact notVacant
    · rfl

/-! ## Events -/

theorem orderly_channelio (live : slot.Live) (io : IoResults) :
    Ends (fun _ after => after.Ordered) EndsWell (channelio opts io slot) := by
  refine ends_channelio live ?_ ?_ ?_ ?_ fun _ => Slot.Live.ordered
  · rintro slot ⟨channel, present, _⟩
    exact ⟨channel, present⟩
  · rintro slot channel isextended result lastChar ⟨other, present', ordered⟩ present isOpen isRead
    cases present.symm.trans present'
    refine orderly_sendMsgChannelData present ordered isextended isOpen (ordered.noEof ?_) _ _
    cases isextended with
    | false => exact .inl isOpen
    | true => exact .inr ⟨isRead rfl, isOpen⟩
  · rintro slot channel into result ⟨other, present', ordered⟩ present isOpen _
    cases present.symm.trans present'
    apply (orderly_of_receives (calm_running.receives_writechannel into none result)
      ⟨channel, present, ordered, ordered.notClosed isOpen⟩).mono
    rintro _ after ⟨channel, present, ordered, _⟩
    exact ⟨channel, present, ordered⟩
  · rintro slot ⟨channel, present, ordered⟩
    exact ends_checkClose present ordered io.pending

end

/-- A request for a command on a vacant channel, or the end of a deferred connection, comes
before the CLOSE of the channel, and so does a change of the window size. -/
def Timely : Event → Slot → Prop
  | .recvRequest payload _, slot => AsksCommand payload →
    ∀ channel, slot.channel = some channel → channel.Vacant → channel.sentClose = false
  | .connectDone _, slot =>
    ∀ channel, slot.channel = some channel → channel.connPending → channel.sentClose = false
  | .winchange, slot =>
    ∀ channel, slot.channel = some channel → channel.type = .clichansess → channel.sentClose = false
  | _, _ => True

theorem Channel.Ordered.childExited {channel : Channel} {sent : List Message}
    (ordered : channel.Ordered sent) (pid : Positive) (status : WaitStatus) :
    (childExited channel pid status).Ordered sent := by
  unfold Channels.childExited
  split
  · exact ordered
  case _ chansess there =>
    split
    · apply ordered.setChansess there
      rfl
    · exact ordered

/-- A message for a channel. -/
theorem orderly_message {kind : String} {next : Channel → ChanM Unit} {slot : Slot}
    (ordered : slot.Ordered)
    (rest : ∀ channel, slot.channel = some channel → channel.Ordered slot.sent →
      Ends (fun _ after => after.Ordered) EndsWell (next channel slot)) :
    Ends (fun _ after => after.Ordered) EndsWell ((getchannelMsg kind >>= next) slot) := by
  apply ends_getchannelMsg
  · intro _
    exact ⟨ordered.disciplined, nofun⟩
  · intro channel present
    exact rest channel present (ordered.2 channel present)

/-- An event on the local side. -/
theorem orderly_local {act : Channel → ChanM Unit} {slot : Slot} (ordered : slot.Ordered)
    (acts : ∀ channel, slot.channel = some channel → channel.Ordered slot.sent →
      Ends (fun _ after => after.Ordered) EndsWell (act channel slot)) :
    Ends (fun _ after => after.Ordered) EndsWell (onChannel act slot) := by
  apply ends_onChannel
  · intro _
    exact ordered
  · intro channel present
    exact acts channel present (ordered.2 channel present)

/-- **Every event that is timely keeps the order.** -/
theorem orderly_step (opts : Opts) (index : Nat) (event : Event) (slot : Slot)
    (timely : Timely event slot) (ordered : slot.Ordered) :
    Ends (fun _ after => after.Ordered) EndsWell (step opts index event slot) := by
  cases event with
  | recvOpen type remotechan transwindow transmaxpacket init =>
    exact ends_ifFree ordered (orderly_recvMsgChannelOpen _ _ _ _ _ _ slot)
  | recvOpenConfirmation remotechan transwindow transmaxpacket =>
    apply orderly_message ordered
    intro channel present inOrder
    exact orderly_recvMsgChannelOpenConfirmation present inOrder _ _ _
  | recvOpenFailure =>
    apply orderly_message ordered
    intro channel present inOrder
    rw [recvMsgChannelOpenFailure]
    split
    · exact ⟨ordered.disciplined, by decide⟩
    · exact ordered_of_removed ordered.1
  | recvWindowAdjust incr =>
    apply orderly_message ordered
    intro channel present inOrder
    have adjusted : ∀ transwindow,
        Channel.Ordered slot.sent { channel with transwindow := transwindow } :=
      fun transwindow => inOrder.congr rfl
    exact (adjusted _).slot
  | recvData payload result =>
    apply orderly_message ordered
    intro channel present inOrder
    exact orderly_commonRecvMsgChannelData present inOrder _ _ _
  | recvExtendedData payload result =>
    rw [step]
    split
    · exact ordered
    · apply orderly_message ordered
      intro channel present inOrder
      rw [recvMsgChannelExtendedData]
      split
      · exact ordered
      · apply orderly_readBuffer (failsOnly_bufGetint payload) ordered
        rintro ⟨datatype, payload'⟩
        dsimp only
        split
        · exact ordered
        · exact orderly_commonRecvMsgChannelData present inOrder _ _ _
  | recvEof pending =>
    apply orderly_message ordered
    intro channel present inOrder
    apply ends_setChannel
    apply ends_checkClose rfl
    exact inOrder.congr rfl
  | recvClose pending =>
    apply orderly_message ordered
    intro channel present inOrder
    apply ends_setChannel
    apply ends_checkClose rfl
    exact inOrder.congr rfl
  | recvRequest payload outcome =>
    apply orderly_message ordered
    intro channel present inOrder
    apply (orderly_recvMsgChannelRequest present inOrder (timely · channel present) _).mono
    exact fun _ _ => Slot.Live.ordered
  | openInit type fd =>
    rw [step]
    split
    case _ own => exact ends_ifFree ordered (orderly_sendMsgChannelOpenInit own _ _ slot)
    case _ => exact ordered
  | connectDone sock =>
    apply orderly_local ordered
    intro channel present inOrder
    split
    case _ pending =>
      exact orderly_channelConnectDone inOrder pending (timely channel present pending) _
    case _ => exact ordered
  | channelio io =>
    apply orderly_local ordered
    intro channel present inOrder
    exact orderly_channelio ⟨channel, present, inOrder⟩ io
  | childExit pid status =>
    apply orderly_local ordered
    intro channel present inOrder
    exact (inOrder.childExited pid status).slot
  | winchange =>
    apply orderly_local ordered
    intro channel present inOrder
    rw [cliChansessWinchange]
    split
    case _ session =>
      have notClosed := timely channel present session
      apply (orderly_sendChannelRequest present inOrder notClosed _).mono
      rintro _ after ⟨present, inOrder⟩
      exact Slot.Live.ordered ⟨channel, present, inOrder⟩
    case _ => exact ordered
  | keepalive =>
    apply orderly_local ordered
    intro channel present inOrder
    rw [sendMsgKeepalive]
    split
    · exact ordered
    case _ quiet =>
      have noEof : channel.sentEof = false := Bool.eq_false_iff.2 fun sent => quiet (.inl sent)
      have notClosed := inOrder.notClosed_of_noEof noEof
      apply (orderly_sendChannelRequest present inOrder notClosed _).mono
      rintro _ after ⟨present, inOrder⟩
      exact Slot.Live.ordered ⟨channel, present, inOrder⟩

/-- **Channel message discipline.**  In every run whose events are timely a channel
sends at most one EOF and one CLOSE, no data after the EOF and nothing after the
CLOSE, has no open descriptor once it has sent its CLOSE, and the assertion of
`send_msg_channel_data` never fails. -/
theorem channelDiscipline (opts : Opts) (index : Nat) (events : List Event)
    (timely : AllMeet (step opts index) Timely events .free) :
    (finalState (runAll (step opts index) events .free)).Disciplined ∧
      ∀ failure after, runAll (step opts index) events .free = .error failure after →
        failure ≠ sentCloseAssert := by
  have ends := ends_runAll Timely (orderly_step opts index) timely (ordered_of_removed .nil)
  cases ran : runAll (step opts index) events .free with
  | ok value after =>
    rw [ran] at ends
    exact ⟨Slot.Ordered.disciplined ends, fun _ _ same => by cases same⟩
  | error failure after =>
    rw [ran] at ends
    refine ⟨ends.1, fun other state same => ?_⟩
    cases same
    exact ends.2

/-! ## Where the order is lost -/

/-- A server without forced commands and terminals. -/
def plainServer : Opts where
  isServer := true
  haveWritev := true
  recvWindow := 16
  agentFwd := false
  wantpty := false
  cmd := none
  isSubsystem := false
  forcedCommand := none
  pubkeyForcedCommand := none
  allowsPty := false
  signame := fun _ => none

/-- An 'exec' request without a reply. -/
def execRequest : Buffer :=
  .ofBytes (wireString (ascii "exec") ++ [0] ++ wireString (ascii "ls")) (by decide)

/-- The command is started, with pipes. -/
def execOutcome : Outcome where
  spawned := some { pid := ⟨7, by decide⟩, writefd := 4, readfd := 5, errfd := 6 }
  forked := none
  lastexit := none
  terminal := none
  other := some false

/-- The command has written something. -/
def readable : IoResults where
  readReady := true
  errReadReady := false
  writeReady := false
  errWriteReady := false
  read := .got (ascii "x")
  errRead := .got []
  lastChar := 0
  errLastChar := 0
  write := .wrote 0
  errWrite := .wrote 0
  channelSignalPending := false
  pending := { readfd := true, errfd := true }

/-- The peer opens a session. -/
def sessionOpen : Event := .recvOpen .svrchansess 3 1000 1000 .ready

theorem channelDiscipline_session :
    (finalState (runAll (step plainServer 0)
        [sessionOpen, .recvRequest execRequest execOutcome, .channelio readable,
          .recvEof { readfd := true, errfd := true }] .free)).Disciplined ∧
      ∀ failure after, runAll (step plainServer 0)
        [sessionOpen, .recvRequest execRequest execOutcome, .channelio readable,
          .recvEof { readfd := true, errfd := true }] .free = .error failure after →
        failure ≠ sentCloseAssert := by
  apply channelDiscipline
  refine ⟨trivial, fun opened ran => ⟨?_, fun _ _ => ⟨trivial, fun _ _ => ⟨trivial, fun _ _ =>
    trivial⟩⟩⟩⟩
  cases ran
  intro _ channel present _
  cases present
  rfl

/-- **A session that is sent an EOF before its command has sent its CLOSE when the
command is started, and the assertion fails when the command writes something.** -/
theorem exec_after_close :
    failureOf (runAll (step plainServer 0)
      [sessionOpen, .recvEof { readfd := true, errfd := true },
        .recvRequest execRequest execOutcome, .channelio readable] .free) =
      some sentCloseAssert := by
  decide +kernel

end Dropbear.Channels
