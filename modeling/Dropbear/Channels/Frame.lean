/-
# What the window of a channel depends on

The receive window is a matter of a few fields of the channel, the windows granted
in messages, and the bytes that arrived.  All functions but those for data leave
this part alone, and end the process only with messages of their own.
-/

import Dropbear.Buffer.Failure
import Dropbear.Channels.Transmit

namespace Dropbear.Channels

open Program

/-! ## Steps of a computation -/

variable {channel : Channel}

section

variable {α β : Type} {returned : β → Slot → Prop} {failed : Exit → Slot → Prop} {slot : Slot}

theorem theChannel_bind {slot : Slot} (present : slot.channel = some channel)
    (next : Channel → ChanM α) : (theChannel >>= next) slot = next channel slot := by
  have found : theChannel slot = .ok channel slot := by
    rw [theChannel, EStateM.get_bind_apply, present]
    rfl
  exact EStateM.bind_of_ok found next

theorem ends_fromResult {computed : Except Exit α} {next : α → ChanM β}
    (fails : ∀ failure, computed = .error failure → failed failure slot)
    (rest : ∀ value, computed = .ok value → Ends returned failed (next value slot)) :
    Ends returned failed ((fromResult computed >>= next) slot) := by
  cases computed with
  | ok value => exact rest value rfl
  | error failure => exact fails failure rfl

theorem ends_setChannel {next : Unit → ChanM β}
    (rest : Ends returned failed (next () { slot with channel := some channel })) :
    Ends returned failed ((setChannel channel >>= next) slot) := rest

theorem noteStream_bind (change : Stream → Stream) (next : Unit → ChanM β) (slot : Slot) :
    (noteStream change >>= next) slot = next () { slot with stream := change slot.stream } := rfl

theorem noteAllowance_bind (change : Allowance → Allowance) (next : Unit → ChanM β)
    (slot : Slot) :
    (noteAllowance change >>= next) slot =
      next () { slot with allowance := change slot.allowance } := rfl

/-- The message is about an existing channel, or it is refused. -/
theorem ends_getchannelMsg {kind : String} {next : Channel → ChanM β}
    (missing : slot.channel = none → failed (.exit kind) slot)
    (rest : ∀ channel, slot.channel = some channel → Ends returned failed (next channel slot)) :
    Ends returned failed ((getchannelMsg kind >>= next) slot) := by
  cases present : slot.channel with
  | none =>
    have refused : getchannelMsg kind slot = .error (.exit kind) slot := by
      rw [getchannelMsg, EStateM.get_bind_apply, present]
      rfl
    rw [EStateM.bind_of_error refused]
    exact missing present
  | some channel =>
    have found : getchannelMsg kind slot = .ok channel slot := by
      rw [getchannelMsg, EStateM.get_bind_apply, present]
      rfl
    rw [EStateM.bind_of_ok found]
    exact rest channel present

end

section

variable {returned : Unit → Slot → Prop} {failed : Exit → Slot → Prop} {slot : Slot}

theorem ends_onChannel {act : Channel → ChanM Unit}
    (missing : slot.channel = none → returned () slot)
    (acts : ∀ channel, slot.channel = some channel → Ends returned failed (act channel slot)) :
    Ends returned failed (onChannel act slot) := by
  rw [onChannel, EStateM.get_bind_apply]
  cases present : slot.channel with
  | none => exact missing present
  | some channel => exact acts channel present

theorem onChannel_of_present (present : slot.channel = some channel)
    (act : Channel → ChanM Unit) : onChannel act slot = act channel slot := by
  rw [onChannel, EStateM.get_bind_apply, present]

theorem onChannel_of_absent (absent : slot.channel = none) (act : Channel → ChanM Unit) :
    onChannel act slot = .ok () slot := by
  rw [onChannel, EStateM.get_bind_apply, absent]
  rfl

theorem ifFree_of_present (present : slot.channel = some channel) (act : ChanM Unit) :
    ifFree act slot = .ok () slot := by
  rw [ifFree, EStateM.get_bind_apply, present]
  rfl

theorem ends_ifFree {act : ChanM Unit} (same : returned () slot)
    (acts : Ends returned failed (act slot)) : Ends returned failed (ifFree act slot) := by
  rw [ifFree, EStateM.get_bind_apply]
  cases slot.channel with
  | some channel => exact same
  | none => exact acts

end

/-- What the handler of the type does to a new channel. -/
theorem inithandler_cases (channel : Channel) (init : InitResult) :
    (channel.type = .svrchansess ∧
        inithandler channel init = ({ channel with typedata := some newchansess }, .ready)) ∨
      (∃ fd, inithandler channel init =
        ({ channel with readfd := .fd fd, writefd := .fd fd, bidirFd := true }, .connected fd)) ∨
      (∃ reason, inithandler channel init = (channel, .refused reason)) ∨
      (channel.type ≠ .svrchansess ∧ channel.type ≠ .cliChanAgent ∧
        inithandler channel init = ({ channel with connPending := true }, .inProgress)) := by
  rw [inithandler]
  split
  case _ session => exact .inl ⟨session, rfl⟩
  · cases init with
    | connected fd => exact .inr (.inl ⟨fd, rfl⟩)
    | _ => exact .inr (.inr (.inl ⟨_, rfl⟩))
  case _ notSession notAgent =>
    cases init with
    | refused reason => exact .inr (.inr (.inl ⟨reason, rfl⟩))
    | _ => exact .inr (.inr (.inr ⟨notSession, notAgent, rfl⟩))

/-- What the parts of the session loop keep of a slot, serving it keeps. -/
theorem ends_channelio {opts : Opts} {holds : Slot → Prop} {returned : Unit → Slot → Prop}
    {failed : Exit → Slot → Prop} {io : IoResults} {slot : Slot} (held : holds slot)
    (present : ∀ slot, holds slot → ∃ channel, slot.channel = some channel)
    (reads : ∀ slot channel (isextended : Bool) result lastChar, holds slot →
      slot.channel = some channel → (if isextended then channel.errfd else channel.readfd).isOpen →
        (isextended → channel.errfdIsRead) →
          Ends (fun _ => holds) failed (sendMsgChannelData isextended result lastChar slot))
    (writes : ∀ slot channel into result, holds slot → slot.channel = some channel →
      (channel.fdInto into).isOpen → (channel.cbuf into).isSome →
        Ends (fun _ => holds) failed (writechannel opts into none result slot))
    (closes : ∀ slot, holds slot → Ends returned failed (checkClose opts io.pending slot))
    (done : ∀ slot, holds slot → returned () slot) :
    Ends returned failed (channelio opts io slot) := by
  have serves : ∀ there ready act slot, holds slot →
      (∀ channel, slot.channel = some channel → there channel →
        Ends (fun _ => holds) failed (act slot)) →
      Ends (fun _ => holds) failed (whenReady there ready act slot) := by
    intro there ready act slot held acts
    obtain ⟨channel, isPresent⟩ := present slot held
    rw [whenReady, theChannel_bind isPresent]
    split
    case _ isReady => exact (acts channel isPresent isReady.1).andReturn true
    case _ => exact held
  apply (serves _ _ _ slot held fun channel isPresent isOpen =>
    reads slot channel false _ _ held isPresent isOpen nofun).bind
  intro sentData slot held
  apply (serves _ _ _ slot held fun channel isPresent isOpen =>
    have isOpen := Bool.and_eq_true_iff.1 isOpen
    reads slot channel true _ _ held isPresent isOpen.2 fun _ => isOpen.1).bind
  intro sentErr slot held
  apply (serves _ _ _ slot held fun channel isPresent isOpen =>
    (writes slot channel .writebuf _ held isPresent isOpen rfl).andReturn ()).bind
  intro wrote slot held
  apply (serves _ _ _ slot held fun channel isPresent isOpen =>
    have isOpen := Bool.and_eq_true_iff.1 isOpen
    have buffered : channel.extrabuf.isSome := by
      rw [← Option.not_isNone]
      exact isOpen.1
    (writes slot channel .extrabuf _ held isPresent isOpen.2 buffered).andReturn ()).bind
  intro wroteErr slot held
  split
  · exact closes slot held
  · exact done slot held

/-! ## Windows -/

/-- The window that a message grants. -/
def Message.grant : Message → Nat
  | .openInit _ recvwindow _ => recvwindow
  | .openConfirmation _ _ recvwindow _ => recvwindow
  | .windowAdjust _ incr => incr
  | _ => 0

/-- The window granted to the peer so far. -/
def granted (sent : List Message) : Nat := (sent.map Message.grant).sum

theorem granted_append (sent : List Message) (message : Message) :
    granted (sent ++ [message]) = granted sent + message.grant := by
  simp [granted]

theorem filter_append_of_not {sent : List Message} {message : Message}
    (noData : message.isData = false) :
    (sent ++ [message]).filter Message.isData = sent.filter Message.isData := by
  rw [List.filter_append, List.filter_cons_of_neg (by rw [noData]; decide)]
  exact List.append_nil _

/-- The part of a channel and its slot that receiving and sending data is about. -/
structure View where
  type : ChanType
  recvwindow : Nat
  recvdonelen : Nat
  writebuf : CircBuffer
  extrabuf : Option CircBuffer
  connPending : Bool
  arrived : Nat
  granted : Nat
  stream : Stream
  transmit : Transmit

/-- The channel has the view's fields, and nothing to write to while its connection is
pending. -/
structure Channel.Fits (channel : Channel) (view : View) : Prop where
  type : channel.type = view.type
  recvwindow : channel.recvwindow = view.recvwindow
  recvdonelen : channel.recvdonelen = view.recvdonelen
  writebuf : channel.writebuf = view.writebuf
  extrabuf : channel.extrabuf = view.extrabuf
  connPending : channel.connPending = view.connPending
  transwindow : channel.transwindow = view.transmit.transwindow
  transmaxpacket : channel.transmaxpacket = view.transmit.transmaxpacket
  awaitOpen : channel.awaitOpen = view.transmit.awaitOpen
  idle : view.connPending → channel.writefd.isOpen = false ∧ channel.errfd.isOpen = false

/-- The fields that the view is about. -/
def Channel.viewed (channel : Channel) :
    (ChanType × Nat × Nat × CircBuffer × Option CircBuffer × Bool) × (Nat × Nat × Bool) × Fd × Fd :=
  ((channel.type, channel.recvwindow, channel.recvdonelen, channel.writebuf, channel.extrabuf,
    channel.connPending), (channel.transwindow, channel.transmaxpacket, channel.awaitOpen),
    channel.writefd, channel.errfd)

variable {channel' : Channel}

theorem Channel.Fits.congr {view : View} (fits : channel.Fits view)
    (same : channel'.viewed = channel.viewed) : channel'.Fits view := by
  simp only [viewed, Prod.mk.injEq] at same
  obtain ⟨⟨type, recvwindow, recvdonelen, writebuf, extrabuf, connPending⟩,
    ⟨transwindow, transmaxpacket, awaitOpen⟩, writefd, errfd⟩ := same
  refine ⟨type.trans fits.type, recvwindow.trans fits.recvwindow,
    recvdonelen.trans fits.recvdonelen, writebuf.trans fits.writebuf,
    extrabuf.trans fits.extrabuf, connPending.trans fits.connPending,
    transwindow.trans fits.transwindow, transmaxpacket.trans fits.transmaxpacket,
    awaitOpen.trans fits.awaitOpen, ?_⟩
  rw [writefd, errfd]
  exact fits.idle

/-- There is a channel, and this is its view. -/
structure Slot.Shows (slot : Slot) (view : View) : Prop where
  present : ∃ channel, slot.channel = some channel ∧ channel.Fits view
  arrived : slot.arrived = view.arrived
  granted : Channels.granted slot.sent = view.granted
  stream : slot.stream = view.stream
  data : slot.sent.filter Message.isData = view.transmit.data
  allowance : slot.allowance = view.transmit.allowance

/-- Failures of the functions for data, and of circular buffers. -/
def windowAsserts : List String :=
  ["channel->recvwindow <= opts.recv_window",
    "channel->recvwindow <= cbuf_getavail(channel->writebuf)",
    "channel->extrabuf == NULL || channel->recvwindow <= cbuf_getavail(channel->extrabuf)",
    "channel->recvwindow >= datalen",
    "cbuf->used <= cbuf->size",
    "((2*cbuf->size)+cbuf->writepos-cbuf->readpos)%cbuf->size == cbuf->used%cbuf->size",
    "((2*cbuf->size)+cbuf->readpos-cbuf->writepos)%cbuf->size == (cbuf->size-cbuf->used)%cbuf->size",
    "cbuf->used >= len"]

/-- The process ended because data did not fit: an over-sized packet, a failed
assertion of the functions for data, a bad use of a circular buffer, or a loop that
stores nothing. -/
def WindowFailure (failure : Exit) : Prop :=
  failure = .exit "Oversized packet" ∨ failure = .exit "Bad cbuf write" ∨
    failure = .divByZero ∨ failure = .stuck ∨ ∃ text ∈ windowAsserts, failure = .assertion text

instance (failure : Exit) : Decidable (WindowFailure failure) := by
  unfold WindowFailure
  infer_instance

theorem not_windowFailure_of_ofBuffer {failure : Exit} (ofBuffer : failure.OfBuffer) :
    ¬ WindowFailure failure := by
  rcases ofBuffer with rfl | ⟨message, listed, rfl⟩
  · decide
  · have each : ∀ message ∈ bufferMessages, ¬ WindowFailure (.exit message) := by decide
    exact each message listed

/-! ## Functions that only close -/

/-- Only flags have changed, and descriptors have been closed. -/
structure Channel.Closes (channel channel' : Channel) : Prop where
  same : channel' =
    { channel with
      writefd := channel'.writefd
      readfd := channel'.readfd
      errfd := channel'.errfd
      sentClose := channel'.sentClose
      recvClose := channel'.recvClose
      recvEof := channel'.recvEof
      sentEof := channel'.sentEof
      flushing := channel'.flushing
      readMangler := channel'.readMangler }
  writefd : channel'.writefd.isOpen → channel.writefd.isOpen
  errfd : channel'.errfd.isOpen → channel.errfd.isOpen

namespace Channel.Closes

theorem refl (channel : Channel) : channel.Closes channel := ⟨rfl, id, id⟩

theorem trans {channel'' : Channel} (first : channel.Closes channel')
    (second : channel'.Closes channel'') : channel.Closes channel'' where
  same := by
    refine second.same.trans ?_
    rw [first.same]
  writefd isOpen := first.writefd (second.writefd isOpen)
  errfd isOpen := first.errfd (second.errfd isOpen)

theorem closeChanFd (channel : Channel) (fd : Fd) (how : How) :
    channel.Closes (closeChanFd channel fd how) where
  same := rfl
  writefd isOpen := by
    change Fd.isOpen (if _ then _ else _) at isOpen
    split at isOpen
    · cases isOpen
    · exact isOpen
  errfd isOpen := by
    change Fd.isOpen (if _ then _ else if _ then _ else _) at isOpen
    split at isOpen
    · cases isOpen
    · split at isOpen
      · cases isOpen
      · exact isOpen

theorem closeIf (channel : Channel) (condition : Prop) [Decidable condition] (fd : Fd) (how : How) :
    channel.Closes (if condition then Channels.closeChanFd channel fd how else channel) := by
  split
  · exact closeChanFd channel fd how
  · exact refl channel

theorem markClosed (channel : Channel) : channel.Closes (markClosed channel) :=
  have marked : channel.Closes { channel with sentEof := true, sentClose := true } :=
    ⟨rfl, id, id⟩
  ((marked.trans (closeChanFd _ _ _)).trans (closeChanFd _ _ _)).trans (closeChanFd _ _ _)

theorem flushFds (channel : Channel) (pending : ReadPending) :
    channel.Closes (flushFds channel pending) := by
  rw [Channels.flushFds]
  split
  · exact (closeIf channel _ _ _).trans (closeIf _ _ _ _)
  · exact refl channel

/-- Asking the channel type may only set the flag for flushing. -/
theorem closeAllowed {allowed : Bool} (asked : closeAllowed channel = .ok (channel', allowed)) :
    channel.Closes channel' := by
  rw [Channels.closeAllowed] at asked
  split at asked
  · cases asked
    exact refl _
  · split at asked
    · cases asked
    · cases asked
      exact ⟨rfl, id, id⟩

end Channel.Closes

theorem failsOnly_closeAllowed (channel : Channel) :
    FailsOnly (· = .nullDeref) (closeAllowed channel) := by
  rw [closeAllowed]
  split
  · exact .ok _
  · split
    · exact .error rfl
    · exact .ok _

/-- What is said of a slot and its channel is left alone by messages that grant nothing and carry
no data, and by closing. -/
structure Quiet (good : Channel → Prop) (holds : Slot → Prop) : Prop where
  present : ∀ slot, holds slot → ∃ channel, slot.channel = some channel ∧ good channel
  put : ∀ slot channel, holds slot → good channel → holds { slot with channel := some channel }
  send : ∀ slot message, message.grant = 0 → message.isData = false → holds slot →
    holds { slot with sent := slot.sent ++ [message] }
  closes : ∀ channel channel', channel.Closes channel' → good channel → good channel'

/-- The computation keeps this of the slot, and does not end the process because data did not
fit. -/
abbrev Keeps {α : Type} (holds : Slot → Prop) (run : ChanM α) : Prop :=
  Leads holds holds (¬ WindowFailure ·) run

/-- The channel has been removed from such a slot. -/
def Removed (holds : Slot → Prop) (after : Slot) : Prop :=
  ∃ slot, holds slot ∧ after = { slot with channel := none }

/-- The computation keeps this of the slot or, at its end, removes the channel. -/
abbrev Releases {α : Type} (holds : Slot → Prop) (run : ChanM α) : Prop :=
  Leads holds (fun after => Removed holds after ∨ holds after) (¬ WindowFailure ·) run

theorem leads_read {α β : Type} {holds good : Slot → Prop} {allowed : Exit → Prop}
    {computed : Except Exit α} {next : α → ChanM β} (failsOnly : FailsOnly allowed computed)
    (rest : ∀ value, computed = .ok value → Leads holds good allowed (next value)) :
    Leads holds good allowed (fromResult computed >>= next) := by
  intro slot held
  apply ends_fromResult
  · intro failure failed
    exact ⟨held, failsOnly failure failed⟩
  · intro value returned
    exact rest value returned slot held

namespace Quiet

section

variable {α : Type} {good : Channel → Prop} {holds after : Slot → Prop} {allowed : Exit → Prop}
  {opts : Opts} (quiet : Quiet good holds)

include quiet

theorem leads_withChannel {next : Channel → ChanM α}
    (rest : ∀ channel, good channel → Leads holds after allowed (next channel)) :
    Leads holds after allowed (theChannel >>= next) := by
  intro slot held
  obtain ⟨channel, present, isGood⟩ := quiet.present slot held
  rw [theChannel_bind present]
  exact rest channel isGood slot held

theorem leads_setChannel (isGood : good channel) :
    Leads holds holds allowed (setChannel channel) :=
  fun slot held => quiet.put slot channel held isGood

theorem leads_send {message : Message} (nothing : message.grant = 0)
    (noData : message.isData = false) : Leads holds holds allowed (Channels.send message) :=
  fun slot held => quiet.send slot message nothing noData held

theorem leads_closed (closes : channel.Closes channel') (isGood : good channel) :
    Leads holds holds allowed (setChannel channel') :=
  quiet.leads_setChannel (quiet.closes channel channel' closes isGood)

theorem keeps_closehandler (channel : Channel) : Keeps holds (closehandler opts channel) := by
  rw [closehandler]
  split
  · rw [sendExitsignalstatus]
    split
    · split
      · split
        · exact .pure _
        · exact quiet.leads_send rfl rfl
      · split
        · exact .throw (by decide)
        · exact quiet.leads_send rfl rfl
    · exact .pure _
  · exact .pure _

theorem keeps_sendMsgChannelClose : Keeps holds (sendMsgChannelClose opts) := by
  apply quiet.leads_withChannel
  intro channel isGood
  apply (quiet.keeps_closehandler channel).bind
  intro _
  apply (quiet.leads_send rfl rfl).bind
  intro _
  exact quiet.leads_closed (.markClosed channel) isGood

theorem leads_sendChannelRequest (type : String) :
    Leads holds holds allowed (sendChannelRequest type) := by
  apply quiet.leads_withChannel
  intro channel _
  exact quiet.leads_send rfl rfl

theorem leads_requestIf (wanted : Bool) (type : String) :
    Leads holds holds allowed (requestIf wanted type) := by
  rw [requestIf]
  split
  · exact quiet.leads_sendChannelRequest type
  · exact .pure _

theorem leads_setReadMangler : Leads holds holds allowed (setReadMangler opts) := by
  apply quiet.leads_withChannel
  intro channel isGood
  exact quiet.leads_closed ⟨rfl, id, id⟩ isGood

theorem keeps_eofIfDone : Keeps holds eofIfDone := by
  apply quiet.leads_withChannel
  intro channel _
  split
  · apply quiet.leads_withChannel
    intro channel isGood
    apply (quiet.leads_send rfl rfl).bind
    intro _
    exact quiet.leads_closed ⟨rfl, id, id⟩ isGood
  · exact .pure _

theorem keeps_closeIfDone (allowed : Bool) : Keeps holds (closeIfDone opts allowed) := by
  apply quiet.leads_withChannel
  intro channel _
  split
  · exact quiet.keeps_sendMsgChannelClose
  · exact .pure _

omit quiet in
theorem releases_removeChannel : Releases holds removeChannel :=
  fun slot held => .inl ⟨slot, held, rfl⟩

theorem releases_answerClose (channel : Channel) : Releases holds (answerClose opts channel) := by
  rw [answerClose]
  split
  · exact quiet.keeps_sendMsgChannelClose.bind fun _ => releases_removeChannel
  · exact releases_removeChannel

theorem releases_checkClose (pending : ReadPending) : Releases holds (checkClose opts pending) := by
  apply quiet.leads_withChannel
  intro channel isGood
  apply leads_read ((failsOnly_closeAllowed channel).mono (by rintro _ rfl; decide))
  rintro ⟨channel', allowed⟩ asked
  have flushed := quiet.closes _ _ ((Channel.Closes.closeAllowed asked).trans (.flushFds _ pending))
    isGood
  apply (quiet.leads_setChannel flushed).bind
  intro _
  split
  · exact quiet.releases_answerClose _
  · apply (quiet.leads_closed (.closeIf _ _ _ _) flushed).bind
    intro _
    apply quiet.keeps_eofIfDone.bind
    intro _
    exact (quiet.keeps_closeIfDone allowed).imp (fun _ => .inr) fun _ => id

/-- The EOF and the CLOSE of the peer. -/
theorem releases_marked (pending : ReadPending) (marked : channel.Closes channel')
    (isGood : good channel) :
    Releases holds (do setChannel channel'; checkClose opts pending) :=
  (quiet.leads_closed marked isGood).bind fun _ => quiet.releases_checkClose pending

theorem leads_cliChansessWinchange (channel : Channel) :
    Leads holds holds allowed (cliChansessWinchange channel) := by
  rw [cliChansessWinchange]
  split
  · exact quiet.leads_sendChannelRequest _
  · exact .pure _

theorem leads_sendMsgKeepalive (channel : Channel) :
    Leads holds holds allowed (sendMsgKeepalive channel) := by
  rw [sendMsgKeepalive]
  split
  · exact .pure _
  · exact quiet.leads_sendChannelRequest _

end

end Quiet

section

variable {view : View} {opts : Opts}

theorem Channel.Fits.closes (fits : channel.Fits view) (closes : channel.Closes channel') :
    channel'.Fits view where
  type := (congrArg Channel.type closes.same).trans fits.type
  recvwindow := (congrArg Channel.recvwindow closes.same).trans fits.recvwindow
  recvdonelen := (congrArg Channel.recvdonelen closes.same).trans fits.recvdonelen
  writebuf := (congrArg Channel.writebuf closes.same).trans fits.writebuf
  extrabuf := (congrArg Channel.extrabuf closes.same).trans fits.extrabuf
  connPending := (congrArg Channel.connPending closes.same).trans fits.connPending
  transwindow := (congrArg Channel.transwindow closes.same).trans fits.transwindow
  transmaxpacket := (congrArg Channel.transmaxpacket closes.same).trans fits.transmaxpacket
  awaitOpen := (congrArg Channel.awaitOpen closes.same).trans fits.awaitOpen
  idle pending := by
    obtain ⟨write, err⟩ := fits.idle pending
    exact ⟨Bool.eq_false_iff.2 fun isOpen => Bool.eq_false_iff.1 write (closes.writefd isOpen),
      Bool.eq_false_iff.2 fun isOpen => Bool.eq_false_iff.1 err (closes.errfd isOpen)⟩

/-- The view is left alone. -/
theorem quiet_shows (view : View) : Quiet (·.Fits view) (·.Shows view) where
  present _ shows := shows.present
  put _ channel shows fits := { shows with present := ⟨channel, rfl, fits⟩ }
  send slot message nothing noData shows :=
    { shows with
      granted := by
        rw [granted_append, nothing, Nat.add_zero, shows.granted]
      data := by rw [filter_append_of_not noData, shows.data] }
  closes _ _ closes fits := fits.closes closes

/-! ## Requests -/

/-- Descriptors may be installed unless a connection is pending. -/
theorem Channel.Fits.install (fits : channel.Fits view) (started : view.connPending = false)
    (same : channel'.viewed =
      { channel with writefd := channel'.writefd, errfd := channel'.errfd }.viewed) :
    channel'.Fits view := by
  have installed : Channel.Fits
      { channel with writefd := channel'.writefd, errfd := channel'.errfd } view :=
    { fits with
      idle := by
        intro pending
        rw [started] at pending
        cases pending }
  exact installed.congr same

theorem Channel.Fits.childExited (fits : channel.Fits view) {pid : Positive} {status : WaitStatus} :
    (childExited channel pid status).Fits view := by
  unfold Channels.childExited
  split
  · exact fits
  · split
    · exact fits.congr rfl
    · exact fits

/-! ## Data from the local side -/

theorem failsOnly_mangledLen (channel : Channel) (lastChar : UInt8) (bytes : Bytes) :
    FailsOnly (· = .exit "Terminated") (mangledLen channel lastChar bytes) := by
  have escapes : ∀ c, FailsOnly (· = .exit "Terminated") (doEscape c) := by
    intro c
    rw [doEscape]
    split
    · exact .error rfl
    · split <;> exact .ok _
  rw [mangledLen]
  split
  · refine FailsOnly.bind ?_ fun _ _ => .ok _
    rw [cliEscapeHandler.eq_def]
    split
    · split
      · exact (escapes _).bind fun _ _ => .ok _
      · split
        · split <;> exact .ok _
        · exact .ok _
    · exact .ok _
  · exact .ok _

/-- The most that is sent in one message is within the window, the largest packet and
the payload. -/
theorem maxSend_le (channel : Channel) (isextended : Bool) :
    maxSend channel isextended ≤ channel.transwindow ∧
      maxSend channel isextended ≤ channel.transmaxpacket ∧
      1 + 4 + 4 + (if isextended then 4 else 0) + maxSend channel isextended ≤
        Packet.transMaxPayloadLen := by
  have size : Packet.transMaxPayloadLen = 16384 := by decide
  rw [maxSend, size]
  cases isextended <;> simp only [reduceIte, Bool.false_eq_true] <;> omega

/-- Of the view only what it says about sending may have changed. -/
def Slot.Sends (slot : Slot) (view : View) : Prop :=
  ∃ transmit, transmit.Sound ∧ slot.Shows { view with transmit := transmit }

/-- A packet that fits takes its data off the window. -/
theorem sends_leads (fits : channel.Fits view) (sound : view.transmit.Sound) (isextended : Bool)
    {bytes : Bytes} (something : 0 < bytes.length) (window : bytes.length ≤ channel.transwindow)
    (packet : bytes.length ≤ channel.transmaxpacket)
    (payload : 1 + 4 + 4 + (if isextended then 4 else 0) + bytes.length ≤
      Packet.transMaxPayloadLen) :
    Leads (·.Shows view) (·.Sends view) (¬ WindowFailure ·) (sendData channel isextended bytes) := by
  intro slot shows
  rw [fits.transwindow] at window
  rw [fits.transmaxpacket] at packet
  have sends : ∀ message : Message, message.isData → message.grant = 0 →
      message.dataLen = bytes.length → message.payloadLen ≤ Packet.transMaxPayloadLen →
      Slot.Sends
        { slot with
          channel := some { channel with transwindow := sub32 channel.transwindow bytes.length }
          sent := slot.sent ++ [message]
          allowance := slot.allowance.spend bytes.length channel.transwindow } view := by
    intro message isData nothing length payload
    rw [← length] at something window packet ⊢
    refine ⟨_, sound.spend something window packet payload, ⟨_, rfl, ?_⟩, shows.arrived, ?_,
      shows.stream, ?_, ?_⟩
    · exact { fits with transwindow := congrArg (sub32 · message.dataLen) fits.transwindow }
    · change Channels.granted (slot.sent ++ [message]) = view.granted
      rw [granted_append, nothing, Nat.add_zero, shows.granted]
    · change (slot.sent ++ [message]).filter Message.isData = view.transmit.data ++ [message]
      rw [List.filter_append, List.filter_cons_of_pos isData, shows.data]
      rfl
    · change slot.allowance.spend _ _ = view.transmit.allowance.spend _ _
      rw [shows.allowance, fits.transwindow]
  cases isextended
  · exact sends (.data channel.remotechan bytes) rfl rfl rfl payload
  · exact sends (.extendedData channel.remotechan bytes) rfl rfl rfl payload

/-- **Reading sends what the window and the packet size allow**, and nothing else about
the view changes. -/
theorem sendMsgChannelData_leads (sound : view.transmit.Sound) (isextended : Bool)
    (result : ReadResult) (lastChar : UInt8) :
    Leads (·.Shows view) (·.Sends view) (¬ WindowFailure ·)
      (sendMsgChannelData isextended result lastChar) := by
  have same : ∀ run : ChanM Unit, Keeps (·.Shows view) run →
      Leads (·.Shows view) (·.Sends view) (¬ WindowFailure ·) run :=
    fun run keeps => keeps.imp (fun _ after => ⟨view.transmit, sound, after⟩) fun _ => id
  apply (quiet_shows view).leads_withChannel
  intro channel fits
  dsimp only
  generalize (if isextended then channel.errfd else channel.readfd) = fd
  have closed := same _ ((quiet_shows view).leads_closed (.closeChanFd channel fd .shutRd) fits)
  split
  · exact .throw (by decide)
  · split
    · exact .throw (by decide)
    · split
      · exact same _ (.pure _)
      · cases result with
        | failed interrupted =>
          cases interrupted with
          | true => exact same _ (.pure _)
          | false => exact closed
        | got bytes =>
          dsimp only
          split
          · exact closed
          · apply leads_read ((failsOnly_mangledLen _ _ _).mono (by rintro _ rfl; decide))
            intro len mangled
            split
            · exact same _ (.pure _)
            case _ nonempty =>
              have len_le := mangledLen_le mangled
              obtain ⟨window, packet, payload⟩ := maxSend_le channel isextended
              rw [List.length_take] at len_le
              generalize data : (bytes.take (maxSend channel isextended)).take len = sent
              have length : sent.length = len := by
                rw [← data, List.length_take, List.length_take]
                omega
              exact sends_leads fits sound isextended (by omega) (by omega) (by omega)
                (by omega)

end

end Dropbear.Channels
