/-
# The windows over the life of a channel

Channels are opened with the whole receive window, and every event keeps both windows
sound.  A message that grants a window is sent at most once before the channel is in
use: with the request to open it, with the confirmation, or once the deferred
connection is made.
-/

import Dropbear.Channels.Requests
import Dropbear.Channels.Window

namespace Dropbear.Channels

open Program

variable {slot : Slot} {channel : Channel}

section

variable {opts : Opts} {view : View} {honest : Prop}

/-! ## Opening -/

/-- The view of a new channel. -/
def View.fresh (opts : Opts) (type : ChanType) (writebuf : CircBuffer) (transmit : Transmit) :
    View where
  type := type
  recvwindow := opts.recvWindow
  recvdonelen := 0
  writebuf := writebuf
  extrabuf := none
  connPending := false
  arrived := 0
  granted := 0
  stream := .empty
  transmit := transmit

theorem exists_newchannel (accepted : opts.Accepted) (index remotechan : Nat) (type : ChanType)
    (transwindow transmaxpacket : Nat) :
    ∃ channel writebuf,
      newchannel opts index remotechan type transwindow transmaxpacket = .ok channel ∧
        channel.writefd.isOpen = false ∧ channel.errfd.isOpen = false ∧ channel.type = type ∧
        ∀ allowance, channel.Fits
            (.fresh opts type writebuf (.fresh transwindow transmaxpacket allowance)) ∧
          ∀ transmit : Transmit, transmit.Sound →
            (View.fresh opts type writebuf transmit).Within opts 0 [] := by
  have bounded : opts.recvWindow ≤ maxCbufSize := Nat.le_trans accepted.2 (by decide)
  obtain ⟨writebuf, made, sound, size, used, empty⟩ := exists_cbufNew accepted.1 bounded
  rw [newchannel, made]
  refine ⟨_, writebuf, rfl, rfl, rfl, rfl, fun allowance =>
    ⟨⟨rfl, rfl, rfl, rfl, rfl, rfl, rfl, rfl, rfl, nofun⟩, fun transmit sent =>
      ⟨?_, ?_, Nat.zero_le _, nofun, nofun, sent, ?_⟩⟩⟩
  · intro into cbuf there
    cases into with
    | writebuf =>
      cases there
      exact ⟨sound, size⟩
    | extrabuf => cases there
  · change opts.recvWindow + 0 + (writebuf.used + 0) + 0 ≤ opts.recvWindow
    omega
  · intro _
    change [] ++ (writebuf.contents ++ []) = []
    rw [empty]
    rfl

/-- The confirmation grants the window of a channel on which nothing was granted. -/
theorem ends_sendMsgChannelOpenConfirmation (shows : slot.Shows view)
    (within : view.Within opts 0 []) (nothing : view.granted = 0)
    (running : view.connPending = false) :
    Ends (fun _ after => after.Bounded opts) (Kept opts honest)
      (sendMsgChannelOpenConfirmation slot) := by
  obtain ⟨channel, present, fits⟩ := shows.present
  rw [sendMsgChannelOpenConfirmation, theChannel_bind present]
  refine .inr ⟨{ view with granted := view.recvwindow }, ⟨⟨channel, present, { fits with }⟩,
    shows.arrived, ?_, shows.stream, (filter_append_of_not rfl).trans shows.data,
    shows.allowance⟩, { within with granted := Nat.le_add_right _ _, pending := ?_ }⟩
  · change granted (slot.sent ++ [_]) = view.recvwindow
    rw [granted_append, shows.granted, nothing, Nat.zero_add]
    exact fits.recvwindow
  · intro pending
    rw [running] at pending
    cases pending

theorem mem_deferredTypes {isServer : Bool} {type : ChanType} (listed : type ∈ chantypes isServer)
    (notSession : type ≠ .svrchansess) (notAgent : type ≠ .cliChanAgent) :
    type ∈ deferredTypes := by
  cases isServer <;> cases type <;> first | decide | cases notSession rfl | cases notAgent rfl |
    exact absurd listed (by decide)

theorem ends_recvMsgChannelOpen (accepted : opts.Accepted) (index : Nat) (type : ChanType)
    (remotechan : Nat) {transwindow : Nat} (word : transwindow < 2 ^ 32) (transmaxpacket : Nat)
    (init : InitResult) (slot : Slot) :
    Ends (fun _ after => after.Bounded opts) (Kept opts honest)
      (recvMsgChannelOpen opts index type remotechan transwindow transmaxpacket init slot) := by
  rw [recvMsgChannelOpen, EStateM.bind_of_ok (show takeNumber slot = .ok () .free from rfl)]
  split
  · exact .inl ⟨rfl, settled_nil rfl⟩
  case _ listed =>
    obtain ⟨channel, writebuf, made, noWrite, noErr, hasType, new⟩ :=
      exists_newchannel accepted index remotechan type transwindow
        (min transmaxpacket Packet.transMaxPayloadLen)
    rw [made, show fromResult (.ok channel) = (pure channel : ChanM Channel) from rfl, pure_bind,
      noteAllowance_bind]
    generalize given : Allowance.mk transwindow transmaxpacket false = allowance
    obtain ⟨fits, bounds⟩ := new allowance
    have sound : (Transmit.fresh transwindow (min transmaxpacket Packet.transMaxPayloadLen)
        allowance).Sound := given ▸ Transmit.sound_fresh word
    have within := bounds _ sound
    generalize min transmaxpacket Packet.transMaxPayloadLen = packet at fits sound within
    have shows : ∀ channel', channel'.Fits
        (View.fresh opts type writebuf (.fresh transwindow packet allowance)) →
        Slot.Shows ⟨some channel', [], 0, .empty, allowance⟩
          (View.fresh opts type writebuf (.fresh transwindow packet allowance)) :=
      fun channel' fits' => ⟨⟨channel', rfl, fits'⟩, rfl, rfl, rfl, rfl, rfl⟩
    rcases inithandler_cases channel init with ⟨_, handled⟩ | ⟨fd, handled⟩ | ⟨reason, handled⟩ |
      ⟨notSession, notAgent, handled⟩
    · rw [handled]
      refine ends_sendMsgChannelOpenConfirmation (shows _ ?_) within rfl rfl
      exact fits.congr rfl
    · rw [handled]
      refine ends_sendMsgChannelOpenConfirmation (shows _ ?_) within rfl rfl
      exact fits.install rfl rfl
    · rw [handled]
      exact .inl ⟨rfl, settled_nil sound.settled.covered⟩
    · rw [handled]
      rw [hasType] at notSession notAgent
      refine .inr ⟨{ View.fresh opts type writebuf (.fresh transwindow packet allowance) with
          connPending := true },
        ⟨⟨_, rfl, { fits with connPending := rfl, idle := fun _ => ⟨noWrite, noErr⟩ }⟩, rfl, rfl,
          rfl, rfl, rfl⟩,
        { within with
          pending := fun _ => rfl
          deferred := fun _ => mem_deferredTypes (not_not.1 listed) notSession notAgent }⟩

theorem ends_sendMsgChannelOpenInit (accepted : opts.Accepted) (index fd : Nat) (type : ChanType)
    (slot : Slot) :
    Ends (fun _ after => after.Bounded opts) (Kept opts honest)
      (sendMsgChannelOpenInit opts index fd type slot) := by
  obtain ⟨channel, writebuf, made, _, _, _, new⟩ := exists_newchannel accepted index 0 type 0 0
  obtain ⟨fits, bounds⟩ := new .nothing
  have within := bounds _ Transmit.sound_requested
  rw [sendMsgChannelOpenInit, EStateM.bind_of_ok (show takeNumber slot = .ok () .free from rfl), made,
    show fromResult (.ok channel) = (pure channel : ChanM Channel) from rfl, pure_bind]
  exact .inr ⟨{ View.fresh opts type writebuf .requested with granted := opts.recvWindow },
    ⟨⟨_, rfl, { fits with awaitOpen := rfl, idle := nofun }⟩, rfl, rfl, rfl, rfl, rfl⟩,
    { within with
      granted := Nat.le_add_right _ _
      pending := nofun }⟩

theorem Removed.bounded (removed : Removed (·.Shows view) slot) (within : view.Within opts 0 []) :
    slot.Bounded opts := by
  obtain ⟨before, shows, rfl⟩ := removed
  refine .inl ⟨rfl, ?_⟩
  rw [shows.data, shows.allowance]
  exact within.transmit.settled

/-- A connection that was pending has been granted nothing so far. -/
theorem ends_channelConnectDone (fits : channel.Fits view) (shows : slot.Shows view)
    (within : view.Within opts 0 []) (pending : channel.connPending) (sock : Option Nat) :
    Ends (fun _ after => after.Bounded opts) (Kept opts honest)
      (channelConnectDone sock channel slot) := by
  cases sock with
  | none =>
    have refused := (quiet_shows view).send slot
      (.openFailure channel.remotechan sshOpenConnectFailed) rfl rfl shows
    exact Removed.bounded ⟨_, refused, rfl⟩ within
  | some sock =>
    have nothing := within.pending (fits.connPending.symm.trans pending)
    have connected : View.Within opts 0 [] { view with connPending := false } :=
      { within with pending := nofun, deferred := nofun }
    have shows' : Slot.Shows
        { slot with channel := some { channel with
            readfd := .fd sock
            writefd := .fd sock
            bidirFd := true
            connPending := false } } { view with connPending := false } :=
      ⟨⟨_, rfl, { fits with connPending := rfl, idle := nofun }⟩, shows.arrived, shows.granted,
        shows.stream, shows.data, shows.allowance⟩
    exact ends_sendMsgChannelOpenConfirmation shows' connected nothing rfl

/-- The buffer for standard error is empty at first. -/
theorem ends_cliInitStdpipeSess (accepted : opts.Accepted) (shows : slot.Shows view)
    (within : view.Within opts 0 []) (running : view.connPending = false) :
    Ends (fun _ after => ∃ view', after.Shows view' ∧ view'.Within opts 0 [])
      (Kept opts honest) (cliInitStdpipeSess opts slot) := by
  obtain ⟨channel, present, fits⟩ := shows.present
  have bounded : opts.recvWindow ≤ maxCbufSize := Nat.le_trans accepted.2 (by decide)
  obtain ⟨extrabuf, made, sound, size, used, _⟩ := exists_cbufNew accepted.1 bounded
  rw [cliInitStdpipeSess, theChannel_bind present, made]
  refine ⟨{ view with extrabuf := some extrabuf }, ⟨⟨_, rfl, ?_⟩, shows.arrived, shows.granted,
    shows.stream, shows.data, shows.allowance⟩,
    { within with buffers := ?_, total := ?_ }⟩
  · exact { fits with
      extrabuf := rfl
      idle := by
        intro pending
        rw [running] at pending
        cases pending }
  · intro into cbuf there
    cases into with
    | writebuf => exact within.buffers .writebuf cbuf there
    | extrabuf =>
      cases there
      exact ⟨sound, size⟩
  · have total := within.total
    rw [View.buffered] at total
    change view.recvwindow + view.recvdonelen + (view.writebuf.used + extrabuf.used) + 0 ≤ _
    omega

/-! ## Events -/

theorem ends_of_leads {α : Type} {good : Slot → Prop} {run : ChanM α}
    (leads : Leads (·.Shows view) good (¬ WindowFailure ·) run) (shows : slot.Shows view)
    (within : view.Within opts 0 []) :
    Ends (fun _ after => good after) (Kept opts honest) (run slot) :=
  (leads slot shows).imp (fun _ _ => id) fun _ _ failed =>
    ⟨failed.1.bounded within, fun _ => failed.2⟩

theorem bounded_of_releases {α : Type} {run : ChanM α} (releases : Releases (·.Shows view) run)
    (shows : slot.Shows view) (within : view.Within opts 0 []) :
    Ends (fun _ after => after.Bounded opts) (Kept opts honest) (run slot) :=
  (ends_of_leads releases shows within).mono fun _ _ ends =>
    ends.elim (·.bounded within) (·.bounded within)

theorem bounded_of_keeps {α : Type} {run : ChanM α} (keeps : Keeps (·.Shows view) run)
    (shows : slot.Shows view) (within : view.Within opts 0 []) :
    Ends (fun _ after => after.Bounded opts) (Kept opts honest) (run slot) :=
  (ends_of_leads keeps shows within).mono fun _ _ shows' => shows'.bounded within

theorem Slot.Bounded.exists_view (bounded : slot.Bounded opts)
    (present : slot.channel = some channel) :
    ∃ view, channel.Fits view ∧ slot.Shows view ∧ view.Within opts 0 [] := by
  rcases bounded with ⟨missing, _⟩ | ⟨view, shows, within⟩
  · rw [missing] at present
    cases present
  · obtain ⟨other, found, fits⟩ := shows.present
    cases found.symm.trans present
    exact ⟨view, fits, shows, within⟩

/-- A message for a channel. -/
theorem ends_message {kind : String} {next : Channel → ChanM Unit} (bounded : slot.Bounded opts)
    (other : ¬ WindowFailure (.exit kind))
    (rest : ∀ channel view, channel.Fits view → slot.Shows view → view.Within opts 0 [] →
      Ends (fun _ after => after.Bounded opts) (Kept opts honest) (next channel slot)) :
    Ends (fun _ after => after.Bounded opts) (Kept opts honest)
      ((getchannelMsg kind >>= next) slot) := by
  apply ends_getchannelMsg
  · intro _
    exact ⟨bounded, fun _ => other⟩
  · intro channel present
    obtain ⟨view, fits, shows, within⟩ := bounded.exists_view present
    exact rest channel view fits shows within

/-- An event on the local side. -/
theorem ends_local {act : Channel → ChanM Unit} (bounded : slot.Bounded opts)
    (acts : ∀ channel view, channel.Fits view → slot.Shows view → view.Within opts 0 [] →
      Ends (fun _ after => after.Bounded opts) (Kept opts honest) (act channel slot)) :
    Ends (fun _ after => after.Bounded opts) (Kept opts honest) (onChannel act slot) := by
  apply ends_onChannel
  · intro _
    exact bounded
  · intro channel present
    obtain ⟨view, fits, shows, within⟩ := bounded.exists_view present
    exact acts channel view fits shows within

theorem ends_cliInitchansess (accepted : opts.Accepted) (shows : slot.Shows view)
    (within : view.Within opts 0 []) (running : view.connPending = false) :
    Ends (fun _ after => after.Bounded opts) (Kept opts honest) (cliInitchansess opts slot) := by
  apply (ends_cliInitStdpipeSess accepted shows within running).bind
  rintro _ middle ⟨view', shows', within'⟩
  refine bounded_of_keeps ?_ shows' within'
  apply ((quiet_shows view').leads_requestIf _ _).bind
  intro _
  apply ((quiet_shows view').leads_requestIf _ _).bind
  intro _
  apply ((quiet_shows view').leads_sendChannelRequest _).bind
  intro _
  exact (quiet_shows view').leads_setReadMangler

/-- The handler of a confirmed channel's type. -/
theorem ends_confirmedInit (accepted : opts.Accepted) (shows : slot.Shows view)
    (within : view.Within opts 0 []) {type : ChanType}
    (running : type ∉ deferredTypes → view.connPending = false) :
    Ends (fun _ after => after.Bounded opts) (Kept opts honest) (confirmedInit opts type slot) := by
  cases type with
  | clichansess => exact ends_cliInitchansess accepted shows within (running (by decide))
  | cliChanNetcat =>
    have started := running (by decide)
    exact (ends_cliInitStdpipeSess accepted shows within started).mono fun _ _ => .inr
  | _ => exact shows.bounded within

theorem ends_recvMsgChannelOpenConfirmation (accepted : opts.Accepted) (fits : channel.Fits view)
    (shows : slot.Shows view) (within : view.Within opts 0 []) (remotechan : Nat)
    {transwindow : Nat} (word : transwindow < 2 ^ 32) (transmaxpacket : Nat) :
    Ends (fun _ after => after.Bounded opts) (Kept opts honest)
      (recvMsgChannelOpenConfirmation opts remotechan transwindow transmaxpacket channel slot) := by
  rw [recvMsgChannelOpenConfirmation]
  split
  · exact ⟨shows.bounded within, fun _ => by decide⟩
  case _ waits =>
    have sound := within.transmit.confirm (fits.awaitOpen ▸ not_not.1 waits) word transmaxpacket
    have within' : View.Within opts 0 []
        { view with transmit := view.transmit.confirmed transwindow transmaxpacket } :=
      { within with transmit := sound }
    have running : channel.type ∉ deferredTypes → view.connPending = false := by
      intro other
      rw [fits.type] at other
      exact within.notPending other
    rw [noteAllowance_bind]
    apply ends_setChannel
    have entered : Slot.Shows
        { slot with
          channel := some
            { channel with
              awaitOpen := false
              remotechan := remotechan
              transwindow := transwindow
              transmaxpacket := transmaxpacket }
          allowance :=
            { slot.allowance with
              budget := transwindow
              maxpacket := transmaxpacket } }
        { view with transmit := view.transmit.confirmed transwindow transmaxpacket } :=
      ⟨⟨_, rfl, { fits with
        transwindow := rfl
        transmaxpacket := rfl
        awaitOpen := rfl }⟩, shows.arrived, shows.granted, shows.stream, shows.data,
        by rw [shows.allowance]; rfl⟩
    exact ends_confirmedInit accepted entered within' running

/-- An increment of the window. -/
theorem ends_recvMsgChannelWindowAdjust (fits : channel.Fits view) (shows : slot.Shows view)
    (within : view.Within opts 0 []) (incr : Nat) :
    Ends (fun _ after => after.Bounded opts) (Kept opts honest)
      (recvMsgChannelWindowAdjust incr channel slot) := by
  obtain ⟨word, le⟩ := adjusted_le view.transmit.transwindow incr
  rw [recvMsgChannelWindowAdjust, noteAllowance_bind, fits.transwindow]
  refine .inr ⟨{ view with transmit := view.transmit.adjusted incr _ },
    ⟨⟨_, rfl, { fits with transwindow := rfl }⟩, shows.arrived, shows.granted, shows.stream,
      shows.data, ?_⟩, { within with transmit := within.transmit.adjust word le }⟩
  dsimp only
  rw [shows.allowance]
  rfl

/-- Writing what is buffered. -/
theorem ends_writeBuffered (fits : channel.Fits view) (shows : slot.Shows view)
    (within : view.Within opts 0 []) (into : Into) (hasDescriptor : (channel.fdInto into).isOpen)
    (hasBuffer : (view.cbuf into).isSome) (result : WriteResult) :
    Ends (fun _ after => ∃ view', after.Shows view' ∧ view'.Within opts 0 []) (Kept opts honest)
      (writechannel opts into none result slot) := by
  obtain ⟨cbuf, there⟩ := Option.isSome_iff_exists.1 hasBuffer
  have running : view.connPending = false := by
    cases descriptor : channel.fdInto into with
    | fd number => exact fits.running descriptor
    | _ =>
      rw [descriptor] at hasDescriptor
      cases hasDescriptor
  have nothing : ((none : Option Bytes).getD []).length ≤ 0 := Nat.le_refl _
  have idle : ∀ n, into.waiting (((none : Option Bytes).getD []).drop n) = [] := by
    intro n
    cases into with
    | writebuf => exact List.drop_nil
    | extrabuf => rfl
  have within : view.Within opts 0 (into.waiting ((none : Option Bytes).getD [])) := by
    cases into <;> exact within
  apply (ends_writechannel shows within running there nothing result).ofNoFailure.mono
  rintro _ after ⟨_, view', shows', within', _⟩
  rw [idle] at within'
  exact ⟨view', shows', within'.mono (Nat.zero_le _)⟩

/-- **Serving the channel keeps its window sound.** -/
theorem bounded_channelio (shows : slot.Shows view) (within : view.Within opts 0 [])
    (io : IoResults) :
    Ends (fun _ after => after.Bounded opts) (Kept opts honest) (channelio opts io slot) := by
  refine @ends_channelio opts (fun slot => ∃ view, slot.Shows view ∧ view.Within opts 0 []) _ _ io
    slot ⟨view, shows, within⟩ ?_ ?_ ?_ ?_ ?_
  · rintro slot ⟨view, shows, _⟩
    exact shows.present.imp fun _ => And.left
  · rintro slot channel isextended result lastChar ⟨view, shows, within⟩ _ _ _
    apply (ends_of_leads (sendMsgChannelData_leads within.transmit isextended result lastChar)
      shows within).mono
    rintro _ after ⟨transmit, sound, shows'⟩
    exact ⟨_, shows', { within with transmit := sound }⟩
  · rintro slot channel into result ⟨view, shows, within⟩ present isOpen hasBuffer
    obtain ⟨other, present', fits⟩ := shows.present
    cases present.symm.trans present'
    exact ends_writeBuffered fits shows within into isOpen (fits.cbuf into ▸ hasBuffer) result
  · rintro slot ⟨view, shows, within⟩
    exact bounded_of_releases ((quiet_shows view).releases_checkClose io.pending) shows within
  · rintro slot ⟨view, shows, within⟩
    exact shows.bounded within

end

/-- The peer does not send more than it was granted. -/
def Honest : Event → Slot → Prop
  | .recvData payload _, slot =>
    ∀ datalen behind, bufGetint payload = .ok (datalen, behind) →
      slot.arrived + datalen ≤ granted slot.sent
  | .recvExtendedData payload _, slot =>
    ∀ datatype payload', bufGetint payload = .ok (datatype, payload') →
      ∀ datalen behind, bufGetint payload' = .ok (datalen, behind) →
        slot.arrived + datalen ≤ granted slot.sent
  | _, _ => True

variable {opts : Opts}

/-- **Every event keeps the window sound**, and ends the process over data only if
the peer is not honest. -/
theorem ends_step (accepted : opts.Accepted) (index : Nat) (event : Event) (slot : Slot)
    (bounded : slot.Bounded opts) :
    Ends (fun _ after => after.Bounded opts) (Kept opts (Honest event slot))
      (step opts index event slot) := by
  have unknown : ¬ WindowFailure (.exit "Unknown channel %d") := by decide
  cases event with
  | recvOpen type remotechan transwindow transmaxpacket init =>
    exact ends_ifFree bounded
      (ends_recvMsgChannelOpen accepted _ _ _ transwindow.toNat_lt _ _ slot)
  | recvOpenConfirmation remotechan transwindow transmaxpacket =>
    apply ends_message bounded unknown
    intro channel view fits shows within
    exact ends_recvMsgChannelOpenConfirmation accepted fits shows within _ transwindow.toNat_lt _
  | recvOpenFailure =>
    apply ends_message bounded unknown
    intro channel view fits shows within
    rw [recvMsgChannelOpenFailure]
    split
    · exact ⟨shows.bounded within, fun _ => by decide⟩
    · exact bounded_of_releases Quiet.releases_removeChannel shows within
  | recvWindowAdjust incr =>
    apply ends_message bounded unknown
    intro channel view fits shows within
    exact ends_recvMsgChannelWindowAdjust fits shows within _
  | recvData payload result =>
    apply ends_message bounded unknown
    intro channel view fits shows within
    apply ends_commonRecvMsgChannelData shows within
    intro honest datalen behind read
    have allowed := honest datalen behind read
    rwa [shows.arrived, shows.granted] at allowed
  | recvExtendedData payload result =>
    rw [step]
    split
    · exact bounded
    · apply ends_message bounded unknown
      intro channel view fits shows within
      rw [recvMsgChannelExtendedData]
      split
      · exact bounded
      · apply ends_readBuffer (failsOnly_bufGetint payload) bounded
        rintro ⟨datatype, payload'⟩ readType
        dsimp only
        split
        · exact bounded
        · apply ends_commonRecvMsgChannelData shows within
          intro honest datalen behind read
          have allowed := honest datatype payload' readType datalen behind read
          rwa [shows.arrived, shows.granted] at allowed
  | recvEof pending =>
    apply ends_message bounded (by decide)
    intro channel view fits shows within
    exact bounded_of_releases ((quiet_shows view).releases_marked pending ⟨rfl, id, id⟩ fits)
      shows within
  | recvClose pending =>
    apply ends_message bounded (by decide)
    intro channel view fits shows within
    exact bounded_of_releases ((quiet_shows view).releases_marked pending ⟨rfl, id, id⟩ fits)
      shows within
  | recvRequest payload outcome =>
    apply ends_message bounded unknown
    intro channel view fits shows within
    refine bounded_of_keeps ?_ shows within
    apply keeps_recvMsgChannelRequest _ payload outcome fits
    intro session
    apply within.notPending
    rw [session]
    decide
  | openInit type fd =>
    rw [step]
    split
    · exact ends_ifFree bounded (ends_sendMsgChannelOpenInit accepted _ _ _ slot)
    · exact bounded
  | connectDone sock =>
    apply ends_local bounded
    intro channel view fits shows within
    split
    case _ pending => exact ends_channelConnectDone fits shows within pending sock
    case _ => exact bounded
  | channelio io =>
    apply ends_local bounded
    intro channel view fits shows within
    exact bounded_channelio shows within io
  | childExit pid status =>
    apply ends_local bounded
    intro channel view fits shows within
    exact bounded_of_keeps ((quiet_shows view).leads_setChannel fits.childExited) shows within
  | winchange =>
    apply ends_local bounded
    intro channel view fits shows within
    exact bounded_of_keeps ((quiet_shows view).leads_cliChansessWinchange channel) shows within
  | keepalive =>
    apply ends_local bounded
    intro channel view fits shows within
    exact bounded_of_keeps ((quiet_shows view).leads_sendMsgKeepalive channel) shows within

/-! ## Runs -/

/-- What is granted, written and buffered on a channel, against its options. -/
structure Channel.WindowSound (opts : Opts) (channel : Channel) : Prop where
  window : channel.recvwindow ≤ opts.recvWindow
  writebuf : channel.recvwindow ≤ cbufGetavail channel.writebuf
  extrabuf : ∀ cbuf, channel.extrabuf = some cbuf → channel.recvwindow ≤ cbufGetavail cbuf
  total : channel.recvwindow + channel.recvdonelen +
    (cbufGetused channel.writebuf + channel.extrabuf.elim 0 cbufGetused) ≤ opts.recvWindow

theorem Slot.Bounded.windowSound (bounded : slot.Bounded opts)
    (present : slot.channel = some channel) : channel.WindowSound opts := by
  obtain ⟨view, fits, shows, within⟩ := bounded.exists_view present
  have total := within.total
  refine ⟨?_, ?_, ?_, ?_⟩
  · rw [fits.recvwindow]
    omega
  · rw [fits.recvwindow, fits.writebuf]
    exact within.recvwindow_le_getavail .writebuf rfl
  · intro cbuf there
    rw [fits.recvwindow]
    exact within.recvwindow_le_getavail .extrabuf (fits.extrabuf.symm.trans there)
  · rw [fits.recvwindow, fits.recvdonelen, fits.writebuf, fits.extrabuf]
    exact total

/-- Every state a channel number can get into is bounded. -/
theorem bounded_runAll (accepted : opts.Accepted) (index : Nat) (events : List Event) :
    (finalState (runAll (step opts index) events .free)).Bounded opts := by
  apply runAll_invariant _ events (.inl ⟨rfl, settled_nil rfl⟩)
  intro event slot bounded
  have ends := ends_step accepted index event slot bounded
  cases ran : step opts index event slot with
  | ok value after =>
    rw [ran] at ends
    exact ends
  | error failure after =>
    rw [ran] at ends
    exact ends.1

/-- **Receive windows are sound.**  With any window the command line can set, in
every state a channel number can get into, the peer's window is at most that of
the options, fits in both buffers, and together with the bytes to be credited and
those in the buffers is at most that of the options.  The process does not end
because data does not fit if the peer never sends more than it was granted. -/
theorem receiveWindow (opts : Opts) (arguments : List (Option Nat × Nat)) (index : Nat)
    (events : List Event) :
    let opts := { opts with recvWindow := recvWindowOf arguments }
    (∀ channel, (finalState (runAll (step opts index) events .free)).channel = some channel →
      channel.WindowSound opts) ∧
    (AllMeet (step opts index) Honest events .free →
      ∀ failure after, runAll (step opts index) events .free = .error failure after →
        ¬ WindowFailure failure) := by
  intro opts
  have accepted : opts.Accepted := recvWindowOf_accepted arguments
  constructor
  · intro channel present
    exact (bounded_runAll accepted index events).windowSound present
  · intro honest failure after failed
    have ends : Ends (fun _ after => after.Bounded opts) (fun failure _ => ¬ WindowFailure failure)
        (runAll (step opts index) events .free) := by
      refine ends_runAll Honest ?_ honest (.inl ⟨rfl, settled_nil rfl⟩)
      intro event slot isHonest bounded
      have ends := ends_step accepted index event slot bounded
      cases ran : step opts index event slot with
      | ok value after =>
        rw [ran] at ends
        exact ends
      | error failure after =>
        rw [ran] at ends
        exact ends.2 isHonest
    rw [failed] at ends
    exact ends

/-- What was sent, on a channel that may since have been removed. -/
theorem Slot.Bounded.settled (bounded : slot.Bounded opts) :
    Settled (slot.sent.filter Message.isData) slot.allowance := by
  rcases bounded with ⟨_, settled⟩ | ⟨view, shows, within⟩
  · exact settled
  · rw [shows.data, shows.allowance]
    exact within.transmit.settled

/-- What a channel may still send, against what the peer has allowed it and what was
sent. -/
structure Channel.TransmitSound (channel : Channel) (slot : Slot) : Prop where
  word : channel.transwindow < 2 ^ 32
  window : dataBytes slot.sent + channel.transwindow ≤ slot.allowance.budget
  maxpacket : channel.transmaxpacket ≤ slot.allowance.maxpacket
  packets : ∀ message ∈ slot.sent, message.isData → message.dataLen ≤ channel.transmaxpacket
  unconfirmed : channel.awaitOpen → ∀ message ∈ slot.sent, message.isData = false

theorem Slot.Bounded.transmitSound (bounded : slot.Bounded opts)
    (present : slot.channel = some channel) :
    channel.TransmitSound slot := by
  obtain ⟨view, fits, shows, within⟩ := bounded.exists_view present
  have sound := within.transmit
  have data : ∀ message ∈ slot.sent, message.isData → message ∈ view.transmit.data := by
    intro message sent isData
    rw [← shows.data]
    exact List.mem_filter.2 ⟨sent, isData⟩
  refine ⟨?_, ?_, ?_, ?_, ?_⟩
  · rw [fits.transwindow]
    exact sound.word
  · rw [← dataBytes_filter, shows.data, fits.transwindow, shows.allowance]
    exact sound.budget
  · rw [fits.transmaxpacket, shows.allowance]
    exact sound.maxpacket
  · intro message sent isData
    rw [fits.transmaxpacket]
    exact sound.packets message (data message sent isData)
  · intro waiting message sent
    rw [fits.awaitOpen] at waiting
    rw [Bool.eq_false_iff]
    intro isData
    have listed := data message sent isData
    rw [(sound.unconfirmed waiting).2] at listed
    cases listed

/-- **Transmit windows are safe.**  In every state a channel number can get into, the data
sent is, in exact numbers, at most the window the peer announced or confirmed and the
increments after it; each packet carries at most the peer's largest packet and fits in
the payload buffer; the window was never reduced by more than it was; and a channel of
ours has sent no data before the peer confirms it. -/
theorem transmitWindow (opts : Opts) (arguments : List (Option Nat × Nat)) (index : Nat)
    (events : List Event) :
    let opts := { opts with recvWindow := recvWindowOf arguments }
    let slot := finalState (runAll (step opts index) events .free)
    dataBytes slot.sent ≤ slot.allowance.budget ∧
      (∀ message ∈ slot.sent, message.isData →
        message.dataLen ≤ slot.allowance.maxpacket ∧
        message.payloadLen ≤ Packet.transMaxPayloadLen) ∧
      slot.allowance.overdrawn = false ∧
      ∀ channel, slot.channel = some channel → channel.TransmitSound slot := by
  intro opts slot
  have accepted : opts.Accepted := recvWindowOf_accepted arguments
  have bounded : slot.Bounded opts := bounded_runAll accepted index events
  have settled := bounded.settled
  refine ⟨?_, ?_, settled.covered, ?_⟩
  · rw [← dataBytes_filter]
    exact settled.budget
  · intro message sent isData
    exact settled.packets message (List.mem_filter.2 ⟨sent, isData⟩)
  · intro channel present
    exact bounded.transmitSound present

end Dropbear.Channels
