/-
# What the events leave of a channel

Its number, its type, whether a connection is pending for it and its session stay as
they are while data is sent and received, while windows are credited and while the
channel is closed.  Requests change the session and nothing else of these.  The
channel may be removed, as the last thing that happens to it.
-/

import Dropbear.Channels.Orderly
import Dropbear.Channels.Table

namespace Dropbear.Channels

open Program

/-- What is kept of a channel. -/
structure Identity where
  index : Nat
  type : ChanType
  connPending : Bool
  typedata : Option ChanSess

def Channel.identity (channel : Channel) : Identity where
  index := channel.index
  type := channel.type
  connPending := channel.connPending
  typedata := channel.typedata

/-- The number has a channel of this kind. -/
def Slot.Has (good : Channel → Prop) (slot : Slot) : Prop :=
  ∃ channel, slot.channel = some channel ∧ good channel

/-- A property that depends on the identity only. -/
def Stable (good : Channel → Prop) : Prop :=
  ∀ channel channel' : Channel, channel'.identity = channel.identity → good channel → good channel'

/-- The computation keeps the channel, or returns after having removed it. -/
abbrev Unbinds (good : Channel → Prop) (run : ChanM Unit) : Prop :=
  Leads (Slot.Has good) (fun after => after.channel = none ∨ after.Has good) (fun _ => True) run

theorem Unbinds.ofMaintains {good : Channel → Prop} {run : ChanM Unit}
    (maintains : Maintains (Slot.Has good) run) : Unbinds good run :=
  maintains.imp (fun _ => .inr) fun _ => id

theorem Unbinds.ofReleases {good : Channel → Prop} {run : ChanM Unit}
    (releases : Releases (Slot.Has good) run) : Unbinds good run :=
  releases.imp (fun _ => .imp_left fun ⟨_, _, removed⟩ => congrArg Slot.channel removed)
    fun _ _ => trivial

theorem quiet_has {good : Channel → Prop} (stable : Stable good) : Quiet good (Slot.Has good) where
  present _ has := has
  put _ channel _ held := ⟨channel, rfl, held⟩
  send _ _ _ _ has := has
  closes channel channel' closes :=
    have same := congrArg Channel.identity closes.same
    stable channel channel' same

theorem calm_has {good : Channel → Prop} (stable : Stable good) : Calm (Slot.Has good) where
  present _ has := has.imp fun _ => And.left
  noted _ _ same _ has := has.imp fun _ => And.imp_left same.trans
  changed := by
    rintro slot channel channel' present same index ⟨other, present', held⟩
    cases present.symm.trans present'
    simp only [Channel.orderly, Prod.mk.injEq] at same
    obtain ⟨type, typedata, _, _, _, _, _, _, _, connPending, _⟩ := same
    refine ⟨channel', rfl, stable channel channel' ?_ held⟩
    rw [Channel.identity, index, type, connPending, typedata]
    rfl
  shut := by
    rintro slot channel fd present ⟨other, present', held⟩
    cases present.symm.trans present'
    exact ⟨_, rfl, stable channel _ rfl held⟩
  credited _ _ _ has := has

namespace Stable

variable {α : Type} {good : Channel → Prop} {channel channel' : Channel} (stable : Stable good)

/-! ## Data -/

theorem maintains_modify {change : Slot → Slot}
    (same : ∀ slot, (change slot).channel = slot.channel) :
    Maintains (Slot.Has good) (modify change : ChanM Unit) := by
  rintro slot ⟨channel, present, held⟩
  exact ⟨channel, (same slot).trans present, held⟩

theorem maintains_send (message : Message) : Maintains (Slot.Has good) (send message) :=
  maintains_modify fun _ => rfl

theorem maintains_noteAllowance (change : Allowance → Allowance) :
    Maintains (Slot.Has good) (noteAllowance change) :=
  maintains_modify fun _ => rfl

theorem maintains_countArrived (datalen : Nat) :
    Maintains (Slot.Has good) (countArrived datalen) :=
  maintains_modify fun _ => rfl

theorem maintains_fromResult (computed : Except Exit α) :
    Maintains (Slot.Has good) (fromResult computed) := by
  cases computed with
  | ok value => exact .pure value
  | error failure => exact .throw trivial

include stable

theorem setChannel_bind {next : ChanM α} (held : good channel)
    (same : channel'.identity = channel.identity) (rest : Maintains (Slot.Has good) next) :
    Maintains (Slot.Has good) (setChannel channel' >>= fun _ => next) :=
  ((quiet_has stable).leads_setChannel (stable channel channel' same held)).bind fun _ => rest

theorem commonRecvMsgChannelData (opts : Opts) (into : Into) (payload : Buffer)
    (result : WriteResult) :
    Maintains (Slot.Has good) (commonRecvMsgChannelData opts into payload result) := by
  have dropped : Maintains (Slot.Has good) (dropData payload) := by
    rw [dropData]
    split
    · exact maintains_countArrived _
    · exact .pure _
  apply (quiet_has stable).leads_withChannel
  intro channel _
  split
  · exact .throw trivial
  · split
    · apply (maintains_fromResult _).bind
      rintro ⟨datalen, behind⟩
      apply (maintains_countArrived _).bind
      intro _
      split
      · exact .throw trivial
      · exact ((calm_has stable).receives_acceptData into behind datalen result).imp (fun _ => id)
          fun _ _ => trivial
    · exact dropped

theorem sendMsgChannelData (isextended : Bool) (result : ReadResult) (lastChar : UInt8) :
    Maintains (Slot.Has good) (sendMsgChannelData isextended result lastChar) := by
  apply (quiet_has stable).leads_withChannel
  intro channel held
  dsimp only
  have closes : ∀ fd, Maintains (Slot.Has good) (setChannel (closeChanFd channel fd .shutRd)) :=
    fun fd => (quiet_has stable).leads_closed (.closeChanFd channel fd .shutRd) held
  generalize (if isextended then channel.errfd else channel.readfd) = fd
  split
  · exact .throw trivial
  · split
    · exact .throw trivial
    · split
      · exact .pure _
      · split
        · exact .pure _
        · exact closes _
        · split
          · exact closes _
          · apply (maintains_fromResult _).bind
            intro len
            split
            · exact .pure _
            · apply (maintains_noteAllowance _).bind
              intro _
              apply stable.setChannel_bind held
              · rfl
              · exact maintains_send _

/-! ## The other events -/

theorem confirmedInit (opts : Opts) (type : ChanType) :
    Maintains (Slot.Has good) (confirmedInit opts type) := by
  have quiet := quiet_has stable
  have pipes : Maintains (Slot.Has good) (cliInitStdpipeSess opts) := by
    apply quiet.leads_withChannel
    intro channel held
    apply (maintains_fromResult _).bind
    intro extrabuf
    exact quiet.leads_setChannel (stable channel _ rfl held)
  cases type with
  | clichansess =>
    apply pipes.bind
    intro _
    apply (quiet.leads_requestIf _ _).bind
    intro _
    apply (quiet.leads_requestIf _ _).bind
    intro _
    apply (quiet.leads_sendChannelRequest _).bind
    intro _
    exact quiet.leads_setReadMangler
  | cliChanNetcat => exact pipes
  | _ => exact .pure _

theorem channelio (opts : Opts) (io : IoResults) : Unbinds good (channelio opts io) := by
  intro slot held
  refine ends_channelio held (calm_has stable).present ?_ ?_ ?_ fun _ => .inr
  · rintro slot channel isextended result lastChar held _ _ _
    exact stable.sendMsgChannelData isextended result lastChar slot held
  · rintro slot channel into result held _ _ _
    exact ((calm_has stable).receives_writechannel into none result slot held).imp (fun _ _ => id)
      fun _ _ failed => ⟨failed.1, trivial⟩
  · exact Unbinds.ofReleases ((quiet_has stable).releases_checkClose io.pending)

end Stable

/-! ## Requests -/

/-- What a request makes of a session: at most one command is started, with the process
number and the exit status that the system gives. -/
structure ChanSess.Follows (payload : Buffer) (outcome : Outcome) (before after : ChanSess) :
    Prop where
  pid : after.pid = before.pid ∨ before.pid = 0 ∧ AsksCommand payload ∧
    (outcome.spawned.map (·.pid.1) = some after.pid ∨ outcome.forked.map (·.1) = some after.pid)
  exit : after.exit = before.exit ∨ outcome.lastexit = some after.exit

/-- The channel is the same, and its session is what the request can make of it. -/
def Identity.Requested (payload : Buffer) (outcome : Outcome) (identity : Identity)
    (channel : Channel) : Prop :=
  channel.identity = { identity with typedata := channel.typedata } ∧
    (channel.typedata = identity.typedata ∨ ∃ before after, identity.typedata = some before ∧
      channel.typedata = some after ∧ before.Follows payload outcome after)

section

variable {opts : Opts} {outcome : Outcome} {payload : Buffer} {slot after : Slot}
  {channel channel' : Channel}

theorem Channel.Requested.identity (requested : channel.Requested opts payload outcome channel') :
    channel.identity.Requested payload outcome channel' := by
  rcases requested with rfl | ⟨_, chansess, type, behind, _, _, typedata, isType, _, answers⟩
  · exact ⟨rfl, .inl rfl⟩
  · cases answers with
    | waits waits => exact ⟨rfl, .inr ⟨chansess, _, typedata, rfl, .inl waits.pid, .inl waits.exit⟩⟩
    | starts kind _ starts _ _ _ =>
      exact ⟨rfl, .inr ⟨chansess, _, typedata, rfl,
        .inr ⟨starts.idle, ⟨type, behind, _, _, isType, kind⟩, starts.given⟩, starts.exit⟩⟩

theorem Served.identity (served : Served opts payload outcome slot channel after) :
    after.Has (channel.identity.Requested payload outcome) := by
  cases served with
  | silently requested => exact ⟨_, rfl, requested.identity⟩
  | replying requested _ _ => exact ⟨_, rfl, requested.identity⟩

theorem ends_recvMsgChannelRequest_identity (opts : Opts) (present : slot.channel = some channel)
    (payload : Buffer) :
    Ends (fun _ after => after.Has (channel.identity.Requested payload outcome))
      (fun _ after => after.Has (channel.identity.Requested payload outcome))
      (recvMsgChannelRequest opts payload outcome channel slot) :=
  (ends_recvMsgChannelRequest present rfl).imp (fun _ _ => Served.identity)
    fun _ _ failed => failed.1.identity

end

/-! ## Events -/

/-- What an event for a channel can make of it, if it is not removed. -/
def Event.MayLeave (event : Event) (identity : Identity) (channel : Channel) : Prop :=
  match event with
  | .recvRequest payload outcome => identity.Requested payload outcome channel
  | .childExit _ _ => channel.identity = { identity with typedata := channel.typedata }
  | _ => channel.identity = identity

theorem identity_childExited (channel : Channel) (pid : Positive) (status : WaitStatus) :
    (childExited channel pid status).identity =
      { channel.identity with typedata := (childExited channel pid status).typedata } := by
  rw [childExited.eq_def]
  split
  · rfl
  · split <;> rfl

theorem stable_identity (identity : Identity) : Stable (·.identity = identity) :=
  fun _ _ same held => same.trans held

theorem unbinds_message {kind : String} {good : Channel → Prop} {next : Channel → ChanM Unit}
    (rest : ∀ channel, good channel → Unbinds good (next channel)) :
    Unbinds good (getchannelMsg kind >>= next) := by
  rintro slot ⟨channel, present, held⟩
  apply ends_getchannelMsg
  · intro _
    exact ⟨⟨channel, present, held⟩, trivial⟩
  · intro channel' found
    cases found.symm.trans present
    exact rest channel held slot ⟨channel, present, held⟩

theorem unbinds_onChannel {good : Channel → Prop} {act : Channel → ChanM Unit}
    (rest : ∀ channel, good channel → Unbinds good (act channel)) :
    Unbinds good (onChannel act) := by
  rintro slot ⟨channel, present, held⟩
  rw [onChannel_of_present present]
  exact rest channel held slot ⟨channel, present, held⟩

/-- **An event for a channel leaves its number, its type and whether a connection is
pending**, unless it removes the channel, which is then the last thing it does. -/
theorem ends_step_identity (opts : Opts) (index : Nat) {event : Event}
    (running : event.opens = false) {slot : Slot} {channel : Channel}
    (present : slot.channel = some channel) :
    Ends (fun _ after => after.channel = none ∨ after.Has (event.MayLeave channel.identity))
      (fun _ after => after.Has (event.MayLeave channel.identity))
      (step opts index event slot) := by
  have stable := stable_identity channel.identity
  have quiet := quiet_has stable
  have held : slot.Has (·.identity = channel.identity) := ⟨channel, present, rfl⟩
  -- what is kept of the channel is kept in a failed state as well
  have unbinds : ∀ {run : ChanM Unit}, Unbinds (·.identity = channel.identity) run →
      Ends (fun _ after => after.channel = none ∨ after.Has (·.identity = channel.identity))
        (fun _ after => after.Has (·.identity = channel.identity)) (run slot) :=
    fun unbinds => (unbinds slot held).imp (fun _ _ => id) fun _ _ => And.left
  cases event with
  | recvOpen => cases running
  | openInit => cases running
  | connectDone => cases running
  | recvOpenConfirmation remotechan transwindow transmaxpacket =>
    refine unbinds (unbinds_message fun channel same => .ofMaintains ?_)
    rw [recvMsgChannelOpenConfirmation]
    split
    · exact .throw trivial
    · apply (Stable.maintains_noteAllowance _).bind
      intro _
      apply stable.setChannel_bind same
      · rfl
      · exact stable.confirmedInit opts _
  | recvOpenFailure =>
    refine unbinds (unbinds_message fun channel same => ?_)
    rw [recvMsgChannelOpenFailure]
    split
    · exact .throw trivial
    · exact Unbinds.ofReleases Quiet.releases_removeChannel
  | recvWindowAdjust incr =>
    refine unbinds (unbinds_message fun channel same => .ofMaintains ?_)
    apply (Stable.maintains_noteAllowance _).bind
    intro _
    apply quiet.leads_setChannel
    exact same
  | recvData payload result =>
    refine unbinds (unbinds_message fun channel same => ?_)
    exact .ofMaintains (stable.commonRecvMsgChannelData opts .writebuf payload result)
  | recvExtendedData payload result =>
    rw [step]
    split
    · exact .inr held
    · refine unbinds (unbinds_message fun channel same => .ofMaintains ?_)
      rw [recvMsgChannelExtendedData]
      split
      · exact .pure _
      · apply (Stable.maintains_fromResult _).bind
        rintro ⟨datatype, payload⟩
        dsimp only
        split
        · exact .pure _
        · exact stable.commonRecvMsgChannelData opts .extrabuf payload result
  | recvEof pending =>
    refine unbinds (unbinds_message fun channel same => ?_)
    exact .ofReleases (quiet.releases_marked pending ⟨rfl, id, id⟩ same)
  | recvClose pending =>
    refine unbinds (unbinds_message fun channel same => ?_)
    exact .ofReleases (quiet.releases_marked pending ⟨rfl, id, id⟩ same)
  | recvRequest payload outcome =>
    apply ends_getchannelMsg
    · intro missing
      rw [missing] at present
      cases present
    · intro channel' found
      cases found.symm.trans present
      exact (ends_recvMsgChannelRequest_identity opts present payload).mono fun _ _ => .inr
  | channelio io => exact unbinds (unbinds_onChannel fun _ _ => stable.channelio opts io)
  | childExit pid status =>
    rw [step, onChannel_of_present present]
    exact .inr ⟨_, rfl, identity_childExited channel pid status⟩
  | winchange =>
    refine unbinds (unbinds_onChannel fun channel _ => ?_)
    exact .ofMaintains (quiet.leads_cliChansessWinchange channel)
  | keepalive =>
    refine unbinds (unbinds_onChannel fun channel _ => ?_)
    exact .ofMaintains (quiet.leads_sendMsgKeepalive channel)

end Dropbear.Channels
