/-
# Requests and data keep the order

A session may start its command as long as it has not sent its EOF.  Data is read
from open descriptors only, and a channel that has sent its EOF has none to read
from.
-/

import Dropbear.Channels.Closing

namespace Dropbear.Channels

open Program

/-- There is a channel, and its messages are in order. -/
def Slot.Live (slot : Slot) : Prop :=
  ∃ channel, slot.channel = some channel ∧ channel.Ordered slot.sent

theorem Slot.Live.ordered {slot : Slot} (live : slot.Live) : slot.Ordered := by
  obtain ⟨channel, present, ordered⟩ := live
  refine ⟨ordered.follows, fun other found => ?_⟩
  cases present.symm.trans found
  exact ordered

theorem ofBuffer_ne_sentCloseAssert {failure : Exit} (ofBuffer : failure.OfBuffer) :
    failure ≠ sentCloseAssert := by
  rcases ofBuffer with rfl | ⟨message, _, rfl⟩
  · decide
  · exact nofun

section

variable {opts : Opts} {channel : Channel} {slot : Slot} {sent : List Message}

theorem orderly_read {α β : Type} {computed : Except Exit α} {next : α → ChanM β}
    {returned : β → Slot → Prop} (failsOnly : FailsOnly (· ≠ sentCloseAssert) computed)
    (ordered : slot.Ordered)
    (rest : ∀ value, computed = .ok value → Ends returned EndsWell (next value slot)) :
    Ends returned EndsWell ((fromResult computed >>= next) slot) := by
  apply ends_fromResult _ rest
  intro failure failed
  exact ⟨ordered.disciplined, failsOnly failure failed⟩

theorem orderly_readBuffer {α β : Type} {computed : Except Exit α} {next : α → ChanM β}
    {returned : β → Slot → Prop} (failsOnly : FailsOnly Exit.OfBuffer computed)
    (ordered : slot.Ordered) (rest : ∀ value, Ends returned EndsWell (next value slot)) :
    Ends returned EndsWell ((fromResult computed >>= next) slot) :=
  orderly_read (failsOnly.mono fun _ => ofBuffer_ne_sentCloseAssert) ordered fun value _ =>
    rest value

/-! ## Replies and requests -/

theorem orderly_sendChannelRequest (present : slot.channel = some channel)
    (ordered : channel.Ordered slot.sent) (notClosed : channel.sentClose = false) (type : String) :
    Ends (fun _ after => after.channel = some channel ∧ channel.Ordered after.sent) EndsWell
      (sendChannelRequest type slot) := by
  rw [sendChannelRequest, theChannel_bind present]
  exact ⟨present, ordered.append notClosed rfl rfl rfl⟩

theorem Channel.Ordered.setChansess {chansess chansess' : ChanSess} (ordered : channel.Ordered sent)
    (there : channel.typedata = some chansess) (samePid : chansess'.pid = chansess.pid) :
    ({ channel with typedata := some chansess' } : Channel).Ordered sent := by
  have vacant : ({ channel with typedata := some chansess' } : Channel).Vacant → channel.Vacant := by
    rintro (pending | ⟨other, isThere, nothing⟩)
    · exact .inl pending
    · cases isThere
      exact .inr ⟨chansess, there, samePid.symm.trans nothing⟩
  exact
    { ordered with
      vacant := fun isVacant => { ordered.vacant (vacant isVacant) with }
      pending := by
        intro pending
        have missing := (ordered.pending pending).2.1
        rw [there] at missing
        cases missing
      awaiting := by
        intro waits
        have missing := (ordered.awaiting waits).typedata
        rw [there] at missing
        cases missing
      finished := fun isVacant => ordered.finished (vacant isVacant) }

/-- A session that has not sent its EOF may get its descriptors. -/
theorem Channel.Ordered.start (ordered : channel.Ordered sent)
    (session : channel.type = .svrchansess) (noEof : channel.sentEof = false)
    (writefd readfd errfd : Fd) {chansess : ChanSess} (started : 0 < chansess.pid) :
    ({ channel with
        writefd := writefd
        readfd := readfd
        errfd := errfd
        bidirFd := false
        typedata := some chansess } : Channel).Ordered sent := by
  have notClosed := ordered.notClosed_of_noEof noEof
  have notVacant : ¬ ({ channel with
        writefd := writefd
        readfd := readfd
        errfd := errfd
        bidirFd := false
        typedata := some chansess } : Channel).Vacant := by
    rintro (pending | ⟨other, isThere, nothing⟩)
    · exact (ordered.pending pending).1 session
    · cases isThere
      omega
  constructor
  · constructor
    · exact ordered.follows
    · exact ordered.eofs
    · exact ordered.closes
    · intro sentEof
      exact absurd sentEof (Bool.eq_false_iff.1 noEof)
    · intro sentClose
      exact absurd sentClose (Bool.eq_false_iff.1 notClosed)
    · nofun
    · intro vacant
      exact absurd vacant notVacant
    · intro waits
      exact absurd session (ordered.awaiting waits).type
    · intro pending
      exact absurd session (ordered.pending pending).1
  · intro vacant
    exact absurd vacant notVacant

variable {channel' : Channel}

/-- Requests for a command on a vacant session come before its CLOSE. -/
theorem Channel.Ordered.requested {payload : Buffer} {outcome : Outcome}
    (ordered : channel.Ordered sent)
    (timely : AsksCommand payload → channel.Vacant → channel.sentClose = false)
    (requested : channel.Requested opts payload outcome channel') : channel'.Ordered sent := by
  rcases requested with rfl | ⟨session, chansess, type, behind, _, _, typedata, isType, _, answers⟩
  · exact ordered
  · cases answers with
    | waits waits => exact ordered.setChansess typedata waits.pid
    | starts kind _ starts writefd readfd errfd =>
      have asks : AsksCommand payload := ⟨type, behind, _, _, isType, kind⟩
      have vacant : channel.Vacant := .inr ⟨chansess, typedata, starts.idle⟩
      refine ordered.start session ?_ writefd readfd errfd starts.pid
      cases sentEof : channel.sentEof with
      | false => rfl
      | true =>
        have sentClose := ordered.finished vacant sentEof
        rw [timely asks vacant] at sentClose
        cases sentClose

theorem Served.live {payload : Buffer} {outcome : Outcome} {after : Slot}
    (served : Served opts payload outcome slot channel after) (ordered : channel.Ordered slot.sent)
    (timely : AsksCommand payload → channel.Vacant → channel.sentClose = false) : after.Live := by
  cases served with
  | silently requested => exact ⟨_, rfl, ordered.requested timely requested⟩
  | replying requested notClosed isReply =>
    have kept := ordered.requested timely requested
    rcases isReply with rfl | rfl
    · exact ⟨_, rfl, kept.append notClosed rfl rfl rfl⟩
    · exact ⟨_, rfl, kept.append notClosed rfl rfl rfl⟩

theorem orderly_recvMsgChannelRequest (present : slot.channel = some channel)
    (ordered : channel.Ordered slot.sent) {payload : Buffer}
    (timely : AsksCommand payload → channel.Vacant → channel.sentClose = false)
    (outcome : Outcome) :
    Ends (fun _ after => after.Live) EndsWell
      (recvMsgChannelRequest opts payload outcome channel slot) := by
  refine (ends_recvMsgChannelRequest present rfl).imp ?_ ?_
  · intro _ after served
    exact served.live ordered timely
  · rintro failure after ⟨served, failed⟩
    refine ⟨(served.live ordered timely).ordered.disciplined, ?_⟩
    rcases failed with ofBuffer | listed
    · exact ofBuffer_ne_sentCloseAssert ofBuffer
    · rintro rfl
      exact absurd listed (by decide)

/-! ## Data -/

theorem failsOnly_cbufReadptrs (cbuf : CircBuffer) :
    FailsOnly (· ≠ sentCloseAssert) (cbufReadptrs cbuf) := by
  rw [cbufReadptrs]
  repeat' split
  all_goals first | exact .ok _ | exact .error (by decide)

theorem failsOnly_cbufWritelen (cbuf : CircBuffer) :
    FailsOnly (· ≠ sentCloseAssert) (cbufWritelen cbuf) := by
  rw [cbufWritelen]
  repeat' split
  all_goals first | exact .ok _ | exact .error (by decide)

theorem failsOnly_cbufPut (cbuf : CircBuffer) (bytes : Bytes) :
    FailsOnly (· ≠ sentCloseAssert) (cbufPut cbuf bytes) := by
  apply (failsOnly_cbufWritelen cbuf).bind
  intro room _
  dsimp only
  repeat' split
  all_goals first | exact .ok _ | exact .error (by decide)

theorem failsOnly_cbufIncrwrite (cbuf : CircBuffer) (len : Nat) :
    FailsOnly (· ≠ sentCloseAssert) (cbufIncrwrite cbuf len) := by
  apply (failsOnly_cbufWritelen cbuf).bind
  intro room _
  dsimp only
  repeat' split
  all_goals first | exact .ok _ | exact .error (by decide)

theorem failsOnly_cbufIncrread (cbuf : CircBuffer) (len : Nat) :
    FailsOnly (· ≠ sentCloseAssert) (cbufIncrread cbuf len) := by
  rw [cbufIncrread]
  repeat' split
  all_goals first | exact .ok _ | exact .error (by decide)

theorem failsOnly_assertWindow (channel : Channel) :
    FailsOnly (· ≠ sentCloseAssert) (assertWindow opts channel) := by
  rw [assertWindow]
  repeat' split
  all_goals first | exact .ok _ | exact .error (by decide)

theorem failsOnly_storeLoop (rounds : Nat) (cbuf : CircBuffer) (payload : Buffer) (len : Nat) :
    FailsOnly (· ≠ sentCloseAssert) (storeLoop rounds cbuf payload len) := by
  induction rounds generalizing cbuf payload len with
  | zero =>
    cases len with
    | zero => exact .ok _
    | succ len => exact .error (by decide)
  | succ rounds ih =>
    cases len with
    | zero => exact .ok _
    | succ len =>
      apply (failsOnly_cbufWritelen cbuf).bind
      intro room _
      apply ((failsOnly_bufGetptr _ _).mono fun _ => ofBuffer_ne_sentCloseAssert).bind
      intro ptr _
      apply ((failsOnly_peek _ _ _).mono fun _ => ofBuffer_ne_sentCloseAssert).bind
      intro bytes _
      apply (failsOnly_cbufPut _ _).bind
      intro filled _
      apply (failsOnly_cbufIncrwrite _ _).bind
      intro advanced _
      apply ((failsOnly_bufIncrpos _ _).mono fun _ => ofBuffer_ne_sentCloseAssert).bind
      intro behind _
      exact ih advanced behind _

/-- A channel with a descriptor to write to has not sent its CLOSE. -/
theorem Channel.Ordered.notClosed {into : Into} (ordered : channel.Ordered sent)
    (isOpen : (channel.fdInto into).isOpen) : channel.sentClose = false := by
  cases sentClose : channel.sentClose with
  | false => rfl
  | true =>
    obtain ⟨_, _, writefd, errfd⟩ := ordered.closed sentClose
    have closed : channel.fdInto into = .closed := by
      cases into
      · exact writefd
      · exact errfd
    rw [closed] at isOpen
    cases isOpen

theorem orderly_setCbuf {into : Into} {cbuf : CircBuffer} (there : channel.cbuf into = some cbuf)
    (cbuf' : CircBuffer) : (channel.setCbuf cbuf' into).orderly = channel.orderly := by
  cases into with
  | writebuf => rfl
  | extrabuf =>
    have isSome : channel.extrabuf.isSome := congrArg Option.isSome there
    simp [Channel.orderly, Channel.setCbuf, Channel.errfdIsRead, isSome]

theorem failsOnly_writechannelWritev (channel : Channel) (into : Into) (moredata : Option Bytes)
    (result : WriteResult) :
    FailsOnly (· ≠ sentCloseAssert) (writechannelWritev channel into moredata result) := by
  rw [writechannelWritev]
  split
  · exact .error (by decide)
  · apply (failsOnly_cbufReadptrs _).bind
    rintro ⟨circ1, circ2⟩ _
    dsimp only
    split
    · exact .ok _
    · split
      · exact .ok _
      · exact .ok _
      · apply (failsOnly_cbufIncrread _ _).bind
        intro cbuf _
        exact .ok _

theorem failsOnly_writechannelFallback (channel : Channel) (into : Into) (result : WriteResult) :
    FailsOnly (· ≠ sentCloseAssert) (writechannelFallback channel into result) := by
  rw [writechannelFallback]
  split
  · exact .error (by decide)
  · apply (failsOnly_cbufReadptrs _).bind
    rintro ⟨circ1, circ2⟩ _
    dsimp only
    split
    · exact .ok _
    · exact .ok _
    · apply (failsOnly_cbufIncrread _ _).bind
      intro cbuf _
      exact .ok _

theorem failsOnly_writechannelOnce (channel : Channel) (into : Into) (moredata : Option Bytes)
    (result : WriteResult) :
    FailsOnly (· ≠ sentCloseAssert) (writechannelOnce opts channel into moredata result) := by
  rw [writechannelOnce]
  split
  · exact failsOnly_writechannelWritev channel into moredata result
  · exact failsOnly_writechannelFallback channel into result

/-- A write leaves the channel alone, closes the descriptor, or takes what was written
from the buffer. -/
theorem once_cases {into : Into} {moredata : Option Bytes} {result : WriteResult} {good : Bool}
    {consumed : Nat}
    (wrote : writechannelOnce opts channel into moredata result = .ok (channel', good, consumed)) :
    channel' = channel ∨ channel' = closeChanFd channel (channel.fdInto into) .shutWr ∨
      ∃ cbuf cbuf' recvdonelen, channel.cbuf into = some cbuf ∧
        channel' = { channel.setCbuf cbuf' into with recvdonelen := recvdonelen } := by
  rw [writechannelOnce] at wrote
  split at wrote
  · rw [writechannelWritev] at wrote
    split at wrote
    · cases wrote
    case _ cbuf there =>
      obtain ⟨⟨circ1, circ2⟩, _, wrote⟩ := Except.bind_eq_ok.1 wrote
      dsimp only at wrote
      split at wrote
      · cases wrote
        exact .inl rfl
      · split at wrote
        · cases wrote
          exact .inl rfl
        · cases wrote
          exact .inr (.inl rfl)
        · obtain ⟨cbuf', _, wrote⟩ := Except.bind_eq_ok.1 wrote
          cases wrote
          exact .inr (.inr ⟨cbuf, cbuf', _, there, rfl⟩)
  · rw [writechannelFallback] at wrote
    split at wrote
    · cases wrote
    case _ cbuf there =>
      obtain ⟨⟨circ1, circ2⟩, _, wrote⟩ := Except.bind_eq_ok.1 wrote
      dsimp only at wrote
      split at wrote
      · cases wrote
        exact .inl rfl
      · cases wrote
        exact .inr (.inl rfl)
      · obtain ⟨cbuf', _, wrote⟩ := Except.bind_eq_ok.1 wrote
        cases wrote
        exact .inr (.inr ⟨cbuf, cbuf', _, there, rfl⟩)

end

/-- What is said of a slot and its channel is left alone by receiving data: by windows, buffers
and what is noted, by closing the descriptor after a failed write, and by the credit that is
sent. -/
structure Calm (holds : Slot → Prop) : Prop where
  present : ∀ slot, holds slot → ∃ channel, slot.channel = some channel
  noted : ∀ slot after, after.channel = slot.channel → after.sent = slot.sent → holds slot →
    holds after
  changed : ∀ slot channel channel', slot.channel = some channel →
    channel'.orderly = channel.orderly → channel'.index = channel.index → holds slot →
      holds { slot with channel := some channel' }
  shut : ∀ slot channel fd, slot.channel = some channel → holds slot →
    holds { slot with channel := some (closeChanFd channel fd .shutWr) }
  credited : ∀ slot remotechan incr, holds slot →
    holds { slot with sent := slot.sent ++ [.windowAdjust remotechan incr] }

/-- The computation keeps this of the slot, and the assertion of `send_msg_channel_data` does not
fail. -/
abbrev Receives {α : Type} (holds : Slot → Prop) (run : ChanM α) : Prop :=
  Leads holds holds (· ≠ sentCloseAssert) run

theorem receives_readBuffer {α β : Type} {holds : Slot → Prop} {computed : Except Exit α}
    {next : α → ChanM β} (failsOnly : FailsOnly Exit.OfBuffer computed)
    (rest : ∀ value, Receives holds (next value)) :
    Receives holds (fromResult computed >>= next) :=
  leads_read (failsOnly.mono fun _ => ofBuffer_ne_sentCloseAssert) fun value _ => rest value

namespace Calm

variable {holds : Slot → Prop} {opts : Opts} {channel channel' : Channel} {slot : Slot}
  (calm : Calm holds)

include calm

theorem once {into : Into} {moredata : Option Bytes} {result : WriteResult} {good : Bool}
    {consumed : Nat} (present : slot.channel = some channel) (held : holds slot)
    (wrote : writechannelOnce opts channel into moredata result = .ok (channel', good, consumed)) :
    holds { slot with channel := some channel' } := by
  rcases once_cases wrote with rfl | rfl | ⟨cbuf, cbuf', recvdonelen, there, rfl⟩
  · rwa [← present]
  · exact calm.shut slot channel _ present held
  · refine calm.changed slot channel _ present (orderly_setCbuf there cbuf') ?_ held
    cases into <;> rfl

theorem receives_noteStream (change : Stream → Stream) : Receives holds (noteStream change) :=
  fun slot held => calm.noted slot _ rfl rfl held

theorem receives_extendWindow : Receives holds (extendWindow opts) := by
  intro slot held
  obtain ⟨channel, present⟩ := calm.present slot held
  rw [extendWindow, theChannel_bind present]
  split
  · have credited := calm.credited slot channel.remotechan channel.recvdonelen held
    exact calm.changed _ channel _ present rfl rfl credited
  · exact held

theorem receives_writechannel (into : Into) (moredata : Option Bytes) (result : WriteResult) :
    Receives holds (writechannel opts into moredata result) := by
  intro slot held
  obtain ⟨channel, present⟩ := calm.present slot held
  rw [writechannel, theChannel_bind present, noteStream_bind]
  have noted := calm.noted slot
    { slot with stream := slot.stream.afterCall opts channel into moredata result } rfl rfl held
  apply ends_fromResult
  · intro failure failed
    exact ⟨noted, failsOnly_writechannelOnce _ _ _ _ failure failed⟩
  · rintro ⟨channel', good, consumed⟩ wrote
    apply ends_setChannel
    refine calm.receives_extendWindow.bind (fun _ slot held => ?_) _ (calm.once present noted wrote)
    obtain ⟨channel, present⟩ := calm.present slot held
    rw [theChannel_bind present]
    exact leads_read (failsOnly_assertWindow channel) (fun _ _ => .pure _) slot held

theorem receives_storeRest (into : Into) (payload : Buffer) (good : Bool) (len : Nat) :
    Receives holds (storeRest into payload good len) := by
  rw [storeRest]
  split
  · intro slot held
    obtain ⟨channel, present⟩ := calm.present slot held
    rw [theChannel_bind present]
    cases there : channel.cbuf into with
    | none => exact ⟨held, by decide⟩
    | some cbuf =>
      apply ends_fromResult
      · intro failure failed
        exact ⟨held, failsOnly_storeLoop _ _ _ _ failure failed⟩
      · intro cbuf' _
        refine calm.changed slot channel _ present (orderly_setCbuf there cbuf') ?_ held
        cases into <;> rfl
  · exact .pure _

theorem receives_takeWindow (datalen : Nat) : Receives holds (takeWindow opts datalen) := by
  intro slot held
  obtain ⟨channel, present⟩ := calm.present slot held
  rw [takeWindow, theChannel_bind present]
  split
  · exact ⟨held, by decide⟩
  · apply ends_setChannel
    have taken := calm.changed slot channel
      { channel with recvwindow := sub32 channel.recvwindow datalen } present rfl rfl held
    split
    · exact ⟨taken, by decide⟩
    · exact taken

theorem receives_acceptData (into : Into) (payload : Buffer) (datalen : Nat)
    (result : WriteResult) : Receives holds (acceptData opts into payload datalen result) := by
  apply (calm.receives_takeWindow datalen).bind
  intro _
  apply receives_readBuffer (failsOnly_bufGetptr payload datalen)
  intro ptr
  apply receives_readBuffer (failsOnly_peek payload ptr datalen)
  intro bytes
  apply (calm.receives_noteStream _).bind
  intro _
  apply (calm.receives_writechannel into (some bytes) result).bind
  rintro ⟨good, consumed⟩
  apply receives_readBuffer (failsOnly_bufIncrpos payload consumed)
  intro behind
  exact calm.receives_storeRest into behind good _

end Calm

/-- There is a channel that has not sent its CLOSE. -/
def Slot.Running (slot : Slot) : Prop :=
  ∃ channel, slot.channel = some channel ∧ channel.Ordered slot.sent ∧ channel.sentClose = false

theorem Slot.Running.ordered {slot : Slot} (running : slot.Running) : slot.Ordered := by
  obtain ⟨channel, present, ordered, _⟩ := running
  exact Slot.Live.ordered ⟨channel, present, ordered⟩

/-- A channel that has not sent its CLOSE may receive data. -/
theorem calm_running : Calm Slot.Running where
  present _ running := running.imp fun _ => And.left
  noted := by
    rintro slot after sameChannel sameSent ⟨channel, present, ordered, notClosed⟩
    exact ⟨channel, sameChannel.trans present, sameSent ▸ ordered, notClosed⟩
  changed := by
    rintro slot channel channel' present same _ ⟨other, present', ordered, notClosed⟩
    cases present.symm.trans present'
    refine ⟨channel', rfl, ordered.congr same, ?_⟩
    simp only [Channel.orderly, Prod.mk.injEq] at same
    exact same.2.2.2.2.2.2.2.2.1.trans notClosed
  shut := by
    rintro slot channel fd present ⟨other, present', ordered, notClosed⟩
    cases present.symm.trans present'
    refine ⟨_, rfl, ordered.closeChanFd fd ?_, notClosed⟩
    rintro _ ⟨⟩
  credited := by
    rintro slot remotechan incr ⟨channel, present, ordered, notClosed⟩
    exact ⟨channel, present, ordered.append notClosed rfl rfl rfl, notClosed⟩

section

variable {opts : Opts} {channel channel' : Channel} {slot : Slot} {sent : List Message}

theorem orderly_of_receives {α : Type} {run : ChanM α} (receives : Receives Slot.Running run)
    (running : slot.Running) : Ends (fun _ after => after.Running) EndsWell (run slot) :=
  (receives slot running).imp (fun _ _ => id) fun _ _ both => ⟨both.1.ordered.disciplined, both.2⟩

theorem orderly_commonRecvMsgChannelData (present : slot.channel = some channel)
    (ordered : channel.Ordered slot.sent) (into : Into) (payload : Buffer) (result : WriteResult) :
    Ends (fun _ after => after.Ordered) EndsWell
      (commonRecvMsgChannelData opts into payload result slot) := by
  have all : slot.Ordered := Slot.Live.ordered ⟨channel, present, ordered⟩
  have drops : Ends (fun _ after => after.Ordered) EndsWell (dropData payload slot) := by
    rw [dropData]
    cases bufGetint payload with
    | ok read => exact all
    | error failure => exact all
  rw [commonRecvMsgChannelData, theChannel_bind present]
  split
  · exact ⟨all.disciplined, by decide⟩
  · cases descriptor : channel.fdInto into with
    | uninit => exact drops
    | closed => exact drops
    | fd number =>
      have notClosed := ordered.notClosed (congrArg Fd.isOpen descriptor)
      cases channel.cbuf into with
      | none => exact drops
      | some cbuf =>
        apply orderly_readBuffer (failsOnly_bufGetint payload) all
        rintro ⟨datalen, behind⟩
        dsimp only
        rw [EStateM.bind_of_ok (show countArrived datalen slot = .ok () _ from rfl)]
        split
        · exact ⟨Slot.Ordered.disciplined all, by decide⟩
        · have running : Slot.Running { slot with arrived := slot.arrived + datalen } :=
            ⟨channel, present, ordered, notClosed⟩
          exact (orderly_of_receives (calm_running.receives_acceptData into behind datalen result)
            running).mono fun _ _ => Slot.Running.ordered

/-- A channel that reads has not sent its EOF. -/
theorem Channel.Ordered.noEof (ordered : channel.Ordered sent)
    (isOpen : channel.readfd.isOpen ∨ channel.errfdIsRead ∧ channel.errfd.isOpen) :
    channel.sentEof = false := by
  cases sentEof : channel.sentEof with
  | false => rfl
  | true =>
    have done := ordered.reading sentEof
    rw [Channel.readingDone, Bool.and_eq_true, Bool.or_eq_true, decide_eq_true_eq,
      decide_eq_true_eq] at done
    rcases isOpen with isOpen | ⟨isRead, isOpen⟩
    · rw [done.1] at isOpen
      cases isOpen
    · rcases done.2 with notRead | closed
      · rw [isRead] at notRead
        cases notRead
      · rw [closed] at isOpen
        cases isOpen

/-- Data is sent only before the EOF. -/
theorem orderly_sendData (ordered : channel.Ordered slot.sent) (notClosed : channel.sentClose = false)
    (noEof : channel.sentEof = false) (isextended : Bool) (bytes : Bytes) :
    Ends (fun _ after => after.Live) EndsWell (sendData channel isextended bytes slot) := by
  have sends : ∀ message : Message, message.isEof = false → message.isClose = false →
      Slot.Live
        { slot with
          channel := some { channel with transwindow := sub32 channel.transwindow bytes.length }
          sent := slot.sent ++ [message]
          allowance := slot.allowance.spend bytes.length channel.transwindow } := by
    intro message notEof notClose
    refine ⟨_, rfl, Channel.Ordered.congr ⟨?_, ordered.finished⟩ rfl⟩
    apply ordered.toTidy.append notClosed notEof notClose
    intro sentEof
    rw [noEof] at sentEof
    cases sentEof
  cases isextended
  · exact sends (.data channel.remotechan bytes) rfl rfl
  · exact sends (.extendedData channel.remotechan bytes) rfl rfl

/-- Data is read only from an open descriptor, so the channel has not sent its CLOSE,
nor its EOF. -/
theorem orderly_sendMsgChannelData (present : slot.channel = some channel)
    (ordered : channel.Ordered slot.sent) (isextended : Bool)
    (isOpen : (if isextended then channel.errfd else channel.readfd).isOpen)
    (noEof : channel.sentEof = false) (result : ReadResult) (lastChar : UInt8) :
    Ends (fun _ after => after.Live) EndsWell
      (sendMsgChannelData isextended result lastChar slot) := by
  have live : slot.Live := ⟨channel, present, ordered⟩
  have notClosed := ordered.notClosed_of_noEof noEof
  rw [sendMsgChannelData, theChannel_bind present]
  dsimp only
  generalize (if isextended then channel.errfd else channel.readfd) = fd at isOpen
  rw [if_neg (Bool.eq_false_iff.1 notClosed), if_neg (not_not.2 isOpen)]
  split
  · exact live
  case _ room =>
    have confirmed : channel.awaitOpen → How.shutRd ≠ .shutRd := by
      intro waits
      have nothing := (ordered.awaiting waits).transmaxpacket
      rw [maxSend, nothing] at room
      exact absurd (by omega) room
    have closes : Ends (fun _ after => after.Live) EndsWell
        (setChannel (closeChanFd channel fd .shutRd) slot) :=
      ⟨_, rfl, ordered.closeChanFd fd confirmed⟩
    cases result with
    | failed interrupted =>
      cases interrupted with
      | true => exact live
      | false => exact closes
    | got bytes =>
      dsimp only
      split
      · exact closes
      · have fails : FailsOnly (· ≠ sentCloseAssert) (mangledLen channel lastChar
            (bytes.take (maxSend channel isextended))) :=
          (failsOnly_mangledLen _ _ _).mono (by rintro _ rfl; decide)
        apply orderly_read fails live.ordered
        intro len _
        split
        · exact live
        · exact orderly_sendData ordered notClosed noEof isextended _

end

end Dropbear.Channels
