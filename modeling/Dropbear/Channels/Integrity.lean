/-
# The data for the write descriptor

What has been written to the write descriptor, followed by what is buffered, is what
was taken from the peer's messages, as long as no write fails.  A message is taken
whole, or not at all: this depends only on whether the descriptor is open.

The program writes with `writev` or, where it was built without, piece by piece.  The
second way does nothing that the first could not do: every event goes as it does with
`writev` when less is written.
-/

import Dropbear.Channels.Credit
import Dropbear.Channels.Discipline

namespace Dropbear.Channels

open Program

/-! ## One way of writing and the other -/

/-- The same result, with at most `limit` bytes written. -/
def WriteResult.atMost (limit : Nat) : WriteResult → WriteResult
  | .wrote count => .wrote (min count limit)
  | .failed passing => .failed passing

/-- What `writev` would have to return to do what is done without it: at most the first
portion of the buffer is written. -/
def CircBuffer.asWritev (cbuf : CircBuffer) (result : WriteResult) : WriteResult :=
  match cbufReadptrs cbuf with
  | .error _ => result
  | .ok (circ1, _) => result.atMost circ1.length

def Channel.asWritev (channel : Channel) (into : Into) (result : WriteResult) : WriteResult :=
  match channel.cbuf into with
  | none => result
  | some cbuf => cbuf.asWritev result

/-- The same event, with the results `writev` would have to return. -/
def Event.asWritev (event : Event) (channel : Channel) : Event :=
  match event with
  | .recvData payload result => .recvData payload (channel.asWritev .writebuf result)
  | .recvExtendedData payload result =>
    .recvExtendedData payload (channel.asWritev .extrabuf result)
  | .channelio io =>
    .channelio
      { io with
        write := channel.asWritev .writebuf io.write
        errWrite := channel.asWritev .extrabuf io.errWrite }
  | event => event

/-- The event with the results of writing left out. -/
def Event.withoutWrites : Event → Event
  | .recvData payload _ => .recvData payload (.wrote 0)
  | .recvExtendedData payload _ => .recvExtendedData payload (.wrote 0)
  | .channelio io => .channelio { io with write := .wrote 0, errWrite := .wrote 0 }
  | event => event

/-- No write fails for good. -/
def Event.NoneFails : Event → Prop
  | .recvData _ result => result ≠ .failed false
  | .recvExtendedData _ result => result ≠ .failed false
  | .channelio io => io.write ≠ .failed false ∧ io.errWrite ≠ .failed false
  | _ => True

/-- The same options, for a program built with `writev`. -/
def Opts.withWritev (opts : Opts) : Opts := { opts with haveWritev := true }

variable {result : WriteResult}

section

variable {opts : Opts} {inHand : Nat} {waiting : Bytes} {view : View} {into : Into}
  {target : CircBuffer} {channel : Channel} {slot : Slot}

/-- Taking nothing off a buffer leaves it as it is. -/
theorem CircBuffer.Sound.incrread_zero {cbuf : CircBuffer} (sound : cbuf.Sound) :
    cbufIncrread cbuf 0 = .ok cbuf := by
  have readpos := sound.readpos_lt
  have bounded := sound.bounded
  have nonempty := sound.nonempty
  rw [maxCbufSize_eq] at bounded
  rw [cbufIncrread, if_neg (by omega), if_neg (by omega), Nat.add_zero, u32_of_lt (by omega),
    Nat.mod_eq_of_lt readpos]
  rfl

theorem Channel.setCbuf_self (there : channel.cbuf into = some target) :
    channel.setCbuf target into = channel := by
  cases into with
  | writebuf =>
    cases there
    rfl
  | extrabuf =>
    change channel.extrabuf = some target at there
    change { channel with extrabuf := some target } = channel
    rw [← there]

theorem Channel.Fits.asWritev (fits : channel.Fits view) (there : view.cbuf into = some target)
    (result : WriteResult) : channel.asWritev into result = target.asWritev result := by
  rw [Channel.asWritev, fits.cbuf, there]

/-- **Without `writev` a write does what `writev` does when it returns less.** -/
theorem fallback_eq_writev (fits : channel.Fits view) (within : view.Within opts inHand waiting)
    (there : view.cbuf into = some target) (moredata : Option Bytes)
    (passes : result ≠ .failed false) :
    writechannelFallback channel into result =
      writechannelWritev channel into moredata (target.asWritev result) := by
  obtain ⟨sound, _⟩ := within.buffers into target there
  obtain ⟨first, second, read, _⟩ := sound.exists_readptrs
  have isThere : channel.cbuf into = some target := (fits.cbuf into).trans there
  rw [CircBuffer.asWritev, writechannelFallback, writechannelWritev, isThere]
  dsimp only
  rw [read, Except.ok_bind, Except.ok_bind]
  dsimp only
  cases result with
  | failed passing =>
    cases passing with
    | true => exact (ite_self _).symm
    | false => exact absurd rfl passes
  | wrote count =>
    dsimp only [WriteResult.atMost]
    by_cases idle : first.length + second.length = 0 ∧ moredata = none
    · have nothing : first.length = 0 := Nat.eq_zero_of_add_eq_zero_right idle.1
      have small : u32 (channel.recvdonelen + 0) = channel.recvdonelen := by
        have total := within.total
        have bounded := sound.bounded
        have size := (within.buffers into target there).2
        have same := fits.recvdonelen
        rw [maxCbufSize_eq] at bounded
        exact u32_of_lt (by omega)
      rw [if_pos idle, nothing, Nat.min_zero, sound.incrread_zero, Except.ok_bind,
        Channel.setCbuf_self isThere, small]
    · have less : min (min count first.length)
          (first.length + second.length + (moredata.getD []).length) =
          min count first.length := by omega
      have inBuffer : min (first.length + second.length) (min count first.length) =
          min count first.length := by omega
      rw [if_neg idle, less, inBuffer, Nat.sub_self]

/-- The record of the call is the same, too. -/
theorem afterCall_asWritev (noWritev : opts.haveWritev = false) (fits : channel.Fits view)
    (within : view.Within opts inHand waiting) (there : view.cbuf into = some target)
    (moredata : Option Bytes) (passes : result ≠ .failed false) (stream : Stream) :
    stream.afterCall opts channel into moredata result =
      stream.afterCall opts.withWritev channel into moredata (target.asWritev result) := by
  obtain ⟨sound, _⟩ := within.buffers into target there
  obtain ⟨first, second, read, _⟩ := sound.exists_readptrs
  have isThere : channel.cbuf into = some target := (fits.cbuf into).trans there
  have given := handed_eq isThere read opts moredata
  have given' := handed_eq isThere read opts.withWritev moredata
  have same : target.asWritev result = result.atMost first.length := by
    rw [CircBuffer.asWritev, read]
  have recorded : into.recorded stream stream = stream := by cases into <;> rfl
  rw [if_neg (by rw [noWritev]; decide)] at given
  rw [if_pos (show opts.withWritev.haveWritev = true from rfl)] at given'
  rw [Stream.afterCall_eq given, same]
  cases result with
  | failed passing =>
    cases passing with
    | false => exact absurd rfl passes
    | true =>
      rw [Stream.write_passing, recorded, WriteResult.atMost, Stream.afterCall, given']
      split
      · rw [Stream.write_passing, recorded]
      · rfl
  | wrote count =>
    rw [WriteResult.atMost]
    by_cases idle : first ++ second = [] ∧ moredata = none
    · rw [if_pos idle] at given'
      have nothing : stream.write first (.wrote count) = stream := by
        rw [(List.append_eq_nil_iff.1 idle.1).1]
        change ({ stream with written := stream.written ++ List.take count [] } : Stream) = stream
        rw [List.take_nil, List.append_nil]
      rw [nothing, recorded, Stream.afterCall, given']
    · rw [if_neg idle] at given'
      rw [Stream.afterCall_eq given', ← Stream.write_min stream first count]
      congr 1
      change ({ stream with written := _ } : Stream) = { stream with written := _ }
      rw [List.append_assoc, List.take_append_of_le_length (Nat.min_le_right _ _)]

theorem writechannel_asWritev (noWritev : opts.haveWritev = false) (shows : slot.Shows view)
    (within : view.Within opts inHand waiting) (there : view.cbuf into = some target)
    (moredata : Option Bytes) (passes : result ≠ .failed false) :
    writechannel opts into moredata result slot =
      writechannel opts.withWritev into moredata (target.asWritev result) slot := by
  obtain ⟨channel, present, fits⟩ := shows.present
  rw [writechannel, writechannel, theChannel_bind present, theChannel_bind present,
    noteStream_bind, noteStream_bind, afterCall_asWritev noWritev fits within there moredata passes,
    writechannelOnce, writechannelOnce, if_neg (by rw [noWritev]; decide),
    if_pos (show opts.withWritev.haveWritev = true from rfl),
    fallback_eq_writev fits within there moredata passes]
  rfl

theorem fromResult_bind_congr {α β : Type} {computed : Except Exit α} {next next' : α → ChanM β}
    (alike : ∀ value, computed = .ok value → next value slot = next' value slot) :
    (fromResult computed >>= next) slot = (fromResult computed >>= next') slot := by
  cases computed with
  | ok value => exact alike value rfl
  | error failure => rfl

theorem acceptData_asWritev (noWritev : opts.haveWritev = false) {datalen : Nat}
    (shows : slot.Shows (view.arrive datalen)) (within : view.Within opts 0 [])
    (there : view.cbuf into = some target) (payload : Buffer) (passes : result ≠ .failed false) :
    acceptData opts into payload datalen result slot =
      acceptData opts.withWritev into payload datalen (target.asWritev result) slot := by
  have taken : Ends (fun _ after => after.Shows (view.take datalen) ∧
      (view.take datalen).Within opts datalen []) (Kept opts False) (takeWindow opts datalen slot) :=
    ends_takeWindow shows within nofun
  apply taken.bind_congr
  rintro _ after ⟨shows, within⟩
  apply fromResult_bind_congr
  intro ptr _
  apply fromResult_bind_congr
  intro bytes _
  rw [noteStream_bind, noteStream_bind]
  have there' : ((view.take datalen).record bytes into).cbuf into = some target := by
    cases into <;> exact there
  have wrote := writechannel_asWritev noWritev (shows.record bytes into) (within.record bytes into)
    there' (some bytes) passes
  exact EStateM.bind_congr_first wrote _

theorem commonRecv_asWritev (noWritev : opts.haveWritev = false) (shows : slot.Shows view)
    (within : view.Within opts 0 []) (present : slot.channel = some channel) (into : Into)
    (payload : Buffer) (passes : result ≠ .failed false) :
    commonRecvMsgChannelData opts into payload result slot =
      commonRecvMsgChannelData opts.withWritev into payload (channel.asWritev into result)
        slot := by
  obtain ⟨other, found, fits⟩ := shows.present
  cases found.symm.trans present
  rw [commonRecvMsgChannelData, commonRecvMsgChannelData, theChannel_bind present,
    theChannel_bind present]
  split
  · rfl
  · cases descriptor : channel.fdInto into with
    | uninit => rfl
    | closed => rfl
    | fd number =>
      cases isThere : channel.cbuf into with
      | none => rfl
      | some cbuf =>
        have there : view.cbuf into = some cbuf := (fits.cbuf into).symm.trans isThere
        apply fromResult_bind_congr
        rintro ⟨datalen, behind⟩ _
        dsimp only
        rw [EStateM.bind_of_ok (show countArrived datalen slot = .ok () _ from rfl),
          EStateM.bind_of_ok (show countArrived datalen slot = .ok () _ from rfl),
          fits.asWritev there]
        split
        · rfl
        · exact acceptData_asWritev noWritev (shows.arrive datalen) within there behind passes

theorem whenReady_congr (present : slot.channel = some channel) {there : Channel → Bool}
    (ready : Bool) {act act' : ChanM Unit} (alike : there channel → act slot = act' slot) :
    whenReady there ready act slot = whenReady there ready act' slot := by
  rw [whenReady, whenReady, theChannel_bind present, theChannel_bind present]
  split
  case _ isReady => exact EStateM.bind_congr_first (alike isReady.1) _
  case _ => rfl

/-- Reading leaves the buffers. -/
theorem ends_readReady (shows : slot.Shows view) (within : view.Within opts 0 [])
    (there : Channel → Bool) (ready isextended : Bool) (result : ReadResult) (lastChar : UInt8) :
    Ends (fun _ after => ∃ view', after.Shows view' ∧ view'.Within opts 0 [] ∧
        view'.writebuf = view.writebuf ∧ view'.extrabuf = view.extrabuf)
      (fun failure after => after.Shows view ∧ ¬ WindowFailure failure)
      (whenReady there ready (sendMsgChannelData isextended result lastChar) slot) := by
  obtain ⟨channel, present, fits⟩ := shows.present
  rw [whenReady, theChannel_bind present]
  split
  · have leads := sendMsgChannelData_leads within.transmit isextended result lastChar
    refine Ends.andReturn true ((leads slot shows).mono ?_)
    rintro _ after ⟨transmit, sound, shows'⟩
    exact ⟨_, shows', { within with transmit := sound }, rfl, rfl⟩
  · exact ⟨view, shows, within, rfl, rfl⟩

/-- Writing what is in one buffer leaves the other. -/
theorem ends_writeReady (shows : slot.Shows view) (within : view.Within opts 0 [])
    (ready : Bool) (result : WriteResult) :
    Ends (fun _ after => ∃ view', after.Shows view' ∧ view'.Within opts 0 [] ∧
        view'.extrabuf = view.extrabuf)
      (fun _ _ => False)
      (whenReady (·.writefd.isOpen) ready
        (do let _ ← writechannel opts .writebuf none result; pure ()) slot) := by
  obtain ⟨channel, present, fits⟩ := shows.present
  rw [whenReady, theChannel_bind present]
  split
  case _ isReady =>
    have running : view.connPending = false := by
      cases descriptor : channel.writefd with
      | fd number => exact fits.running (show channel.fdInto .writebuf = .fd number from descriptor)
      | _ =>
        rw [descriptor] at isReady
        cases isReady.1
    have nothing : view.Within opts 0 (Into.writebuf.waiting ((none : Option Bytes).getD [])) :=
      within
    have wrote := ends_writechannel shows nothing running rfl (Nat.le_refl _) result
    refine Ends.andReturn true (wrote.bind ?_)
    rintro _ after ⟨_, view', shows', within', _, others, _⟩
    have within' : view'.Within opts 0 [] := by
      have dropped := within'.mono (Nat.zero_le _)
      rwa [Into.waiting, Option.getD_none, List.drop_nil] at dropped
    exact ⟨view', shows', within', others .extrabuf (fun same => by cases same)⟩
  case _ => exact ⟨view, shows, within, rfl⟩

theorem channelio_asWritev (noWritev : opts.haveWritev = false) (shows : slot.Shows view)
    (within : view.Within opts 0 []) (present : slot.channel = some channel) {io : IoResults}
    (passes : io.write ≠ .failed false ∧ io.errWrite ≠ .failed false) :
    channelio opts io slot =
      channelio opts.withWritev
        { io with
          write := channel.asWritev .writebuf io.write
          errWrite := channel.asWritev .extrabuf io.errWrite } slot := by
  obtain ⟨other, found, fits⟩ := shows.present
  cases found.symm.trans present
  rw [channelio, channelio]
  dsimp only
  rw [fits.asWritev (show view.cbuf .writebuf = some view.writebuf from rfl)]
  -- the channel is served for reading first, which leaves the buffers alone
  apply (ends_readReady shows within _ io.readReady false io.read io.lastChar).bind_congr
  rintro sentData slot ⟨middle, shows, within, writebuf, extrabuf⟩
  apply (ends_readReady shows within _ io.errReadReady true io.errRead io.errLastChar).bind_congr
  rintro sentErr slot ⟨view', shows, within, writebuf', extrabuf'⟩
  rw [← writebuf, ← writebuf']
  obtain ⟨served, present', fits'⟩ := shows.present
  have writes : ∀ next : Bool → ChanM Unit,
      (whenReady (·.writefd.isOpen) io.writeReady
          (do let _ ← writechannel opts .writebuf none io.write; pure ()) >>= next) slot =
        (whenReady (·.writefd.isOpen) io.writeReady
          (do
            let _ ← writechannel opts.withWritev .writebuf none (view'.writebuf.asWritev io.write)
            pure ()) >>= next) slot := by
    intro next
    apply EStateM.bind_congr_first
    apply whenReady_congr present'
    intro _
    apply EStateM.bind_congr_first
    exact writechannel_asWritev noWritev shows within rfl none passes.1
  rw [← writes]
  apply (ends_writeReady shows within io.writeReady io.write).bind_congr
  rintro wrote slot ⟨final, shows', within', extrabuf''⟩
  obtain ⟨written, present'', fits''⟩ := shows'.present
  apply EStateM.bind_congr_first
  apply whenReady_congr present''
  intro isThere
  rw [Bool.and_eq_true, Channel.errfdIsRead, fits''.extrabuf] at isThere
  cases there : final.extrabuf with
  | none =>
    rw [there] at isThere
    cases isThere.1
  | some cbuf =>
    have same : view.extrabuf = some cbuf := by
      rw [← extrabuf, ← extrabuf', ← extrabuf'', there]
    rw [fits.asWritev (show view.cbuf .extrabuf = some cbuf from same)]
    apply EStateM.bind_congr_first
    exact writechannel_asWritev noWritev shows'
      within' (show final.cbuf .extrabuf = some cbuf from there) none passes.2

end

/-! ## Events -/

/-- The same event, with the results `writev` would have to return at this point. -/
def Event.retimed (event : Event) (slot : Slot) : Event :=
  match slot.channel with
  | some channel => event.asWritev channel
  | none => event

theorem Event.withoutWrites_retimed (event : Event) (slot : Slot) :
    (event.retimed slot).withoutWrites = event.withoutWrites := by
  rw [Event.retimed]
  cases slot.channel with
  | none => rfl
  | some channel => cases event <;> rfl

section

variable {opts : Opts} {slot : Slot}

theorem getchannelMsg_congr {kind : String} {next next' : Channel → ChanM Unit}
    (alike : ∀ channel, slot.channel = some channel → next channel slot = next' channel slot) :
    (getchannelMsg kind >>= next) slot = (getchannelMsg kind >>= next') slot := by
  have found : Ends (fun channel after => after = slot ∧ slot.channel = some channel)
      (fun _ _ => True) (getchannelMsg kind slot) := by
    rw [← bind_pure (getchannelMsg kind)]
    apply ends_getchannelMsg
    · exact fun _ => trivial
    · exact fun channel present => ⟨rfl, present⟩
  apply found.bind_congr
  rintro channel _ ⟨rfl, present⟩
  exact alike channel present

theorem extendedData_congr (index : Nat) (payload : Buffer) {result' : WriteResult}
    (alike : ∀ channel, slot.channel = some channel →
      recvMsgChannelExtendedData opts payload result channel slot =
        recvMsgChannelExtendedData opts.withWritev payload result' channel slot) :
    step opts index (.recvExtendedData payload result) slot =
      step opts.withWritev index (.recvExtendedData payload result') slot := by
  have same : opts.withWritev.isServer = opts.isServer := rfl
  rw [step, step, same]
  split
  · rfl
  · exact getchannelMsg_congr alike

/-- Without a channel nothing is written. -/
theorem step_of_none (missing : slot.channel = none) (index : Nat) (event : Event) :
    step opts index event slot = step opts.withWritev index event slot := by
  have never : ∀ channel, slot.channel ≠ some channel := by
    intro channel found
    rw [missing] at found
    cases found
  cases event with
  | recvData payload result =>
    apply getchannelMsg_congr
    intro channel found
    exact absurd found (never channel)
  | recvExtendedData payload result =>
    apply extendedData_congr
    intro channel found
    exact absurd found (never channel)
  | channelio io => rw [step, onChannel_of_absent missing, step, onChannel_of_absent missing]
  | _ => rfl

/-- **Every event goes as with `writev`, with less written at a time.** -/
theorem step_asWritev (noWritev : opts.haveWritev = false) (index : Nat) {event : Event}
    (noneFails : event.NoneFails) (bounded : slot.Bounded opts) {channel : Channel}
    (present : slot.channel = some channel) :
    step opts index event slot = step opts.withWritev index (event.asWritev channel) slot := by
  obtain ⟨view, fits, shows, within⟩ := bounded.exists_view present
  cases event with
  | recvData payload result =>
    apply getchannelMsg_congr
    intro _ _
    exact commonRecv_asWritev noWritev shows within present .writebuf payload noneFails
  | recvExtendedData payload result =>
    apply extendedData_congr
    intro other found
    cases found.symm.trans present
    rw [recvMsgChannelExtendedData, recvMsgChannelExtendedData]
    split
    · rfl
    · apply fromResult_bind_congr
      rintro ⟨datatype, payload'⟩ _
      dsimp only
      split
      · rfl
      · exact commonRecv_asWritev noWritev shows within present .extrabuf payload' noneFails
  | channelio io =>
    rw [step, onChannel_of_present present, Event.asWritev, step, onChannel_of_present present]
    exact channelio_asWritev noWritev shows within present noneFails
  | _ => rfl

theorem step_retimed (noWritev : opts.haveWritev = false) (index : Nat) {event : Event}
    (noneFails : event.NoneFails) (bounded : slot.Bounded opts) :
    step opts index event slot = step opts.withWritev index (event.retimed slot) slot := by
  rw [Event.retimed]
  cases present : slot.channel with
  | none => exact step_of_none present index event
  | some channel => exact step_asWritev noWritev index noneFails bounded present

/-- A run without failing writes goes as a run with `writev` in which other amounts are
written. -/
theorem runAll_retimed (accepted : opts.Accepted) (noWritev : opts.haveWritev = false) (index : Nat)
    {events : List Event} (noneFails : ∀ event ∈ events, event.NoneFails)
    (bounded : slot.Bounded opts) :
    ∃ events', events'.map Event.withoutWrites = events.map Event.withoutWrites ∧
      runAll (step opts index) events slot = runAll (step opts.withWritev index) events' slot := by
  induction events generalizing slot with
  | nil => exact ⟨[], rfl, by rw [runAll, runAll]⟩
  | cons event rest ih =>
    have same := step_retimed noWritev index (noneFails event List.mem_cons_self) bounded
    have ends := ends_step accepted index event slot bounded
    have erased := event.withoutWrites_retimed slot
    cases ran : step opts index event slot with
    | error failure after =>
      refine ⟨event.retimed slot :: rest, ?_, ?_⟩
      · rw [List.map_cons, List.map_cons, erased]
      · rw [runAll_cons_of_error ran, runAll_cons_of_error (same.symm.trans ran)]
    | ok value after =>
      rw [ran] at ends
      obtain ⟨rest', erased', ran'⟩ :=
        ih (fun event listed => noneFails event (List.mem_cons_of_mem _ listed)) ends
      refine ⟨event.retimed slot :: rest', ?_, ?_⟩
      · rw [List.map_cons, List.map_cons, erased, erased']
      · rw [runAll_cons_of_ok ran, runAll_cons_of_ok (same.symm.trans ran), ran']

end

/-! ## What is taken -/

/-- The data of a message, from its length on. -/
def packetData (payload : Buffer) : Bytes :=
  match bufGetint payload with
  | .ok (datalen, behind) => behind.rest.take datalen
  | .error _ => []

/-- The computation takes no data from a message. -/
def TakesNothing {α : Type} (run : ChanM α) : Prop :=
  ∀ slot, Ends (fun _ after => after.stream.taken = slot.stream.taken) (fun _ _ => True) (run slot)

namespace TakesNothing

variable {α β : Type}

theorem pure (value : α) : TakesNothing (Pure.pure value : ChanM α) := fun _ => rfl

theorem throw (failure : Exit) : TakesNothing (MonadExcept.throw failure : ChanM α) :=
  fun _ => trivial

theorem bind {first : ChanM α} {next : α → ChanM β} (start : TakesNothing first)
    (rest : ∀ value, TakesNothing (next value)) : TakesNothing (first >>= next) := by
  intro slot
  apply (start slot).bind
  intro value middle same
  rw [← same]
  exact rest value middle

theorem setChannel (channel : Channel) : TakesNothing (setChannel channel) := fun _ => rfl

theorem send (message : Message) : TakesNothing (send message) := fun _ => rfl

theorem fromResult (computed : Except Exit α) : TakesNothing (fromResult computed) := by
  cases computed with
  | ok value => exact pure value
  | error failure => exact throw failure

theorem theChannel : TakesNothing theChannel := by
  intro slot
  cases present : slot.channel with
  | none =>
    rw [Channels.theChannel, EStateM.get_bind_apply, present]
    trivial
  | some channel =>
    rw [← bind_pure Channels.theChannel, theChannel_bind present]
    rfl

theorem noteCall (opts : Opts) (channel : Channel) (into : Into) (moredata : Option Bytes)
    (result : WriteResult) :
    TakesNothing (noteStream fun stream => stream.afterCall opts channel into moredata result) := by
  intro slot
  change (slot.stream.afterCall opts channel into moredata result).taken = slot.stream.taken
  rw [Stream.afterCall]
  split
  · cases into with
    | writebuf => cases result <;> rfl
    | extrabuf => rfl
  · rfl

theorem extendWindow (opts : Opts) : TakesNothing (extendWindow opts) := by
  apply theChannel.bind
  intro channel
  split
  · exact (send _).bind fun _ => setChannel _
  · exact pure _

theorem writechannel (opts : Opts) (into : Into) (moredata : Option Bytes) (result : WriteResult) :
    TakesNothing (writechannel opts into moredata result) := by
  apply theChannel.bind
  intro channel
  apply (noteCall opts channel into moredata result).bind
  intro _
  apply (fromResult _).bind
  rintro ⟨channel', good, consumed⟩
  apply (setChannel channel').bind
  intro _
  apply (extendWindow opts).bind
  intro _
  apply theChannel.bind
  intro channel
  exact (fromResult _).bind fun _ => pure _

theorem storeRest (into : Into) (payload : Buffer) (good : Bool) (len : Nat) :
    TakesNothing (storeRest into payload good len) := by
  rw [Channels.storeRest]
  split
  · apply theChannel.bind
    intro channel
    split
    · exact throw _
    · exact (fromResult _).bind fun _ => setChannel _
  · exact pure _

theorem takeWindow (opts : Opts) (datalen : Nat) : TakesNothing (takeWindow opts datalen) := by
  apply theChannel.bind
  intro channel
  split
  · exact throw _
  · apply (setChannel _).bind
    intro _
    split
    · exact throw _
    · exact pure _

end TakesNothing

section

variable {opts : Opts} {slot : Slot} {payload : Buffer}

theorem taken_acceptData (datalen : Nat) (result : WriteResult) :
    Ends (fun _ after => after.stream.taken = slot.stream.taken ++ payload.rest.take datalen)
      (fun _ _ => True) (acceptData opts .writebuf payload datalen result slot) := by
  apply (TakesNothing.takeWindow opts datalen slot).bind
  intro _ middle same
  apply ends_fromResult (fun _ _ => trivial)
  intro ptr pointed
  apply ends_fromResult (fun _ _ => trivial)
  intro bytes peeked
  obtain ⟨isPrefix, length, _⟩ := prefix_of_bufGetptr_peek pointed peeked
  have bytesEq : bytes = payload.rest.take datalen := by
    rw [← length]
    exact List.prefix_iff_eq_take.1 isPrefix
  rw [noteStream_bind, ← bytesEq]
  apply ((TakesNothing.writechannel _ _ _ _).bind ?_ _).mono
  · intro _ final kept
    exact kept.trans (congrArg (· ++ bytes) same)
  · rintro ⟨good, consumed⟩
    exact (TakesNothing.fromResult _).bind fun _ => TakesNothing.storeRest _ _ _ _

theorem taken_dropData :
    Ends (fun _ after => after.stream.taken = slot.stream.taken ++ []) (fun _ _ => True)
      (dropData payload slot) := by
  rw [dropData, List.append_nil]
  cases bufGetint payload <;> rfl

/-- **A message is taken whole if the write descriptor is open, and dropped if it is
not.** -/
theorem taken_of_recvData {index : Nat} {after : Slot} {channel : Channel}
    (present : slot.channel = some channel)
    (ran : step opts index (.recvData payload result) slot = .ok () after) :
    after.stream.taken =
      slot.stream.taken ++ if channel.writefd.isOpen then packetData payload else [] := by
  have ends : Ends (fun _ after => after.stream.taken =
      slot.stream.taken ++ if channel.writefd.isOpen then packetData payload else [])
      (fun _ _ => True) (step opts index (.recvData payload result) slot) := by
    apply ends_getchannelMsg (fun _ => trivial)
    intro other found
    cases found.symm.trans present
    rw [commonRecvMsgChannelData, theChannel_bind present]
    by_cases eof : channel.recvEof
    · rw [if_pos eof]
      trivial
    · rw [if_neg eof]
      rw [Channel.fdInto]
      cases channel.writefd with
      | uninit => exact taken_dropData
      | closed => exact taken_dropData
      | fd number =>
        apply ends_fromResult (fun _ _ => trivial)
        rintro ⟨datalen, behind⟩ read
        have data : packetData payload = behind.rest.take datalen := by rw [packetData, read]
        rw [if_pos (show (Fd.fd number).isOpen = true from rfl), data]
        dsimp only
        rw [EStateM.bind_of_ok (show countArrived datalen slot = .ok () _ from rfl)]
        split
        · trivial
        · exact taken_acceptData datalen result
  rw [ran] at ends
  exact ends

end

/-! ## Runs -/

theorem complete_runAll {opts : Opts} (accepted : opts.Accepted) (index : Nat)
    (events : List Event) {slot : Slot}
    (reached : slot = finalState (runAll (step opts index) events .free)) {channel : Channel}
    (present : slot.channel = some channel) (unbroken : slot.stream.broken = false) :
    slot.stream.written ++ channel.writebuf.contents = slot.stream.taken := by
  have bounded : slot.Bounded opts := reached ▸ bounded_runAll accepted index events
  obtain ⟨view, fits, shows, within⟩ := bounded.exists_view present
  have complete := within.complete (shows.stream ▸ unbroken)
  rwa [List.append_nil, ← fits.writebuf, ← shows.stream] at complete

/-- **Nothing is lost or duplicated on the way to the write descriptor.**  However the
program was built, whatever the peer sends and whatever the writes come to: as long as
no write has failed, what has been written and what is buffered is what was taken from
the messages; and a message is taken exactly if the descriptor is open.  So two
programs that have taken the same differ only in how much is still buffered.  A run of
a program built without `writev` is a run of one built with it, in which the writes come
to something else. -/
theorem inboundStream (opts : Opts) (arguments : List (Option Nat × Nat)) (index : Nat)
    (events : List Event) :
    let opts := { opts with recvWindow := recvWindowOf arguments }
    let slot := finalState (runAll (step opts index) events .free)
    (∀ channel, slot.channel = some channel →
      (slot.stream.broken = false →
        slot.stream.written ++ channel.writebuf.contents = slot.stream.taken) ∧
      ∀ payload result after, step opts index (.recvData payload result) slot = .ok () after →
        after.stream.taken =
          slot.stream.taken ++ if channel.writefd.isOpen then packetData payload else []) ∧
    (∀ haveWritev events',
      let slot' := finalState
        (runAll (step { opts with haveWritev := haveWritev } index) events' .free)
      ∀ channel channel', slot.channel = some channel → slot'.channel = some channel' →
        slot.stream.broken = false → slot'.stream.broken = false →
        slot.stream.taken = slot'.stream.taken →
        slot.stream.written ++ channel.writebuf.contents =
          slot'.stream.written ++ channel'.writebuf.contents) ∧
    (opts.haveWritev = false → (∀ event ∈ events, event.NoneFails) →
      ∃ events', events'.map Event.withoutWrites = events.map Event.withoutWrites ∧
        runAll (step opts index) events .free =
          runAll (step { opts with haveWritev := true } index) events' .free) := by
  intro opts slot
  have accepted : opts.Accepted := recvWindowOf_accepted arguments
  refine ⟨?_, ?_, ?_⟩
  · intro channel present
    constructor
    · intro unbroken
      exact complete_runAll accepted index events rfl present unbroken
    · intro payload result after ran
      exact taken_of_recvData present ran
  · intro haveWritev events' slot' channel channel' present present' unbroken unbroken' same
    have accepted' : Opts.Accepted { opts with haveWritev := haveWritev } := accepted
    rw [complete_runAll accepted index events rfl present unbroken,
      complete_runAll accepted' index events' rfl present' unbroken', same]
  · intro noWritev noneFails
    exact runAll_retimed accepted noWritev index noneFails (.inl ⟨rfl, settled_nil rfl⟩)

/-- The data of a message for the write descriptor. -/
def Event.data : Event → Bytes
  | .recvData payload _ => packetData payload
  | _ => []

/-- One byte of data. -/
def dataPacket : Buffer := .ofBytes (wireString (ascii "x")) (by decide)

/-- **Data for a session whose command has not been started is lost**, without a write. -/
theorem data_before_command :
    let events := [sessionOpen, .recvData dataPacket (.wrote 1)]
    let slot := finalState (runAll (step plainServer 0) events .free)
    failureOf (runAll (step plainServer 0) events .free) = none ∧ slot.stream.broken = false ∧
      events.flatMap Event.data = ascii "x" ∧
      slot.channel.map (slot.stream.written ++ ·.writebuf.contents) = some [] := by
  decide +kernel

end Dropbear.Channels
