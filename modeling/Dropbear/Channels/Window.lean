/-
# The receive window

The bytes the peer may still send, those that have been written but not credited,
and those in the two buffers never add up to more than the window of the options.
So whatever the peer may send fits.

Between the arrival of data and its storage some bytes are in hand.  They count as
well.

Nothing is lost on the way: what was written, what is buffered and what is in hand is,
in this order, what was taken from the peer's messages.
-/

import Dropbear.Buffer.Consume
import Dropbear.Channels.Frame

namespace Dropbear.Channels

open Program

def maxRecvWindow : Nat := 10 * 1024 * 1024
def defaultRecvWindow : Nat := 24576

/-- The window after an argument.  `parsed` is the result of `m_str_to_uint`, and
`leftover` the content of its target where there is none. -/
def parseRecvWindow (current : Nat) (parsed : Option Nat) (leftover : Nat) : Nat :=
  let rw := parsed.getD leftover
  if parsed = none ∨ rw = 0 ∨ rw > maxRecvWindow then
    if rw > maxRecvWindow then maxRecvWindow else current
  else rw

/-- The window after all arguments. -/
def recvWindowOf (arguments : List (Option Nat × Nat)) : Nat :=
  arguments.foldl (fun current argument => parseRecvWindow current argument.1 argument.2)
    defaultRecvWindow

/-- The windows that are accepted. -/
def Opts.Accepted (opts : Opts) : Prop := 0 < opts.recvWindow ∧ opts.recvWindow ≤ maxRecvWindow

theorem recvWindowOf_accepted (arguments : List (Option Nat × Nat)) :
    0 < recvWindowOf arguments ∧ recvWindowOf arguments ≤ maxRecvWindow := by
  have each : ∀ current, 0 < current ∧ current ≤ maxRecvWindow → ∀ parsed leftover,
      0 < parseRecvWindow current parsed leftover ∧
        parseRecvWindow current parsed leftover ≤ maxRecvWindow := by
    intro current accepted parsed leftover
    rw [parseRecvWindow]
    split
    · split
      · exact ⟨by decide, Nat.le_refl _⟩
      · exact accepted
    · omega
  have all : ∀ current, 0 < current ∧ current ≤ maxRecvWindow →
      0 < arguments.foldl (fun current argument => parseRecvWindow current argument.1 argument.2)
        current ∧
      arguments.foldl (fun current argument => parseRecvWindow current argument.1 argument.2)
        current ≤ maxRecvWindow := by
    induction arguments with
    | nil => exact fun _ accepted => accepted
    | cons argument rest ih => exact fun current accepted => ih _ (each current accepted _ _)
  exact all defaultRecvWindow ⟨by decide, by decide⟩

/-! ## The invariant -/

/-- The types whose connections are deferred. -/
def deferredTypes : List ChanType := [.svrChanTcpdirect, .svrChanStreamlocal, .cliChanTcpremote]

namespace View

def buffered (view : View) : Nat := view.writebuf.used + (view.extrabuf.elim 0 CircBuffer.used)

def cbuf (view : View) : Into → Option CircBuffer
  | .writebuf => some view.writebuf
  | .extrabuf => view.extrabuf

def setCbuf (view : View) (cbuf : CircBuffer) : Into → View
  | .writebuf => { view with writebuf := cbuf }
  | .extrabuf => { view with extrabuf := some cbuf }

/-- All that is granted fits, with `inHand` bytes still to be stored, and the data for
the write descriptor is complete, with `waiting` still to be stored. -/
structure Within (opts : Opts) (inHand : Nat) (waiting : Bytes) (view : View) : Prop where
  buffers : ∀ into cbuf, view.cbuf into = some cbuf → cbuf.Sound ∧ cbuf.size = opts.recvWindow
  total : view.recvwindow + view.recvdonelen + view.buffered + inHand ≤ opts.recvWindow
  granted : view.granted ≤ view.recvwindow + view.arrived
  pending : view.connPending → view.granted = 0
  deferred : view.connPending → view.type ∈ deferredTypes
  transmit : view.transmit.Sound
  complete : view.stream.broken = false →
    view.stream.written ++ (view.writebuf.contents ++ waiting) = view.stream.taken

variable {opts : Opts} {inHand : Nat} {waiting : Bytes} {view : View}

variable {cbuf : CircBuffer}

theorem used_le_buffered {into : Into} (there : view.cbuf into = some cbuf) :
    cbuf.used ≤ view.buffered := by
  cases into with
  | writebuf =>
    cases there
    exact Nat.le_add_right _ _
  | extrabuf =>
    change view.extrabuf = some cbuf at there
    rw [buffered, there]
    exact Nat.le_add_left _ _

theorem buffered_setCbuf {into : Into} (there : view.cbuf into = some cbuf) (cbuf' : CircBuffer) :
    (view.setCbuf cbuf' into).buffered + cbuf.used = view.buffered + cbuf'.used := by
  cases into with
  | writebuf =>
    cases there
    change cbuf'.used + view.extrabuf.elim 0 CircBuffer.used + view.writebuf.used =
      view.writebuf.used + view.extrabuf.elim 0 CircBuffer.used + cbuf'.used
    omega
  | extrabuf =>
    change view.extrabuf = some cbuf at there
    rw [buffered, buffered, there]
    change view.writebuf.used + cbuf'.used + cbuf.used = view.writebuf.used + cbuf.used + _
    omega

theorem cbuf_setCbuf {into other : Into} {cbuf found : CircBuffer}
    (isThere : (view.setCbuf cbuf into).cbuf other = some found) :
    found = cbuf ∨ view.cbuf other = some found := by
  cases into <;> cases other
  · cases isThere
    exact .inl rfl
  · exact .inr isThere
  · exact .inr isThere
  · cases isThere
    exact .inl rfl

namespace Within

theorem mono {fewer : Nat} (within : view.Within opts inHand waiting) (le : fewer ≤ inHand) :
    view.Within opts fewer waiting :=
  { within with total := Nat.le_trans (Nat.add_le_add_left le _) within.total }

theorem notPending (within : view.Within opts inHand waiting) (other : view.type ∉ deferredTypes) :
    view.connPending = false := by
  cases pending : view.connPending with
  | false => rfl
  | true => exact absurd (within.deferred pending) other

/-- The peer's window is free in both buffers. -/
theorem recvwindow_le_getavail (within : view.Within opts inHand waiting) (into : Into)
    (there : view.cbuf into = some cbuf) :
    view.recvwindow + inHand ≤ cbufGetavail cbuf := by
  obtain ⟨sound, size⟩ := within.buffers into cbuf there
  have used := used_le_buffered there
  have total := within.total
  rw [sound.getavail_eq]
  omega

/-- A buffer may take bytes in hand, or give some up to be credited. -/
theorem refill (within : view.Within opts inHand waiting) {into : Into}
    {cbuf cbuf' : CircBuffer} (there : view.cbuf into = some cbuf) (sound : cbuf'.Sound)
    (size : cbuf'.size = cbuf.size) {recvdonelen inHand' : Nat} {stream : Stream} {waiting' : Bytes}
    (balance : recvdonelen + cbuf'.used + inHand' ≤ view.recvdonelen + cbuf.used + inHand)
    (complete : stream.broken = false → stream.written ++
      ((view.setCbuf cbuf' into).writebuf.contents ++ waiting') = stream.taken) :
    ({ view.setCbuf cbuf' into with
      recvdonelen := recvdonelen
      stream := stream } : View).Within opts inHand' waiting' := by
  have swapped := buffered_setCbuf there cbuf'
  have total := within.total
  refine ⟨?_, ?_, ?_, ?_, ?_, ?_, complete⟩
  · intro other found isThere
    rcases cbuf_setCbuf isThere with rfl | isThere
    · exact ⟨sound, size.trans (within.buffers into cbuf there).2⟩
    · exact within.buffers other found isThere
  · have same : (view.setCbuf cbuf' into).recvwindow = view.recvwindow := by cases into <;> rfl
    change (view.setCbuf cbuf' into).recvwindow + recvdonelen +
      (view.setCbuf cbuf' into).buffered + inHand' ≤ opts.recvWindow
    omega
  · cases into <;> exact within.granted
  · cases into <;> exact within.pending
  · cases into <;> exact within.deferred
  · cases into <;> exact within.transmit

/-- Once a write has failed nothing is said about the data. -/
theorem breaks (within : view.Within opts inHand waiting) {stream : Stream}
    (broken : stream.broken = true) (waiting' : Bytes) :
    ({ view with stream := stream } : View).Within opts inHand waiting' :=
  { within with
    complete := by
      intro unbroken
      exact absurd (broken.symm.trans unbroken) (by decide) }

end Within

end View

/-! ## Writing to the local side -/

/-- The part of the bytes in hand that is for the write descriptor. -/
def Into.waiting : Into → Bytes → Bytes
  | .writebuf, bytes => bytes
  | .extrabuf, _ => []

variable {channel : Channel} {moredata : Option Bytes} {bytes : Bytes} {slot : Slot}

section

variable {opts : Opts} {inHand : Nat} {waiting : Bytes} {view : View} {into : Into}
  {target : CircBuffer}

theorem Channel.Fits.cbuf (fits : channel.Fits view) (into : Into) :
    channel.cbuf into = view.cbuf into := by
  cases into with
  | writebuf => exact congrArg some fits.writebuf
  | extrabuf => exact fits.extrabuf

theorem Channel.Fits.setCbuf (fits : channel.Fits view) (cbuf : CircBuffer) (into : Into) :
    (channel.setCbuf cbuf into).Fits (view.setCbuf cbuf into) := by
  cases into with
  | writebuf => exact { fits with writebuf := rfl }
  | extrabuf => exact { fits with extrabuf := rfl }

/-- Neither the notes about the data nor what is to be credited is a matter of the
descriptors. -/
theorem Channel.Fits.credit (fits : channel.Fits view) (len : Nat) (stream : Stream) :
    ({ channel with recvdonelen := len } : Channel).Fits
      { view with recvdonelen := len, stream := stream } :=
  { fits with recvdonelen := rfl }

/-- The two views differ only in what is buffered and what is to be credited. -/
structure View.SameBut (view view' : View) : Prop where
  recvwindow : view'.recvwindow = view.recvwindow
  connPending : view'.connPending = view.connPending
  arrived : view'.arrived = view.arrived
  granted : view'.granted = view.granted
  transmit : view'.transmit = view.transmit

/-- The channel, and what is in hand, after a write.  A failed write is recorded. -/
structure Wrote (opts : Opts) (into : Into) (inHand : Nat) (moredata : Bytes) (view : View)
    (stream : Stream) (channel : Channel) (good : Bool) (consumed : Nat) (view' : View) : Prop where
  consumed_le : consumed ≤ moredata.length
  fits : channel.Fits view'
  within : view'.Within opts (inHand - consumed) (into.waiting (moredata.drop consumed))
  sameBut : view.SameBut view'
  there : (view'.cbuf into).isSome
  others : ∀ other, other ≠ into → view'.cbuf other = view.cbuf other
  stream_eq : view'.stream = stream
  broken : good = false → into = .writebuf → stream.broken = true

/-- Nothing is written. -/
theorem Wrote.nothing (fits : channel.Fits view) {moredata : Bytes}
    (within : view.Within opts inHand (into.waiting moredata))
    (there : view.cbuf into = some target) :
    Wrote opts into inHand moredata view view.stream channel true 0 view :=
  ⟨Nat.zero_le _, fits, within, ⟨rfl, rfl, rfl, rfl, rfl⟩, congrArg Option.isSome there,
    fun _ _ => rfl, rfl, nofun⟩

/-- The descriptor is closed. -/
theorem Wrote.failed (fits : channel.Fits view) {moredata : Bytes}
    (within : view.Within opts inHand (into.waiting moredata))
    (there : view.cbuf into = some target) {stream : Stream}
    (noted : stream.broken = true ∨ into = .extrabuf ∧ stream = view.stream) :
    Wrote opts into inHand moredata view stream
      (closeChanFd channel (channel.fdInto into) .shutWr) false 0 { view with stream := stream } where
  consumed_le := Nat.zero_le _
  fits := { fits.closes (.closeChanFd channel _ _) with }
  within := by
    rcases noted with broken | ⟨rfl, rfl⟩
    · exact within.breaks broken _
    · exact within
  sameBut := ⟨rfl, rfl, rfl, rfl, rfl⟩
  there := by
    cases into <;> exact congrArg Option.isSome there
  others other _ := by cases other <;> rfl
  stream_eq := rfl
  broken _ isWritebuf := by
    rcases noted with broken | ⟨other, _⟩
    · exact broken
    · rw [isWritebuf] at other
      cases other

/-- **What has been written is taken from the buffer and then from the bytes in hand,
and waits to be credited.** -/
theorem exists_wrote (fits : channel.Fits view) {moredata : Bytes}
    (within : view.Within opts inHand (into.waiting moredata))
    (there : view.cbuf into = some target) (more : moredata.length ≤ inHand) {written : Nat}
    (le : written ≤ target.used + moredata.length) :
    ∃ cbuf, cbufIncrread target (min target.used written) = .ok cbuf ∧
      ∃ view', Wrote opts into inHand moredata view
        (into.recorded (view.stream.write (target.contents ++ moredata) (.wrote written))
          view.stream)
        { channel.setCbuf cbuf into with
          recvdonelen := u32 ((channel.setCbuf cbuf into).recvdonelen + written) }
        true (written - min target.used written) view' := by
  obtain ⟨sound, size⟩ := within.buffers into target there
  generalize taken : min target.used written = cbufWritten
  have enough : cbufWritten ≤ target.used := by omega
  obtain ⟨cbuf, incrread, sound', size', used', contents'⟩ := sound.exists_incrread enough
  have total := within.total
  have buffered := View.used_le_buffered there
  have bounded := sound.bounded
  rw [maxCbufSize_eq] at bounded
  have kept : (channel.setCbuf cbuf into).recvdonelen = view.recvdonelen := by
    cases into <;> exact fits.recvdonelen
  have fitsWord : u32 ((channel.setCbuf cbuf into).recvdonelen + written) =
      view.recvdonelen + written := by
    rw [kept]
    exact u32_of_lt (by omega)
  refine ⟨cbuf, incrread, ?_⟩
  dsimp only
  rw [fitsWord]
  refine ⟨_, by omega, (fits.setCbuf cbuf into).credit _ _, ?_, ?_, ?_, ?_, rfl, nofun⟩
  · apply within.refill there sound' size' (by omega)
    cases into with
    | extrabuf => exact within.complete
    | writebuf =>
      cases there
      intro unbroken
      have before := within.complete unbroken
      have length := sound.length_contents
      have split : (view.writebuf.contents ++ moredata).drop written =
          view.writebuf.contents.drop cbufWritten ++ moredata.drop (written - cbufWritten) := by
        rw [List.drop_append, length, ← taken]
        congr 1
        · rcases Nat.le_total view.writebuf.used written with all | part
          · rw [Nat.min_eq_left all, List.drop_eq_nil_of_le (by omega),
              List.drop_eq_nil_of_le (by omega)]
          · rw [Nat.min_eq_right part]
        · congr 1
          omega
      change (view.stream.written ++ _) ++ (cbuf.contents ++ _) = view.stream.taken
      rw [contents', Into.waiting, ← split, List.append_assoc, List.take_append_drop]
      exact before
  · cases into <;> exact ⟨rfl, rfl, rfl, rfl, rfl⟩
  · cases into <;> rfl
  · intro other isOther
    cases into <;> cases other <;> first | rfl | exact absurd rfl isOther

/-- What is handed to the system call. -/
theorem handed_eq (there : channel.cbuf into = some target) {first second : Bytes}
    (read : cbufReadptrs target = .ok (first, second)) (opts : Opts) (moredata : Option Bytes) :
    handed opts channel into moredata =
      if opts.haveWritev then
        if first ++ second = [] ∧ moredata = none then none
        else some (first ++ second ++ moredata.getD [])
      else some first := by
  rw [handed, there]
  dsimp only
  rw [read]

theorem Stream.afterCall_eq (given : handed opts channel into moredata = some bytes)
    (stream : Stream) (result : WriteResult) :
    stream.afterCall opts channel into moredata result =
      into.recorded (stream.write bytes result) stream := by
  rw [Stream.afterCall, given]

/-- A passing failure changes nothing. -/
theorem Stream.write_passing (stream : Stream) (bytes : Bytes) :
    stream.write bytes (.failed true) = stream := by
  change ({ stream with broken := stream.broken || false } : Stream) = stream
  rw [Bool.or_false]

/-- Only as much is written as was handed over. -/
theorem Stream.write_min (stream : Stream) (bytes : Bytes) (count : Nat) :
    stream.write bytes (.wrote (min count bytes.length)) = stream.write bytes (.wrote count) := by
  change ({ stream with written := stream.written ++ bytes.take _ } : Stream) = _
  rw [← List.take_eq_take_min]
  rfl

/-- The two kinds of failure, for a call that was made. -/
theorem wrote_failed (fits : channel.Fits view)
    (within : view.Within opts inHand (into.waiting (moredata.getD [])))
    (there : view.cbuf into = some target)
    (given : handed opts channel into moredata = some bytes) :
    Wrote opts into inHand (moredata.getD []) view
        (view.stream.afterCall opts channel into moredata (.failed true)) channel true 0 view ∧
      ∃ view', Wrote opts into inHand (moredata.getD []) view
        (view.stream.afterCall opts channel into moredata (.failed false))
        (closeChanFd channel (channel.fdInto into) .shutWr) false 0 view' := by
  rw [Stream.afterCall_eq given, Stream.afterCall_eq given, Stream.write_passing]
  constructor
  · have nothing : into.recorded view.stream view.stream = view.stream := by cases into <;> rfl
    rw [nothing]
    exact Wrote.nothing fits within there
  · refine ⟨_, Wrote.failed fits within there ?_⟩
    cases into with
    | writebuf => exact .inl (Bool.or_true _)
    | extrabuf => exact .inr ⟨rfl, rfl⟩

/-- **With `writev` what was written is taken from the buffer and from the bytes in
hand.** -/
theorem exists_writev (haveWritev : opts.haveWritev = true) (fits : channel.Fits view)
    (within : view.Within opts inHand (into.waiting (moredata.getD [])))
    (there : view.cbuf into = some target) (more : (moredata.getD []).length ≤ inHand)
    (result : WriteResult) :
    ∃ channel' good consumed view',
      writechannelWritev channel into moredata result = .ok (channel', good, consumed) ∧
      Wrote opts into inHand (moredata.getD []) view
        (view.stream.afterCall opts channel into moredata result) channel' good consumed view' := by
  obtain ⟨sound, _⟩ := within.buffers into target there
  obtain ⟨first, second, read, contents⟩ := sound.exists_readptrs
  have length : first.length + second.length = target.contents.length := by
    rw [← contents, List.length_append]
  have isThere : channel.cbuf into = some target := (fits.cbuf into).trans there
  have given := handed_eq isThere read opts moredata
  rw [if_pos haveWritev, contents] at given
  rw [writechannelWritev, isThere]
  dsimp only
  rw [read, Except.ok_bind]
  dsimp only
  rw [length]
  split
  case _ idle =>
    rw [if_pos ⟨List.length_eq_zero_iff.1 idle.1, idle.2⟩] at given
    have same : view.stream.afterCall opts channel into moredata result = view.stream := by
      rw [Stream.afterCall, given]
    rw [same]
    exact ⟨channel, true, 0, view, rfl, Wrote.nothing fits within there⟩
  case _ busy =>
    rw [if_neg fun empty => busy ⟨List.length_eq_zero_iff.2 empty.1, empty.2⟩] at given
    cases result with
    | failed passing =>
      obtain ⟨passes, view', fails⟩ := wrote_failed fits within there given
      cases passing with
      | true => exact ⟨channel, true, 0, view, rfl, passes⟩
      | false => exact ⟨_, false, 0, view', rfl, fails⟩
    | wrote count =>
      have le : min count (target.used + (moredata.getD []).length) ≤
          target.used + (moredata.getD []).length := Nat.min_le_right _ _
      obtain ⟨cbuf, incrread, view', wrote⟩ := exists_wrote fits within there more le
      dsimp only
      rw [← sound.length_contents] at incrread wrote
      rw [incrread, Except.ok_bind, Stream.afterCall_eq given, ← Stream.write_min,
        List.length_append]
      exact ⟨_, true, _, view', rfl, wrote⟩

/-- **Without it the first portion of the buffer is written, and no bytes in hand.** -/
theorem exists_fallback (noWritev : opts.haveWritev = false) (fits : channel.Fits view)
    (within : view.Within opts inHand (into.waiting (moredata.getD [])))
    (there : view.cbuf into = some target) (more : (moredata.getD []).length ≤ inHand)
    (result : WriteResult) :
    ∃ channel' good consumed view',
      writechannelFallback channel into result = .ok (channel', good, consumed) ∧
      Wrote opts into inHand (moredata.getD []) view
        (view.stream.afterCall opts channel into moredata result) channel' good consumed view' := by
  obtain ⟨sound, _⟩ := within.buffers into target there
  obtain ⟨first, second, read, contents⟩ := sound.exists_readptrs
  have length : first.length ≤ target.used := by
    rw [← sound.length_contents, ← contents, List.length_append]
    exact Nat.le_add_right _ _
  have isThere : channel.cbuf into = some target := (fits.cbuf into).trans there
  have given := handed_eq isThere read opts moredata
  rw [if_neg (by rw [noWritev]; decide)] at given
  rw [writechannelFallback, isThere]
  dsimp only
  rw [read, Except.ok_bind]
  dsimp only
  cases result with
  | failed passing =>
    obtain ⟨passes, view', fails⟩ := wrote_failed fits within there given
    cases passing with
    | true => exact ⟨channel, true, 0, view, rfl, passes⟩
    | false => exact ⟨_, false, 0, view', rfl, fails⟩
  | wrote count =>
    have le : min count first.length ≤ target.used + (moredata.getD []).length := by omega
    obtain ⟨cbuf, incrread, view', wrote⟩ := exists_wrote fits within there more le
    have inBuffer : min target.used (min count first.length) = min count first.length := by omega
    have front : view.stream.write (target.contents ++ moredata.getD [])
        (.wrote (min count first.length)) = view.stream.write first (.wrote count) := by
      rw [← Stream.write_min view.stream first count, ← contents, List.append_assoc]
      change ({ view.stream with written := view.stream.written ++ _ } : Stream) = _
      rw [List.take_append_of_le_length (Nat.min_le_right _ _)]
      rfl
    dsimp only
    rw [inBuffer, front, Nat.sub_self] at wrote
    rw [inBuffer] at incrread
    rw [incrread, Except.ok_bind, Stream.afterCall_eq given]
    exact ⟨_, true, 0, view', rfl, wrote⟩

theorem exists_once (fits : channel.Fits view)
    (within : view.Within opts inHand (into.waiting (moredata.getD [])))
    (there : view.cbuf into = some target) (more : (moredata.getD []).length ≤ inHand)
    (result : WriteResult) :
    ∃ channel' good consumed view',
      writechannelOnce opts channel into moredata result = .ok (channel', good, consumed) ∧
      Wrote opts into inHand (moredata.getD []) view
        (view.stream.afterCall opts channel into moredata result) channel' good consumed view' := by
  cases haveWritev : opts.haveWritev with
  | true =>
    rw [writechannelOnce, if_pos haveWritev]
    exact exists_writev haveWritev fits within there more result
  | false =>
    rw [writechannelOnce, if_neg (by rw [haveWritev]; decide)]
    exact exists_fallback haveWritev fits within there more result

/-- Crediting moves bytes to the peer's window. -/
theorem ends_extendWindow (shows : slot.Shows view) (within : view.Within opts inHand waiting)
    (running : view.connPending = false) :
    Ends (fun _ after => ∃ view', after.Shows view' ∧ view'.Within opts inHand waiting ∧
      view'.cbuf = view.cbuf ∧ view'.stream = view.stream) (fun _ _ => False)
      (extendWindow opts slot) := by
  obtain ⟨channel, present, fits⟩ := shows.present
  rw [extendWindow, theChannel_bind present]
  split
  · have total := within.total
    have bounded := (within.buffers .writebuf _ rfl).1.bounded
    have size := (within.buffers .writebuf _ rfl).2
    rw [maxCbufSize_eq] at bounded
    have fitsWord : u32 (channel.recvwindow + channel.recvdonelen) =
        view.recvwindow + view.recvdonelen := by
      rw [fits.recvwindow, fits.recvdonelen]
      exact u32_of_lt (by omega)
    refine ⟨{ view with
      recvwindow := view.recvwindow + view.recvdonelen
      recvdonelen := 0
      granted := view.granted + view.recvdonelen }, ?_, ?_, rfl, rfl⟩
    · refine ⟨⟨_, rfl, { fits with recvwindow := fitsWord, recvdonelen := rfl }⟩, shows.arrived, ?_,
        shows.stream, (filter_append_of_not rfl).trans shows.data, shows.allowance⟩
      change granted (slot.sent ++ [_]) = _
      rw [granted_append, shows.granted]
      exact congrArg (view.granted + ·) fits.recvdonelen
    · have granted := within.granted
      refine ⟨within.buffers, ?_, ?_, ?_, within.deferred, within.transmit, within.complete⟩
      · change view.recvwindow + view.recvdonelen + 0 + view.buffered + inHand ≤ _
        omega
      · change view.granted + view.recvdonelen ≤ view.recvwindow + view.recvdonelen + view.arrived
        omega
      · intro pending
        rw [running] at pending
        cases pending
  · exact ⟨view, shows, within, rfl, rfl⟩

theorem assertWindow_eq_ok (fits : channel.Fits view) (within : view.Within opts inHand waiting) :
    assertWindow opts channel = .ok () := by
  have total := within.total
  have first := within.recvwindow_le_getavail .writebuf rfl
  rw [assertWindow, fits.recvwindow, fits.writebuf, fits.extrabuf, if_neg (by omega),
    if_neg (by omega), if_neg]
  rw [not_not, Option.all_eq_true]
  intro cbuf there
  have second := within.recvwindow_le_getavail .extrabuf there
  rw [decide_eq_true_eq]
  omega

/-- **Writing to the local side never ends the process**, and consumes bytes in hand. -/
theorem ends_writechannel (shows : slot.Shows view)
    (within : view.Within opts inHand (into.waiting (moredata.getD [])))
    (running : view.connPending = false) (there : view.cbuf into = some target)
    (more : (moredata.getD []).length ≤ inHand) (result : WriteResult) :
    Ends (fun wrote after => wrote.2 ≤ (moredata.getD []).length ∧
        ∃ view', after.Shows view' ∧
          view'.Within opts (inHand - wrote.2) (into.waiting ((moredata.getD []).drop wrote.2)) ∧
          (view'.cbuf into).isSome ∧
          (∀ other, other ≠ into → view'.cbuf other = view.cbuf other) ∧
          (wrote.1 = false → into = .writebuf → view'.stream.broken = true))
      (fun _ _ => False) (writechannel opts into moredata result slot) := by
  obtain ⟨channel, present, fits⟩ := shows.present
  obtain ⟨channel', good, consumed, view', once, wrote⟩ := exists_once fits within there more result
  rw [writechannel, theChannel_bind present, noteStream_bind, once]
  have shows' : Slot.Shows
      { slot with
        channel := some channel'
        stream := slot.stream.afterCall opts channel into moredata result } view' :=
    ⟨⟨channel', rfl, wrote.fits⟩, shows.arrived.trans wrote.sameBut.arrived.symm,
      shows.granted.trans wrote.sameBut.granted.symm, by rw [wrote.stream_eq, shows.stream],
      by rw [wrote.sameBut.transmit]; exact shows.data,
      by rw [wrote.sameBut.transmit]; exact shows.allowance⟩
  have stillRunning := wrote.sameBut.connPending.trans running
  refine (ends_extendWindow shows' wrote.within stillRunning).bind ?_
  rintro _ after ⟨view'', shows'', within'', buffers, stream⟩
  obtain ⟨channel'', present'', fits''⟩ := shows''.present
  rw [theChannel_bind present'', assertWindow_eq_ok fits'' within'']
  refine ⟨wrote.consumed_le, view'', shows'', within'', buffers ▸ wrote.there,
    buffers ▸ wrote.others, fun failed isWritebuf => ?_⟩
  rw [stream, wrote.stream_eq]
  exact wrote.broken failed isWritebuf

/-! ## Keeping data -/

/-- **Data for which there is room is stored behind what is buffered**, in two rounds
if the buffer wraps around: every round stores something. -/
theorem storeLoop_stores (rounds : Nat) {cbuf : CircBuffer} (sound : cbuf.Sound) {payload : Buffer}
    (present : bytes <+: payload.rest) (small : bytes.length ≤ bufMaxIncr)
    (enough : bytes.length ≤ rounds) (room : cbuf.used + bytes.length ≤ cbuf.size) :
    ∃ cbuf', storeLoop rounds cbuf payload bytes.length = .ok cbuf' ∧ cbuf'.Sound ∧
      cbuf'.size = cbuf.size ∧ cbuf'.used = cbuf.used + bytes.length ∧
      cbuf'.contents = cbuf.contents ++ bytes := by
  induction rounds generalizing cbuf payload bytes with
  | zero =>
    cases List.length_eq_zero_iff.1 (Nat.le_zero.1 enough)
    exact ⟨cbuf, rfl, sound, rfl, rfl, (List.append_nil _).symm⟩
  | succ rounds ih =>
    cases length : bytes.length with
    | zero =>
      cases List.length_eq_zero_iff.1 length
      exact ⟨cbuf, rfl, sound, rfl, rfl, (List.append_nil _).symm⟩
    | succ len =>
      obtain ⟨free, writelen, _, positive, _⟩ := sound.exists_writelen
      have something : 0 < free := positive (by omega)
      rw [storeLoop, writelen, Except.ok_bind]
      dsimp only
      rw [← length]
      generalize round : min free bytes.length = buflen
      have front : (bytes.take buflen).length = buflen := by
        rw [List.length_take]
        omega
      have first : bytes.take buflen <+: payload.rest :=
        (List.take_prefix buflen bytes).trans present
      obtain ⟨pointed, peeked⟩ := bufGetptr_peek (by omega) first
      rw [front] at pointed peeked
      obtain ⟨data, put, size, stored⟩ :=
        sound.exists_put writelen (show (bytes.take buflen).length ≤ free by omega)
      rw [front] at stored
      obtain ⟨next, incrwrite, sound', size', used', contents'⟩ :=
        sound.exists_incrwrite size writelen (show buflen ≤ free by omega)
      have inside : buflen ≤ payload.rest.length := by
        have := present.length_le
        omega
      rw [pointed, Except.ok_bind, peeked, Except.ok_bind, put, Except.ok_bind, incrwrite,
        Except.ok_bind, bufIncrpos_eq_skip (by omega) inside, Except.ok_bind]
      have behind : bytes.drop buflen <+: (payload.skip buflen).rest := by
        rw [Buffer.rest_skip]
        exact present.drop buflen
      have left : (bytes.drop buflen).length = bytes.length - buflen := List.length_drop
      obtain ⟨last, ran, lastSound, lastSize, lastUsed, lastContents⟩ :=
        ih sound' behind (by omega) (by omega) (by omega)
      rw [left] at ran lastUsed
      refine ⟨last, ran, lastSound, lastSize.trans size', by omega, ?_⟩
      rw [lastContents, contents', stored, List.append_assoc, List.take_append_drop]

/-- There is no channel, or all that is granted on it fits; and what was sent keeps to
what the peer has allowed. -/
def Slot.Bounded (opts : Opts) (slot : Slot) : Prop :=
  slot.channel = none ∧ Settled (slot.sent.filter Message.isData) slot.allowance ∨
    ∃ view, slot.Shows view ∧ view.Within opts 0 []

/-- How an event may end the process: with an honest peer not because data did not
fit. -/
def Kept (opts : Opts) (honest : Prop) (failure : Exit) (after : Slot) : Prop :=
  after.Bounded opts ∧ (honest → ¬ WindowFailure failure)

variable {honest : Prop}

theorem Slot.Shows.bounded (shows : slot.Shows view) (within : view.Within opts inHand []) :
    slot.Bounded opts :=
  .inr ⟨view, shows, within.mono (Nat.zero_le _)⟩

theorem ends_readBuffer {α β : Type} {computed : Except Exit α} {next : α → ChanM β}
    {returned : β → Slot → Prop} (failsOnly : FailsOnly Exit.OfBuffer computed)
    (bounded : slot.Bounded opts)
    (rest : ∀ value, computed = .ok value → Ends returned (Kept opts honest) (next value slot)) :
    Ends returned (Kept opts honest) ((fromResult computed >>= next) slot) := by
  apply ends_fromResult _ rest
  intro failure failed
  exact ⟨bounded, fun _ => not_windowFailure_of_ofBuffer (failsOnly failure failed)⟩

/-- What is in hand goes to the buffer, unless the write has failed. -/
theorem ends_storeRest (shows : slot.Shows view) {rest : Bytes}
    (within : view.Within opts rest.length (into.waiting rest)) (there : (view.cbuf into).isSome)
    {payload : Buffer} (present : rest <+: payload.rest) (small : rest.length ≤ bufMaxIncr)
    {good : Bool} (broken : good = false → into = .writebuf → view.stream.broken = true) :
    Ends (fun _ after => after.Bounded opts) (Kept opts honest)
      (storeRest into payload good rest.length slot) := by
  rw [storeRest]
  split
  · obtain ⟨channel, isPresent, fits⟩ := shows.present
    obtain ⟨cbuf, there⟩ := Option.isSome_iff_exists.1 there
    rw [theChannel_bind isPresent, fits.cbuf, there]
    obtain ⟨sound, size⟩ := within.buffers into cbuf there
    have used := View.used_le_buffered there
    have total := within.total
    have room : cbuf.used + rest.length ≤ cbuf.size := by omega
    obtain ⟨cbuf', stored, sound', size', used', contents'⟩ :=
      storeLoop_stores rest.length sound present small (Nat.le_refl _) room
    dsimp only
    rw [stored]
    have filled : View.Within opts 0 []
        { view.setCbuf cbuf' into with
          recvdonelen := view.recvdonelen
          stream := view.stream } := by
      apply within.refill there sound' size' (by omega)
      cases into with
      | extrabuf => exact within.complete
      | writebuf =>
        cases there
        intro unbroken
        change view.stream.written ++ (cbuf'.contents ++ []) = view.stream.taken
        rw [List.append_nil, contents']
        exact within.complete unbroken
    refine .inr ⟨_, ⟨⟨_, rfl, ?_⟩, ?_, ?_, ?_, ?_, ?_⟩, filled⟩
    · have stored := fits.setCbuf cbuf' into
      cases into <;> exact stored
    · cases into <;> exact shows.arrived
    · cases into <;> exact shows.granted
    · cases into <;> exact shows.stream
    · cases into <;> exact shows.data
    · cases into <;> exact shows.allowance
  case _ failed =>
    refine .inr ⟨view, shows, ?_⟩
    have within := within.mono (Nat.zero_le _)
    cases into with
    | extrabuf => exact within
    | writebuf => exact within.breaks (broken ((Bool.not_eq_true good).mp failed) rfl) []

/-- The view after `datalen` bytes have come in. -/
def View.arrive (view : View) (datalen : Nat) : View :=
  { view with arrived := view.arrived + datalen }

theorem Slot.Shows.arrive (shows : slot.Shows view) (datalen : Nat) :
    Slot.Shows { slot with arrived := slot.arrived + datalen } (view.arrive datalen) := by
  obtain ⟨channel, present, fits⟩ := shows.present
  exact ⟨⟨channel, present, { fits with }⟩, congrArg (· + datalen) shows.arrived, shows.granted,
    shows.stream, shows.data, shows.allowance⟩

theorem View.Within.arrive (within : view.Within opts inHand waiting) (datalen : Nat) :
    (view.arrive datalen).Within opts inHand waiting :=
  { within with
    granted := Nat.le_trans within.granted (Nat.add_le_add_left (Nat.le_add_right _ _) _) }

/-- The view after `datalen` bytes have been taken off the window. -/
def View.take (view : View) (datalen : Nat) : View :=
  { view with
    recvwindow := view.recvwindow - datalen
    arrived := view.arrived + datalen }

/-- Bytes taken off the window are in hand. -/
theorem ends_takeWindow {datalen : Nat} (shows : slot.Shows (view.arrive datalen))
    (within : view.Within opts 0 []) (obeys : honest → datalen ≤ view.recvwindow) :
    Ends (fun _ after => after.Shows (view.take datalen) ∧ (view.take datalen).Within opts datalen [])
      (Kept opts honest) (takeWindow opts datalen slot) := by
  obtain ⟨channel, present, fits⟩ := shows.present
  have granted := within.granted
  have total := within.total
  have same : channel.recvwindow = view.recvwindow := fits.recvwindow
  rw [takeWindow, theChannel_bind present]
  by_cases enough : datalen ≤ view.recvwindow
  · have bounded := (within.buffers .writebuf _ rfl).1.bounded
    have size := (within.buffers .writebuf _ rfl).2
    rw [maxCbufSize_eq] at bounded
    have left : sub32 channel.recvwindow datalen = view.recvwindow - datalen := by
      rw [same]
      exact sub32_of_le (by omega) enough
    rw [if_neg (by rw [same]; exact not_not.2 enough)]
    dsimp only
    rw [left, if_neg (by omega)]
    refine ⟨⟨⟨_, rfl, { fits with recvwindow := rfl }⟩, shows.arrived, shows.granted,
      shows.stream, shows.data, shows.allowance⟩, ?_⟩
    refine ⟨within.buffers, ?_, ?_, within.pending, within.deferred, within.transmit,
      within.complete⟩
    · change view.recvwindow - datalen + view.recvdonelen + view.buffered + datalen ≤ _
      omega
    · change view.granted ≤ view.recvwindow - datalen + (view.arrived + datalen)
      omega
  · rw [if_pos (by rw [same]; exact enough)]
    exact ⟨shows.bounded (within.arrive datalen), fun isHonest => absurd (obeys isHonest) enough⟩

/-- The data is recorded as taken, and waits to be written. -/
def View.record (view : View) (bytes : Bytes) (into : Into) : View :=
  { view with stream := view.stream.take bytes into }

theorem Slot.Shows.record (shows : slot.Shows view) (bytes : Bytes) (into : Into) :
    Slot.Shows { slot with stream := slot.stream.take bytes into } (view.record bytes into) := by
  obtain ⟨channel, present, fits⟩ := shows.present
  refine ⟨⟨channel, present, { fits with }⟩, shows.arrived, shows.granted, ?_, shows.data,
    shows.allowance⟩
  rw [shows.stream]
  rfl

theorem View.Within.record (within : view.Within opts inHand []) (bytes : Bytes) (into : Into) :
    (view.record bytes into).Within opts inHand (into.waiting bytes) := by
  cases into with
  | extrabuf => exact within
  | writebuf =>
    refine { within with complete := fun unbroken => ?_ }
    have before := within.complete unbroken
    rw [List.append_nil] at before
    change view.stream.written ++ (view.writebuf.contents ++ bytes) = view.stream.taken ++ bytes
    rw [← List.append_assoc]
    exact congrArg (· ++ bytes) before

/-- **Data that fits the window is written or kept.** -/
theorem ends_acceptData {datalen : Nat} (shows : slot.Shows (view.arrive datalen))
    (within : view.Within opts 0 []) (running : view.connPending = false)
    (there : view.cbuf into = some target) (obeys : honest → datalen ≤ view.recvwindow)
    (payload : Buffer) (result : WriteResult) :
    Ends (fun _ after => after.Bounded opts) (Kept opts honest)
      (acceptData opts into payload datalen result slot) := by
  apply (ends_takeWindow shows within obeys).bind
  rintro _ taken ⟨shows, within⟩
  apply ends_readBuffer (failsOnly_bufGetptr payload datalen) (shows.bounded within)
  intro ptr pointed
  apply ends_readBuffer (failsOnly_peek payload ptr datalen) (shows.bounded within)
  intro bytes peeked
  obtain ⟨present, length, small⟩ := prefix_of_bufGetptr_peek pointed peeked
  subst length
  rw [noteStream_bind]
  have there' : ((view.take bytes.length).record bytes into).cbuf into = some target := by
    cases into <;> exact there
  have more : ((some bytes).getD []).length ≤ bytes.length := Nat.le_refl _
  apply (ends_writechannel (shows.record bytes into) (within.record bytes into) running there' more
    result).ofNoFailure.bind
  rintro ⟨good, consumed⟩ after ⟨consumed_le, view', shows', within', isThere, _, broken⟩
  dsimp only [Option.getD_some] at consumed_le within' broken ⊢
  have inside : consumed ≤ payload.rest.length := Nat.le_trans consumed_le present.length_le
  rw [bufIncrpos_eq_skip (Nat.le_trans consumed_le small) inside]
  have behind : bytes.drop consumed <+: (payload.skip consumed).rest := by
    rw [Buffer.rest_skip]
    exact present.drop consumed
  have left : (bytes.drop consumed).length = bytes.length - consumed := List.length_drop
  rw [← left] at within' ⊢
  exact ends_storeRest shows' within' isThere behind (by omega) broken

theorem ends_dropData (shows : slot.Shows view) (within : view.Within opts 0 [])
    (payload : Buffer) :
    Ends (fun _ after => after.Bounded opts) (Kept opts honest) (dropData payload slot) := by
  rw [dropData]
  cases bufGetint payload with
  | ok read => exact (shows.arrive read.1).bounded (within.arrive read.1)
  | error failure => exact shows.bounded within

/-- Data is accepted only where there is something to write to. -/
theorem Channel.Fits.running (fits : channel.Fits view) {number : Nat}
    (descriptor : channel.fdInto into = .fd number) : view.connPending = false := by
  cases pending : view.connPending with
  | false => rfl
  | true =>
    have idle := fits.idle pending
    cases into with
    | writebuf =>
      rw [show channel.writefd = .fd number from descriptor] at idle
      cases idle.1
    | extrabuf =>
      rw [show channel.errfd = .fd number from descriptor] at idle
      cases idle.2

/-- **Whatever arrives, the window stays sound**, and what an honest peer sends
fits. -/
theorem ends_commonRecvMsgChannelData (shows : slot.Shows view) (within : view.Within opts 0 [])
    (into : Into) (payload : Buffer) (result : WriteResult)
    (obeys : honest → ∀ datalen behind, bufGetint payload = .ok (datalen, behind) →
      view.arrived + datalen ≤ view.granted) :
    Ends (fun _ after => after.Bounded opts) (Kept opts honest)
      (commonRecvMsgChannelData opts into payload result slot) := by
  obtain ⟨channel, present, fits⟩ := shows.present
  have drops : Ends (fun _ after => after.Bounded opts) (Kept opts honest)
      (dropData payload slot) := ends_dropData shows within payload
  rw [commonRecvMsgChannelData, theChannel_bind present]
  split
  · exact ⟨shows.bounded within, fun _ => by decide⟩
  · cases descriptor : channel.fdInto into with
    | uninit => exact drops
    | closed => exact drops
    | fd number =>
      cases isThere : channel.cbuf into with
      | none => exact drops
      | some cbuf =>
        have there : view.cbuf into = some cbuf := (fits.cbuf into).symm.trans isThere
        apply ends_readBuffer (failsOnly_bufGetint payload) (shows.bounded within)
        rintro ⟨datalen, behind⟩ read
        have obeys' : honest → datalen ≤ view.recvwindow := by
          intro isHonest
          have allowed := obeys isHonest datalen behind read
          have granted := within.granted
          omega
        dsimp only
        rw [EStateM.bind_of_ok (show countArrived datalen slot = .ok () _ from rfl)]
        split
        case _ oversized =>
          refine ⟨(shows.arrive datalen).bounded (within.arrive datalen), fun isHonest => ?_⟩
          have free := within.recvwindow_le_getavail into there
          have small := obeys' isHonest
          omega
        case _ =>
          exact ends_acceptData (shows.arrive datalen) within (fits.running descriptor) there
            obeys' behind result

end

end Dropbear.Channels
