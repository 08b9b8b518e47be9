/-
# An EOF closes one direction

After the peer's EOF nothing more is written, and the write descriptor is closed when the
buffered data is through.  Descriptors are told apart by their numbers.  Where the local side
is read through the same descriptor and it is not one for both directions, as with a terminal,
closing the one closes the other, and what the program still has to say is lost.  So it is
with descriptors that have not been set yet: these have the same number, too.
-/

import Dropbear.Channels.Commands

namespace Dropbear.Channels

open Program

/-! ## Half-closing -/

/-- The channel with other data in its buffers: some of it has been written, or more has
arrived. -/
def Channel.buffering (channel : Channel) (writebuf extrabuf : CircBuffer) : Channel :=
  { channel with
    writebuf := writebuf
    extrabuf := channel.extrabuf.map fun _ => extrabuf }

/-- An EOF closes the write descriptor, once nothing is left to be written, and leaves the
descriptors that are read.  What is in the buffers when the channel is checked makes no
difference. -/
def Slot.HalfCloses (opts : Opts) (index : Nat) (slot : Slot) (channel : Channel) : Prop :=
  ∀ writebuf extrabuf pending,
    Ends (fun _ after => ∃ channel', after.channel = some channel' ∧
        channel'.readfd = channel.readfd ∧
        (channel.errfdIsRead → channel'.errfd = channel.errfd) ∧
        (channel'.writefd = channel.writefd ∨ channel'.writefd = .closed ∧
          writePending (channel.buffering writebuf extrabuf) = false))
      (fun _ _ => False)
      (step opts index (.recvEof pending)
        { slot with channel := some (channel.buffering writebuf extrabuf) })

/-- The child of the channel, if it has one, has not exited. -/
structure Channel.ChildRuns (channel : Channel) : Prop where
  session : channel.type = .svrchansess → channel.typedata.isSome
  notExited : ∀ chansess, channel.typedata = some chansess → chansess.exit.exitpid = -1

/-- The channel may be closed although its child has not exited: there is none, or the CLOSE
has been sent already. -/
def Channel.mayClose (channel : Channel) : Bool :=
  channel.type ≠ .svrchansess || channel.sentClose || channel.typedata.any (·.pid = 0)

/-- What it takes for an EOF to close one direction only. -/
structure Channel.Separable (channel : Channel) : Prop where
  /-- The descriptor that is written is not read as well, unless it is shut down in one
  direction. -/
  apart : channel.bidirFd = false →
    (channel.readfd = channel.writefd → channel.readfd = .closed) ∧
      (channel.errfdIsRead → channel.errfd = channel.writefd → channel.errfd = .closed)
  /-- The channel is not closed anyway. -/
  staysOpen : ¬ (channel.recvClose ∧ channel.mayClose)
  /-- A session that may be closed has nothing to write to. -/
  unwritten : channel.type = .svrchansess → channel.mayClose → channel.writefd.isOpen = false
  /-- Nothing is flushed. -/
  flushed : channel.flushing → channel.readfd.isOpen = false ∧
    (channel.errfdIsRead → channel.errfd.isOpen = false)

section

variable {opts : Opts} {slot : Slot} {channel : Channel}

theorem closeAllowed_of_childRuns (runs : channel.ChildRuns) :
    closeAllowed channel = .ok (channel, channel.mayClose) := by
  rw [closeAllowed, Channel.mayClose]
  cases typedata : channel.typedata with
  | none =>
    have other : channel.type ≠ .svrchansess := by
      intro session
      have found := runs.session session
      rw [typedata] at found
      cases found
    rw [if_pos (.inl other)]
    simp [other]
  | some chansess =>
    have running := runs.notExited chansess typedata
    split
    case _ free =>
      rcases free with other | sent
      · simp [other]
      · simp [sent]
    case _ bound =>
      rw [not_or, not_not] at bound
      have quiet : (channel.flushing || decide (chansess.exit.exitpid ≠ -1)) =
          channel.flushing := by
        simp [running]
      change Except.ok (sesscheckclose channel chansess) = _
      rw [sesscheckclose, quiet]
      refine congrArg (fun allowed => Except.ok (channel, allowed)) ?_
      simp [running, bound.1, bound.2]

/-! ## What is left of the descriptors -/

/-- The descriptors of a channel that are read, and the one that is written. -/
structure Channel.SameFds (channel channel' : Channel) : Prop where
  readfd : channel'.readfd = channel.readfd
  errfd : channel.errfdIsRead → channel'.errfd = channel.errfd
  writefd : channel'.writefd = channel.writefd

theorem ends_eofIfDone_fds (present : slot.channel = some channel) :
    Ends (fun _ after => after.channel = some channel ∨
        after.channel = some { channel with sentEof := true })
      (fun _ _ => False) (eofIfDone slot) := by
  rw [eofIfDone, theChannel_bind present]
  split
  · rw [sendMsgChannelEof, theChannel_bind present]
    exact .inr rfl
  · exact .inl present

theorem closehandler_of_childRuns (runs : channel.ChildRuns) :
    closehandler opts channel = pure () := by
  rw [closehandler.eq_def]
  split
  case _ chansess _ typedata =>
    rw [sendExitsignalstatus, if_neg]
    rw [runs.notExited chansess typedata]
    decide
  case _ => rfl

/-- Descriptors that are closed stay closed. -/
theorem markClosed_of_done (done : channel.readingDone) (written : channel.writefd = .closed) :
    channel.SameFds (markClosed channel) := by
  rw [Channel.readingDone, Bool.and_eq_true, decide_eq_true_eq, Bool.or_eq_true,
    decide_eq_true_eq] at done
  refine ⟨?_, ?_, ?_⟩
  · simp [markClosed, closeChanFd, done.1]
  · intro isRead
    have closed := done.2.resolve_left (by simp [isRead])
    have isRead' : channel.extrabuf.isNone := isRead
    simp [markClosed, closeChanFd, closed, Channel.errfdIsRead, isRead']
  · simp [markClosed, closeChanFd, written]

theorem ends_closeIfDone_fds (present : slot.channel = some channel) (runs : channel.ChildRuns)
    (allowed : Bool) :
    Ends (fun _ after => ∃ channel', after.channel = some channel' ∧ channel.SameFds channel')
      (fun _ _ => False) (closeIfDone opts allowed slot) := by
  rw [closeIfDone, theChannel_bind present]
  split
  case _ done =>
    rw [sendMsgChannelClose, theChannel_bind present, closehandler_of_childRuns runs, pure_bind]
    exact ⟨_, rfl, markClosed_of_done done.1 done.2.1⟩
  case _ => exact ⟨channel, present, rfl, fun _ => rfl, rfl⟩

theorem flushFds_frame (channel : Channel) (pending : ReadPending) :
    (flushFds channel pending).recvClose = channel.recvClose ∧
      (flushFds channel pending).type = channel.type ∧
      (flushFds channel pending).typedata = channel.typedata := by
  rw [flushFds]
  split
  · dsimp only
    split
    · split <;> exact ⟨rfl, rfl, rfl⟩
    · split <;> exact ⟨rfl, rfl, rfl⟩
  · exact ⟨rfl, rfl, rfl⟩

theorem closeWritefd_frame (channel : Channel) (allowed : Bool) :
    (closeWritefd channel allowed).type = channel.type ∧
      (closeWritefd channel allowed).typedata = channel.typedata := by
  rw [closeWritefd]
  split
  all_goals exact ⟨rfl, rfl⟩

theorem Channel.ChildRuns.congr {channel' : Channel} (runs : channel.ChildRuns)
    (type : channel'.type = channel.type) (typedata : channel'.typedata = channel.typedata) :
    channel'.ChildRuns where
  session session := by
    rw [typedata]
    exact runs.session (type ▸ session)
  notExited chansess found := runs.notExited chansess (typedata ▸ found)

theorem ends_answerClose_fds (present : slot.channel = some channel) (runs : channel.ChildRuns) :
    Ends (fun _ after => after.channel = none) (fun _ _ => False)
      (answerClose opts channel slot) := by
  rw [answerClose]
  split
  · rw [sendMsgChannelClose, bind_assoc, theChannel_bind present, closehandler_of_childRuns runs]
    exact rfl
  · exact rfl

/-- What is left of the descriptors when the channel has been checked and is not removed. -/
def Channel.checked (channel : Channel) (pending : ReadPending) : Channel :=
  closeWritefd (flushFds channel pending) channel.mayClose

/-- The peer has sent its CLOSE, and there is nothing more to be done. -/
def Channel.Finished (channel : Channel) (pending : ReadPending) : Prop :=
  channel.recvClose ∧ ¬ writePending (flushFds channel pending) ∧ channel.mayClose

/-- **A channel that is checked** is removed, or stays with its descriptors closed as they
have to be. -/
theorem ends_checkClose_fds (present : slot.channel = some channel) (runs : channel.ChildRuns)
    (pending : ReadPending) :
    Ends (fun _ after => (channel.Finished pending ∧ after.channel = none) ∨
        ¬ channel.Finished pending ∧ ∃ channel', after.channel = some channel' ∧
          (channel.checked pending).SameFds channel')
      (fun _ _ => False) (checkClose opts pending slot) := by
  obtain ⟨recvClose, type, typedata⟩ := flushFds_frame channel pending
  rw [checkClose, theChannel_bind present, closeAllowed_of_childRuns runs]
  change Ends _ _ ((if (flushFds channel pending).recvClose ∧
      ¬ writePending (flushFds channel pending) ∧ channel.mayClose then
      answerClose opts (flushFds channel pending)
    else do
      setChannel (channel.checked pending)
      eofIfDone
      closeIfDone opts channel.mayClose : ChanM Unit)
    { slot with channel := some (flushFds channel pending) })
  rw [recvClose]
  split
  case _ finished =>
    exact (ends_answerClose_fds rfl (runs.congr type typedata)).mono
      fun _ _ gone => .inl ⟨finished, gone⟩
  case _ stays =>
    obtain ⟨type', typedata'⟩ := closeWritefd_frame (flushFds channel pending) channel.mayClose
    have runs' : (channel.checked pending).ChildRuns :=
      runs.congr (type'.trans type) (typedata'.trans typedata)
    have closes : ∀ after : Slot, ∀ channel' : Channel, after.channel = some channel' →
        channel'.ChildRuns → (channel.checked pending).SameFds channel' →
        channel'.errfdIsRead = (channel.checked pending).errfdIsRead →
        Ends (fun _ after => (channel.Finished pending ∧ after.channel = none) ∨
            ¬ channel.Finished pending ∧ ∃ channel', after.channel = some channel' ∧
              (channel.checked pending).SameFds channel')
          (fun _ _ => False) (closeIfDone opts channel.mayClose after) := by
      intro after channel' found running same isRead
      apply (ends_closeIfDone_fds found running _).mono
      rintro _ after' ⟨channel'', found', same'⟩
      refine .inr ⟨stays, channel'', found', same'.readfd.trans same.readfd, fun read => ?_,
        same'.writefd.trans same.writefd⟩
      exact (same'.errfd (isRead.trans read)).trans (same.errfd read)
    apply ends_setChannel
    apply (ends_eofIfDone_fds rfl).bind
    rintro _ after (found | found)
    · exact closes after _ found runs' ⟨rfl, fun _ => rfl, rfl⟩ rfl
    · exact closes after _ found (runs'.congr rfl rfl) ⟨rfl, fun _ => rfl, rfl⟩ rfl

/-! ## When one direction is closed -/

/-- The channel when the EOF has been noted. -/
def Channel.atEof (channel : Channel) (writebuf extrabuf : CircBuffer) : Channel :=
  { channel.buffering writebuf extrabuf with recvEof := true }

@[simp]
theorem Channel.errfdIsRead_atEof (channel : Channel) (writebuf extrabuf : CircBuffer) :
    (channel.atEof writebuf extrabuf).errfdIsRead = channel.errfdIsRead :=
  Option.isNone_map

/-- Only the descriptor that is written has been closed, and it has no more data. -/
structure Channel.ClosesWrite (channel checked : Channel) : Prop where
  readfd : checked.readfd = channel.readfd
  errfd : channel.errfdIsRead → checked.errfd = channel.errfd
  writefd : checked.writefd = channel.writefd ∨
    checked.writefd = .closed ∧ writePending channel = false

theorem flushFds_errfdIsRead (channel : Channel) (pending : ReadPending) :
    (flushFds channel pending).errfdIsRead = channel.errfdIsRead := by
  rw [flushFds]
  split
  · dsimp only
    split
    · split <;> rfl
    · split <;> rfl
  · rfl

theorem Channel.errfdIsRead_checked (channel : Channel) (pending : ReadPending) :
    (channel.checked pending).errfdIsRead = channel.errfdIsRead := by
  rw [Channel.checked, closeWritefd]
  split
  · exact flushFds_errfdIsRead channel pending
  · exact flushFds_errfdIsRead channel pending

/-- Half-closing is a matter of the one check after the EOF. -/
theorem halfCloses_iff_checked {index : Nat} (runs : channel.ChildRuns) :
    slot.HalfCloses opts index channel ↔ ∀ writebuf extrabuf pending,
      ¬ (channel.atEof writebuf extrabuf).Finished pending ∧
        (channel.atEof writebuf extrabuf).ClosesWrite
          ((channel.atEof writebuf extrabuf).checked pending) := by
  refine forall_congr' fun writebuf => forall_congr' fun extrabuf => forall_congr' fun pending => ?_
  have isRead := channel.errfdIsRead_atEof writebuf extrabuf
  have isRead' := (channel.atEof writebuf extrabuf).errfdIsRead_checked pending
  have runs' : (channel.atEof writebuf extrabuf).ChildRuns := runs.congr rfl rfl
  have checks : Ends _ _ (checkClose opts pending
      { slot with channel := some (channel.atEof writebuf extrabuf) }) :=
    ends_checkClose_fds rfl runs' pending
  change Ends _ _ (checkClose opts pending
    { slot with channel := some (channel.atEof writebuf extrabuf) }) ↔ _
  cases result : checkClose opts pending
      { slot with channel := some (channel.atEof writebuf extrabuf) } with
  | error failure after =>
    rw [result] at checks
    exact absurd checks id
  | ok value after =>
    rw [result] at checks
    rcases checks with ⟨finished, gone⟩ | ⟨stays, channel', found, same⟩
    · refine iff_of_false ?_ fun keeps => keeps.1 finished
      rintro ⟨channel', found, _⟩
      rw [gone] at found
      cases found
    · constructor
      · rintro ⟨channel'', found', readfd, errfd, writefd⟩
        cases found.symm.trans found'
        refine ⟨stays, same.readfd.symm.trans readfd, fun read => ?_, ?_⟩
        · exact (same.errfd (isRead'.trans read)).symm.trans (errfd (isRead.symm.trans read))
        · rw [← same.writefd]
          exact writefd
      · rintro ⟨_, closes⟩
        refine ⟨channel', found, same.readfd.trans closes.readfd, fun read => ?_, ?_⟩
        · have read' := isRead.trans read
          exact (same.errfd (isRead'.trans read')).trans (closes.errfd read')
        · rw [same.writefd]
          exact closes.writefd

theorem flushFds_of_closed (closed : channel.flushing → channel.readfd.isOpen = false ∧
    (channel.errfdIsRead → channel.errfd.isOpen = false)) (pending : ReadPending) :
    flushFds channel pending = channel := by
  rw [flushFds]
  split
  case _ flushing =>
    obtain ⟨readfd, errfd⟩ := closed flushing
    have readKept : ¬ (channel.readfd.isOpen ∧ ¬ pending.readfd) := by
      simp [readfd]
    have errKept : ¬ (channel.errfdIsRead ∧ channel.errfd.isOpen ∧ ¬ pending.errfd) := by
      rintro ⟨isRead, isOpen, _⟩
      cases (errfd isRead).symm.trans isOpen
    dsimp only
    rw [if_neg readKept, if_neg errKept]
  case _ => rfl

/-- Nothing is flushed while there is something to be read. -/
theorem flushFds_of_pending (channel : Channel) : flushFds channel ⟨true, true⟩ = channel := by
  rw [flushFds]
  split
  · simp
  · rfl

theorem Fd.eq_closed {fd : Fd} (unset : fd ≠ .uninit) (shut : fd.isOpen = false) :
    fd = .closed := by
  cases fd with
  | uninit => exact absurd rfl unset
  | closed => rfl
  | fd number => cases shut

/-- A descriptor that is closed for writing stays where it is read from another one. -/
theorem closeChanFd_shutWr (apart : channel.bidirFd = false →
    (channel.readfd = channel.writefd → channel.readfd = .closed) ∧
      (channel.errfdIsRead → channel.errfd = channel.writefd → channel.errfd = .closed)) :
    (closeChanFd channel channel.writefd .shutWr).readfd = channel.readfd ∧
      (channel.errfdIsRead →
        (closeChanFd channel channel.writefd .shutWr).errfd = channel.errfd) := by
  cases oneFd : channel.bidirFd with
  | true => exact ⟨by simp [closeChanFd, oneFd], fun isRead => by simp [closeChanFd, oneFd, isRead]⟩
  | false =>
    obtain ⟨readfd, errfd⟩ := apart oneFd
    constructor
    · simp only [closeChanFd, oneFd]
      split
      case _ same => exact (readfd same.2.symm).symm
      case _ => rfl
    · intro isRead
      simp only [closeChanFd, oneFd, isRead]
      split
      case _ same => exact (errfd isRead same.2.2.symm).symm
      case _ => simp

@[simp]
theorem closeChanFd_writefd (channel : Channel) :
    (closeChanFd channel channel.writefd .shutWr).writefd = .closed := by
  simp [closeChanFd]

namespace Channel.Separable

theorem notFinished (separable : channel.Separable) (writebuf extrabuf : CircBuffer)
    (pending : ReadPending) : ¬ (channel.atEof writebuf extrabuf).Finished pending :=
  fun finished => separable.staysOpen ⟨finished.1, finished.2.2⟩

theorem closesWrite (separable : channel.Separable) (writebuf extrabuf : CircBuffer)
    (pending : ReadPending) :
    (channel.atEof writebuf extrabuf).ClosesWrite
      ((channel.atEof writebuf extrabuf).checked pending) := by
  have isRead := channel.errfdIsRead_atEof writebuf extrabuf
  have unflushed : flushFds (channel.atEof writebuf extrabuf) pending =
      channel.atEof writebuf extrabuf :=
    flushFds_of_closed (by rw [isRead]; exact separable.flushed) pending
  have apart : (closeChanFd (channel.atEof writebuf extrabuf) channel.writefd .shutWr).readfd =
      channel.readfd ∧ ((channel.atEof writebuf extrabuf).errfdIsRead →
        (closeChanFd (channel.atEof writebuf extrabuf) channel.writefd .shutWr).errfd =
          channel.errfd) :=
    closeChanFd_shutWr (by rw [isRead]; exact separable.apart)
  rw [Channel.checked, unflushed, closeWritefd]
  split
  case _ closes =>
    refine ⟨apart.1, apart.2, ?_⟩
    rcases closes with ⟨_, written⟩ | ⟨set, session, mayClose⟩
    · exact .inr ⟨closeChanFd_writefd _, eq_false_of_ne_true written⟩
    · have closed : channel.writefd = .closed :=
        Fd.eq_closed set (separable.unwritten session mayClose)
      exact .inl ((closeChanFd_writefd _).trans closed.symm)
  case _ => exact ⟨rfl, fun _ => rfl, .inl rfl⟩

end Channel.Separable

/-- A buffer of one byte. -/
def CircBuffer.holding (used : Nat) : CircBuffer :=
  { size := 1, used := used, readpos := 0, writepos := 0, data := some [0] }

theorem writePending_drained (channel : Channel) :
    writePending (channel.atEof (.holding 0) (.holding 0)) = false := by
  have drained : ∀ extrabuf : Option CircBuffer,
      (extrabuf.map fun _ => CircBuffer.holding 0).any (cbufGetused · > 0) = false := by
    rintro (_ | _) <;> rfl
  have extra := drained channel.extrabuf
  rw [writePending]
  simp only [Channel.atEof, Channel.buffering, extra]
  simp [cbufGetused, CircBuffer.holding]

theorem writePending_filled (isOpen : channel.writefd.isOpen) :
    writePending (channel.atEof (.holding 1) (.holding 1)) := by
  simp [writePending, Channel.atEof, Channel.buffering, isOpen, cbufGetused, CircBuffer.holding]

theorem closeChanFd_same (oneFd : channel.bidirFd = false)
    (same : channel.readfd = channel.writefd) :
    (closeChanFd channel channel.writefd .shutWr).readfd = .closed := by
  simp [closeChanFd, oneFd, same]

theorem closeChanFd_same_errfd (oneFd : channel.bidirFd = false) (isRead : channel.errfdIsRead)
    (same : channel.errfd = channel.writefd) :
    (closeChanFd channel channel.writefd .shutWr).errfd = .closed := by
  simp [closeChanFd, oneFd, isRead, same]

theorem closeChanFd_readfd_closed (fd : Fd) (how : How) (closed : channel.readfd = .closed) :
    (closeChanFd channel fd how).readfd = .closed := by
  simp [closeChanFd, closed]

theorem closeChanFd_errfd_closed (fd : Fd) (how : How) (closed : channel.errfd = .closed) :
    (closeChanFd channel fd how).errfd = .closed := by
  simp [closeChanFd, closed]

theorem Channel.checked_readfd_closed {pending : ReadPending}
    (closed : (flushFds channel pending).readfd = .closed) :
    (channel.checked pending).readfd = .closed := by
  rw [Channel.checked, closeWritefd]
  split
  · exact closeChanFd_readfd_closed _ _ closed
  · exact closed

theorem Channel.checked_errfd_closed {pending : ReadPending}
    (closed : (flushFds channel pending).errfd = .closed) :
    (channel.checked pending).errfd = .closed := by
  rw [Channel.checked, closeWritefd]
  split
  · exact closeChanFd_errfd_closed _ _ closed
  · exact closed

theorem flushFds_readfd_of_flushing (flushing : channel.flushing)
    (isOpen : channel.readfd.isOpen) : (flushFds channel ⟨false, false⟩).readfd = .closed := by
  have closed : (closeChanFd channel channel.readfd .shutRd).readfd = .closed := by
    simp [closeChanFd]
  have empty : channel.readfd.isOpen ∧ ¬ false := ⟨isOpen, Bool.false_ne_true⟩
  rw [flushFds, if_pos flushing]
  dsimp only
  rw [if_pos empty]
  split
  · exact closeChanFd_readfd_closed _ _ closed
  · exact closed

theorem flushFds_errfd_of_flushing (flushing : channel.flushing) (isRead : channel.errfdIsRead)
    (isOpen : channel.errfd.isOpen) : (flushFds channel ⟨false, false⟩).errfd = .closed := by
  -- The first of the two may be closed together with the second.
  have either : ∀ first : Channel, first.errfdIsRead →
      (first.errfd = channel.errfd ∨ first.errfd = .closed) →
      (if first.errfdIsRead ∧ first.errfd.isOpen ∧ ¬ false then
        closeChanFd first first.errfd .shutRd else first).errfd = .closed := by
    rintro first isRead' (same | closed)
    · rw [if_pos ⟨isRead', by rw [same]; exact isOpen, nofun⟩]
      simp [closeChanFd, isRead']
    · split
      · exact closeChanFd_errfd_closed _ _ closed
      · exact closed
  rw [flushFds, if_pos flushing]
  dsimp only
  split
  · refine either _ isRead ?_
    simp only [closeChanFd, isRead]
    split
    · exact .inr rfl
    · exact .inl (by simp)
  · exact either _ isRead (.inl rfl)

theorem Channel.separable_of_halfCloses {index : Nat} (runs : channel.ChildRuns)
    (halfCloses : slot.HalfCloses opts index channel) : channel.Separable := by
  have closes := (halfCloses_iff_checked runs).1 halfCloses
  obtain ⟨stays, drained⟩ := closes (.holding 0) (.holding 0) ⟨true, true⟩
  have isRead := channel.errfdIsRead_atEof (.holding 0) (.holding 0)
  have nothing := writePending_drained channel
  rw [Channel.Finished, flushFds_of_pending] at stays
  rw [Channel.checked, flushFds_of_pending, closeWritefd,
    if_pos (.inl ⟨rfl, by rw [nothing]; decide⟩)] at drained
  refine ⟨fun oneFd => ⟨fun same => ?_, fun read same => ?_⟩, ?_, ?_, ?_⟩
  · exact drained.readfd.symm.trans (closeChanFd_same oneFd same)
  · exact (drained.errfd (isRead.trans read)).symm.trans
      (closeChanFd_same_errfd oneFd (isRead.trans read) same)
  · rintro ⟨recvClose, mayClose⟩
    exact stays ⟨recvClose, by rw [nothing]; decide, mayClose⟩
  · intro session mayClose
    refine eq_false_of_ne_true fun isOpen => ?_
    have filled := (closes (.holding 1) (.holding 1) ⟨true, true⟩).2.writefd
    have set : channel.writefd ≠ .uninit := by
      intro unset
      rw [unset] at isOpen
      cases isOpen
    rw [Channel.checked, flushFds_of_pending, closeWritefd,
      if_pos (.inr ⟨set, session, mayClose⟩), closeChanFd_writefd,
      writePending_filled isOpen] at filled
    rcases filled with kept | ⟨_, written⟩
    · have closed : channel.writefd = .closed := kept.symm
      rw [closed] at isOpen
      cases isOpen
    · cases written
  · intro flushing
    have flushed := (closes (.holding 0) (.holding 0) ⟨false, false⟩).2
    refine ⟨eq_false_of_ne_true fun isOpen => ?_, fun read => eq_false_of_ne_true fun isOpen => ?_⟩
    · have closed : channel.readfd = .closed := flushed.readfd.symm.trans
        (Channel.checked_readfd_closed (flushFds_readfd_of_flushing flushing isOpen))
      rw [closed] at isOpen
      cases isOpen
    · have read' := isRead.trans read
      have closed : channel.errfd = .closed := (flushed.errfd read').symm.trans
        (Channel.checked_errfd_closed (flushFds_errfd_of_flushing flushing read' isOpen))
      rw [closed] at isOpen
      cases isOpen

/-- **An EOF closes one direction** of exactly the channels whose directions can be told
apart. -/
theorem halfCloses_iff (opts : Opts) (index : Nat) (slot : Slot) (runs : channel.ChildRuns) :
    slot.HalfCloses opts index channel ↔ channel.Separable :=
  ⟨Channel.separable_of_halfCloses runs, fun separable => (halfCloses_iff_checked runs).2
    fun writebuf extrabuf pending => ⟨separable.notFinished writebuf extrabuf pending,
      separable.closesWrite writebuf extrabuf pending⟩⟩

end

/-- A session with a command that is started with pipes. -/
def pipedSession : Slot :=
  finalState (runAll (step plainServer 0) [sessionOpen, .recvRequest execRequest execOutcome] .free)

/-- The command can still be heard after an EOF. -/
theorem halfCloses_pipes :
    ∃ channel, pipedSession.channel = some channel ∧ channel.readfd = .fd 5 ∧
      channel.errfd = .fd 6 ∧ pipedSession.HalfCloses plainServer 0 channel := by
  refine ⟨_, rfl, rfl, rfl, (halfCloses_iff plainServer 0 pipedSession ?_).2 ?_⟩
  · exact ⟨fun _ => rfl, fun chansess found => by cases found; rfl⟩
  · exact ⟨fun _ => ⟨nofun, fun _ => nofun⟩, nofun, nofun, nofun⟩

/-- A terminal is there, and the command is started in it. -/
def terminalOutcome : Outcome :=
  { execOutcome with
    forked := execOutcome.spawned.map (·.pid)
    terminal := some ⟨9, true, true⟩ }

/-- A session with a command in a terminal. -/
def terminalSession : Slot :=
  finalState (runAll (step terminalServer 0) [sessionOpen, .recvRequest ptyRequest terminalOutcome,
    .recvRequest execRequest terminalOutcome] .free)

/-- **The command in a terminal is not heard any more** when the peer has sent an EOF. -/
theorem halfCloses_fails_for_terminal :
    (∃ channel, terminalSession.channel = some channel ∧ channel.ChildRuns ∧
      channel.readfd = .fd 9 ∧ ¬ terminalSession.HalfCloses terminalServer 0 channel) ∧
      ((finalState (step terminalServer 0 (.recvEof ⟨true, true⟩) terminalSession)).channel.map
        (·.readfd)) = some .closed := by
  have fds : terminalSession.channel.map (fun channel =>
      (channel.readfd, channel.writefd, channel.bidirFd)) = some (.fd 9, .fd 9, false) := by
    decide +kernel
  have child : terminalSession.channel.map (fun channel => channel.typedata.map (·.exit.exitpid)) =
      some (some (-1)) := by
    decide +kernel
  obtain ⟨channel, present, same⟩ := Option.map_eq_some_iff.1 fds
  rw [present] at child
  have exitpid : channel.typedata.map (·.exit.exitpid) = some (-1) := Option.some.inj child
  have runs : channel.ChildRuns := by
    refine ⟨fun _ => ?_, fun chansess found => ?_⟩
    · obtain ⟨chansess, found, _⟩ := Option.map_eq_some_iff.1 exitpid
      rw [found]
      rfl
    · rw [found] at exitpid
      exact Option.some.inj exitpid
  have readfd : channel.readfd = .fd 9 := congrArg (·.1) same
  have writefd : channel.writefd = .fd 9 := congrArg (·.2.1) same
  have oneFd : channel.bidirFd = false := congrArg (·.2.2) same
  refine ⟨⟨channel, present, runs, readfd, fun halfCloses => ?_⟩, by decide +kernel⟩
  have closed := ((Channel.separable_of_halfCloses runs halfCloses).apart oneFd).1
    (readfd.trans writefd.symm)
  cases readfd.symm.trans closed

end Dropbear.Channels
