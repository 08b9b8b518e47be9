/-
# Closing keeps the order

`check_channel_close` sends the EOF and the CLOSE.  On a vacant channel it sends
both at once, or none.
-/

import Dropbear.Channels.Order

namespace Dropbear.Channels

open Program

/-- The assertion in `send_msg_channel_data`. -/
def sentCloseAssert : Exit := .assertion "!channel->sent_close"

/-- How the process may end. -/
def EndsWell (failure : Exit) (after : Slot) : Prop := after.Disciplined ∧ failure ≠ sentCloseAssert

namespace Channel.Ordered

variable {sent : List Message} {channel channel' : Channel}

theorem congr (ordered : channel.Ordered sent) (same : channel'.orderly = channel.orderly) :
    channel'.Ordered sent where
  toTidy := ordered.toTidy.congr same
  finished := by
    simp only [orderly, Prod.mk.injEq] at same
    obtain ⟨_, typedata, _, _, _, _, _, sentEof, sentClose, connPending, _⟩ := same
    rw [Vacant, typedata, connPending, sentEof, sentClose]
    exact ordered.finished

theorem closeChanFd (ordered : channel.Ordered sent) (fd : Fd) {how : How}
    (confirmed : channel.awaitOpen → how ≠ .shutRd) :
    (closeChanFd channel fd how).Ordered sent where
  toTidy := ordered.toTidy.closeChanFd fd confirmed
  finished := ordered.finished

theorem slot (ordered : channel.Ordered sent) {arrived : Nat} {stream : Stream}
    {allowance : Allowance} :
    Slot.Ordered ⟨some channel, sent, arrived, stream, allowance⟩ := by
  refine ⟨ordered.follows, fun other found => ?_⟩
  cases found
  exact ordered

theorem append (ordered : channel.Ordered sent) (notClosed : channel.sentClose = false)
    {message : Message} (notEof : message.isEof = false) (notClose : message.isClose = false)
    (notData : message.isData = false) : channel.Ordered (sent ++ [message]) where
  toTidy := ordered.toTidy.append notClosed notEof notClose fun _ => notData
  finished := ordered.finished

end Channel.Ordered

section

variable {opts : Opts} {channel : Channel} {slot : Slot}

variable {sent : List Message}

theorem ordered_of_removed (follows : sent.Pairwise MayFollow) {arrived : Nat} {stream : Stream}
    {allowance : Allowance} :
    Slot.Ordered ⟨none, sent, arrived, stream, allowance⟩ :=
  ⟨follows, fun _ found => by cases found⟩

/-- The exit status is sent before the CLOSE. -/
theorem ends_closehandler (present : slot.channel = some channel) (tidy : channel.Tidy slot.sent)
    (notClosed : channel.sentClose = false) :
    Ends (fun _ after => after.channel = some channel ∧ channel.Tidy after.sent) EndsWell
      (closehandler opts channel slot) := by
  have unchanged : slot.channel = some channel ∧ channel.Tidy slot.sent := ⟨present, tidy⟩
  have requested : ∀ type, Ends
      (fun _ after => after.channel = some channel ∧ channel.Tidy after.sent) EndsWell
      (send (.request channel.remotechan type) slot) :=
    fun type => ⟨present, tidy.append notClosed rfl rfl fun _ => rfl⟩
  have handled : closehandler opts channel = pure () ∨ ∃ chansess,
      closehandler opts channel = sendExitsignalstatus opts channel.remotechan chansess := by
    rw [closehandler]
    split
    · exact .inr ⟨_, rfl⟩
    · exact .inl rfl
  rcases handled with nothing | ⟨chansess, status⟩
  · rw [nothing]
    exact unchanged
  · rw [status, sendExitsignalstatus]
    split
    · split
      · cases opts.signame chansess.exit.exitsignal with
        | none => exact unchanged
        | some name => exact requested _
      · split
        · exact ⟨tidy.disciplined present, by decide⟩
        · exact requested _
    · exact unchanged

theorem ends_sendMsgChannelClose (present : slot.channel = some channel)
    (tidy : channel.Tidy slot.sent) (notClosed : channel.sentClose = false) :
    Ends (fun _ after => after.sent.Pairwise MayFollow ∧
        after.channel = some (markClosed channel) ∧
        (channel.awaitOpen = false → (markClosed channel).Tidy after.sent)) EndsWell
      (sendMsgChannelClose opts slot) := by
  rw [sendMsgChannelClose, theChannel_bind present]
  apply (ends_closehandler present tidy notClosed).bind
  rintro _ after ⟨_, tidy⟩
  exact ⟨tidy.follows_append notClosed fun _ => ⟨rfl, rfl⟩, rfl,
    fun confirmed => tidy.appendClose notClosed confirmed _⟩

theorem ends_answerClose (present : slot.channel = some channel) (tidy : channel.Tidy slot.sent) :
    Ends (fun _ after => after.Ordered) EndsWell (answerClose opts channel slot) := by
  rw [answerClose]
  split
  case _ notClosed =>
    apply (ends_sendMsgChannelClose present tidy (Bool.eq_false_iff.2 notClosed)).bind
    rintro _ after ⟨follows, _⟩
    exact ordered_of_removed follows
  case _ => exact ordered_of_removed tidy.follows

theorem ends_eofIfDone (present : slot.channel = some channel) (tidy : channel.Tidy slot.sent) :
    Ends (fun _ after => ∃ channel', after.channel = some channel' ∧ channel'.Tidy after.sent ∧
      (channel'.Vacant → channel.Vacant)) EndsWell (eofIfDone slot) := by
  rw [eofIfDone, theChannel_bind present]
  split
  case _ done =>
    rw [sendMsgChannelEof, theChannel_bind present]
    exact ⟨_, rfl, tidy.appendEof (Bool.eq_false_iff.2 done.1) done.2 _, id⟩
  case _ => exact ⟨channel, present, tidy, id⟩

theorem Channel.Idle.not_writePending (idle : channel.Idle) : writePending channel = false := by
  rw [writePending, idle.same, idle.notOpen, idle.errfd]
  rfl

variable {allowed : Bool}

/-- **A vacant channel that has sent its EOF sends its CLOSE.** -/
theorem ends_closeIfDone (present : slot.channel = some channel) (tidy : channel.Tidy slot.sent)
    (vacantAllowed : channel.Vacant → allowed) :
    Ends (fun _ after => after.Ordered) EndsWell (closeIfDone opts allowed slot) := by
  rw [closeIfDone, theChannel_bind present]
  split
  case _ done =>
    have confirmed : channel.awaitOpen = false := by
      cases waits : channel.awaitOpen with
      | false => rfl
      | true =>
        have readfd := (tidy.awaiting waits).readfd
        have closed := done.1
        rw [Channel.readingDone, Bool.and_eq_true, decide_eq_true_eq] at closed
        rw [closed.1] at readfd
        cases readfd
    apply (ends_sendMsgChannelClose present tidy (Bool.eq_false_iff.2 done.2.2.1)).mono
    rintro _ after ⟨follows, isClosed, tidy'⟩
    refine ⟨follows, fun other found => ?_⟩
    cases isClosed.symm.trans found
    exact ⟨tidy' confirmed, fun _ _ => rfl⟩
  case _ notDone =>
    refine ⟨tidy.follows, fun other found => ?_⟩
    cases present.symm.trans found
    refine ⟨tidy, fun vacant sentEof => ?_⟩
    have idle := tidy.vacant vacant
    have reading := tidy.reading sentEof
    have readfd := reading
    rw [Channel.readingDone, Bool.and_eq_true, decide_eq_true_eq] at readfd
    by_contra notClosed
    exact notDone ⟨reading, idle.same.trans readfd.1, notClosed, vacantAllowed vacant,
      by rw [idle.not_writePending]; exact Bool.false_ne_true⟩

/-- Asking the type of a vacant channel whether it may be closed. -/
theorem closeAllowed_ordered {channel' : Channel} (ordered : channel.Ordered sent)
    (asked : closeAllowed channel = .ok (channel', allowed)) :
    channel'.Ordered sent ∧ (channel'.Vacant → allowed) := by
  rw [closeAllowed] at asked
  split at asked
  · cases asked
    exact ⟨ordered, fun _ => rfl⟩
  case _ session =>
    have session : channel.type = .svrchansess := by
      by_contra other
      exact session (.inl other)
    split at asked
    · cases asked
    case _ chansess there =>
      cases asked
      refine ⟨⟨ordered.toTidy.flush session _, ordered.finished⟩, ?_⟩
      rintro (pending | ⟨other, isThere, nothing⟩)
      · exact absurd session (ordered.pending pending).1
      · cases there.symm.trans isThere
        simp [nothing]

theorem Channel.Ordered.flushFds (ordered : channel.Ordered sent) (pending : ReadPending) :
    (flushFds channel pending).Ordered sent := by
  have closeIf : ∀ {channel : Channel}, channel.Ordered sent → channel.flushing →
      ∀ (condition : Prop) [Decidable condition] (fd : Fd),
        Channel.Ordered sent
          (if condition then Channels.closeChanFd channel fd .shutRd else channel) := by
    intro channel ordered flushing condition _ fd
    split
    · apply ordered.closeChanFd
      intro waits
      rw [(ordered.awaiting waits).flushing] at flushing
      cases flushing
    · exact ordered
  rw [Channels.flushFds]
  split
  case _ flushing =>
    dsimp only
    apply closeIf (closeIf ordered flushing _ _)
    split
    · exact flushing
    · exact flushing
  case _ => exact ordered

theorem Channel.Ordered.closeWritefd (ordered : channel.Ordered sent) (allowed : Bool) :
    (closeWritefd channel allowed).Ordered sent := by
  rw [Channels.closeWritefd]
  split
  · exact ordered.closeChanFd _ fun _ => nofun
  · exact ordered

theorem vacant_flushFds {pending : ReadPending} (vacant : (flushFds channel pending).Vacant) :
    channel.Vacant := by
  rw [flushFds] at vacant
  dsimp only at vacant
  split at vacant
  · split at vacant
    · split at vacant
      · exact vacant
      · exact vacant
    · split at vacant
      · exact vacant
      · exact vacant
  · exact vacant

theorem vacant_closeWritefd (vacant : (closeWritefd channel allowed).Vacant) :
    channel.Vacant := by
  rw [closeWritefd] at vacant
  split at vacant
  · exact vacant
  · exact vacant

/-- **Closing keeps the order.** -/
theorem ends_checkClose (present : slot.channel = some channel)
    (ordered : channel.Ordered slot.sent) (pending : ReadPending) :
    Ends (fun _ after => after.Ordered) EndsWell (checkClose opts pending slot) := by
  rw [checkClose, theChannel_bind present]
  apply ends_fromResult
  · intro failure failed
    cases failsOnly_closeAllowed channel failure failed
    exact ⟨ordered.disciplined present, by decide⟩
  · rintro ⟨channel', allowed⟩ asked
    obtain ⟨ordered, vacantAllowed⟩ := closeAllowed_ordered ordered asked
    have flushed := ordered.flushFds pending
    apply ends_setChannel
    split
    · exact ends_answerClose rfl flushed.toTidy
    · apply ends_setChannel
      refine Ends.bind (ends_eofIfDone rfl ?_) ?_
      · exact (flushed.closeWritefd allowed).toTidy
      rintro _ after ⟨channel', present, tidy, kept⟩
      apply ends_closeIfDone present tidy
      intro vacant
      exact vacantAllowed (vacant_flushFds (vacant_closeWritefd (kept vacant)))

end

end Dropbear.Channels
