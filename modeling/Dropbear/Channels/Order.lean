/-
# The order of the messages of a channel

One EOF, then no data; one CLOSE, then nothing.  The flags of the channel record
what has been sent, and a channel that has sent its EOF has closed what it read
from.

What a channel reads from is installed when it is opened, when a deferred
connection is made, when a session starts its command, or when the client's session
is confirmed.  Until then the channel is vacant, and to keep the order a vacant
channel that has sent its EOF has to send its CLOSE as well.
-/

import Dropbear.Channels.Requests

namespace Dropbear.Channels

open Program

namespace Message

def isEof : Message → Bool
  | .eof _ => true
  | _ => false

def isClose : Message → Bool
  | .close _ => true
  | _ => false

end Message

/-- The later message may follow the earlier one. -/
def MayFollow (earlier later : Message) : Prop :=
  earlier.isClose = false ∧ (earlier.isEof → later.isEof = false ∧ later.isData = false)

/-- The channel has not got its descriptors yet: a connection is pending, or a session
has not started a command. -/
def Channel.Vacant (channel : Channel) : Prop :=
  channel.connPending ∨ ∃ chansess, channel.typedata = some chansess ∧ chansess.pid = 0

/-- The descriptors of a vacant channel are not open, and those for reading and
writing are the same. -/
structure Channel.Idle (channel : Channel) : Prop where
  same : channel.writefd = channel.readfd
  notOpen : channel.readfd.isOpen = false
  errfd : channel.errfd = .closed
  errfdIsRead : channel.errfdIsRead
  bidirFd : channel.bidirFd = false

/-- A channel that the peer has not confirmed yet reads nothing. -/
structure Channel.Awaiting (channel : Channel) : Prop where
  bidirFd : channel.bidirFd
  readfd : channel.readfd.isOpen
  transmaxpacket : channel.transmaxpacket = 0
  sentEof : channel.sentEof = false
  flushing : channel.flushing = false
  type : channel.type ≠ .svrchansess
  typedata : channel.typedata = none

/-- The flags and descriptors of a channel go with the messages sent. -/
structure Channel.Tidy (sent : List Message) (channel : Channel) : Prop where
  follows : sent.Pairwise MayFollow
  eofs : channel.sentEof = false → ∀ message ∈ sent, message.isEof = false
  closes : channel.sentClose = false → ∀ message ∈ sent, message.isClose = false
  reading : channel.sentEof → channel.readingDone
  closed : channel.sentClose → channel.sentEof ∧ channel.readfd = .closed ∧
    channel.writefd = .closed ∧ channel.errfd = .closed
  bidirFd : channel.bidirFd → channel.errfd = .closed
  vacant : channel.Vacant → channel.Idle
  awaiting : channel.awaitOpen → channel.Awaiting
  pending : channel.connPending → channel.type ≠ .svrchansess ∧ channel.typedata = none ∧
    channel.awaitOpen = false

/-- The channel is tidy between events. -/
structure Channel.Ordered (sent : List Message) (channel : Channel) : Prop extends
    channel.Tidy sent where
  finished : channel.Vacant → channel.sentEof → channel.sentClose

def Slot.Ordered (slot : Slot) : Prop :=
  slot.sent.Pairwise MayFollow ∧ ∀ channel, slot.channel = some channel → channel.Ordered slot.sent

/-- **The discipline**: at most one EOF and one CLOSE, no data after the EOF, nothing
after the CLOSE, and no open descriptor once it has been sent. -/
structure Slot.Disciplined (slot : Slot) : Prop where
  oneEof : slot.sent.countP Message.isEof ≤ 1
  oneClose : slot.sent.countP Message.isClose ≤ 1
  order : slot.sent.Pairwise fun earlier later =>
    earlier.isClose = false ∧ (earlier.isEof → later.isData = false)
  closed : ∀ channel, slot.channel = some channel → channel.sentClose →
    channel.readfd.isOpen = false ∧ channel.writefd.isOpen = false ∧ channel.errfd.isOpen = false

theorem countP_le_one {α : Type} {chosen : α → Bool} {values : List α}
    (apart : values.Pairwise fun earlier later => chosen earlier → chosen later = false) :
    values.countP chosen ≤ 1 := by
  induction values with
  | nil => exact Nat.zero_le _
  | cons value rest ih =>
    obtain ⟨first, rest'⟩ := List.pairwise_cons.1 apart
    rw [List.countP_cons]
    split
    case _ isChosen =>
      have none : rest.countP chosen = 0 :=
        List.countP_eq_zero.2 fun later there => by simp [first later there isChosen]
      omega
    case _ => exact ih rest'

theorem disciplined_of_follows {slot : Slot} (follows : slot.sent.Pairwise MayFollow)
    (closed : ∀ channel, slot.channel = some channel → channel.sentClose →
      channel.readfd.isOpen = false ∧ channel.writefd.isOpen = false ∧
        channel.errfd.isOpen = false) : slot.Disciplined where
  oneEof := countP_le_one (follows.imp fun may isEof => (may.2 isEof).1)
  oneClose := by
    apply countP_le_one
    apply follows.imp
    intro earlier later may isClose
    rw [may.1] at isClose
    cases isClose
  order := follows.imp fun may => ⟨may.1, fun isEof => (may.2 isEof).2⟩
  closed := closed

theorem Channel.Tidy.disciplined {channel : Channel} {slot : Slot} (tidy : channel.Tidy slot.sent)
    (present : slot.channel = some channel) : slot.Disciplined := by
  apply disciplined_of_follows tidy.follows
  intro other found sentClose
  cases present.symm.trans found
  obtain ⟨_, readfd, writefd, errfd⟩ := tidy.closed sentClose
  rw [readfd, writefd, errfd]
  exact ⟨rfl, rfl, rfl⟩

theorem Slot.Ordered.disciplined {slot : Slot} (ordered : slot.Ordered) : slot.Disciplined := by
  cases present : slot.channel with
  | some channel => exact (ordered.2 channel present).disciplined present
  | none =>
    apply disciplined_of_follows ordered.1
    intro channel found
    rw [present] at found
    cases found

/-! ## Changes of the channel -/

/-- The fields that the order is about. -/
def Channel.orderly (channel : Channel) : ChanType × Option ChanSess × Fd × Fd × Fd × Bool × Bool ×
    Bool × Bool × Bool × Bool × Bool × Nat :=
  (channel.type, channel.typedata, channel.readfd, channel.writefd, channel.errfd,
    channel.errfdIsRead, channel.bidirFd, channel.sentEof, channel.sentClose, channel.connPending,
    channel.awaitOpen, channel.flushing, channel.transmaxpacket)

namespace Channel.Tidy

variable {sent : List Message} {channel channel' : Channel}

theorem congr (tidy : channel.Tidy sent) (same : channel'.orderly = channel.orderly) :
    channel'.Tidy sent := by
  simp only [orderly, Prod.mk.injEq] at same
  obtain ⟨type, typedata, readfd, writefd, errfd, errfdIsRead, bidirFd, sentEof, sentClose,
    connPending, awaitOpen, flushing, transmaxpacket⟩ := same
  constructor
  · exact tidy.follows
  · rw [sentEof]
    exact tidy.eofs
  · rw [sentClose]
    exact tidy.closes
  · rw [sentEof, readingDone, readfd, errfd, errfdIsRead]
    exact tidy.reading
  · rw [sentClose, sentEof, readfd, writefd, errfd]
    exact tidy.closed
  · rw [bidirFd, errfd]
    exact tidy.bidirFd
  · intro vacant
    rw [Vacant, connPending, typedata] at vacant
    have idle := tidy.vacant vacant
    exact ⟨by rw [writefd, readfd, idle.same], by rw [readfd, idle.notOpen],
      by rw [errfd, idle.errfd], by rw [errfdIsRead, idle.errfdIsRead], by rw [bidirFd, idle.bidirFd]⟩
  · intro waits
    rw [awaitOpen] at waits
    have awaiting := tidy.awaiting waits
    exact ⟨by rw [bidirFd, awaiting.bidirFd], by rw [readfd, awaiting.readfd],
      by rw [transmaxpacket, awaiting.transmaxpacket], by rw [sentEof, awaiting.sentEof],
      by rw [flushing, awaiting.flushing], by rw [type]; exact awaiting.type,
      by rw [typedata, awaiting.typedata]⟩
  · rw [connPending, type, typedata, awaitOpen]
    exact tidy.pending

/-- Only a confirmed channel is flushed. -/
theorem flush (tidy : channel.Tidy sent) (session : channel.type = .svrchansess) (flushing : Bool) :
    ({ channel with flushing := flushing } : Channel).Tidy sent :=
  { tidy with
    vacant := fun vacant => { tidy.vacant vacant with }
    awaiting := fun waits => absurd session (tidy.awaiting waits).type }

theorem ite_eq_closed {condition : Prop} [Decidable condition] {fd : Fd} (closed : fd = .closed) :
    (if condition then .closed else fd) = Fd.closed := by
  split
  · rfl
  · exact closed

/-- Closing descriptors keeps the order, unless the channel is waiting to be confirmed. -/
theorem closeChanFd (tidy : channel.Tidy sent) (fd : Fd) {how : How}
    (confirmed : channel.awaitOpen → how ≠ .shutRd) :
    (closeChanFd channel fd how).Tidy sent where
  follows := tidy.follows
  eofs := tidy.eofs
  closes := tidy.closes
  reading sentEof := by
    have done := tidy.reading sentEof
    rw [readingDone, Bool.and_eq_true, Bool.or_eq_true, decide_eq_true_eq, decide_eq_true_eq]
      at done ⊢
    exact ⟨ite_eq_closed done.1, done.2.imp_right fun closed => ite_eq_closed (ite_eq_closed closed)⟩
  closed sentClose := by
    obtain ⟨sentEof, readfd, writefd, errfd⟩ := tidy.closed sentClose
    exact ⟨sentEof, ite_eq_closed readfd, ite_eq_closed writefd, ite_eq_closed (ite_eq_closed errfd)⟩
  bidirFd bidirFd := ite_eq_closed (ite_eq_closed (tidy.bidirFd bidirFd))
  vacant vacant := by
    have idle := tidy.vacant vacant
    have bidirFd := idle.bidirFd
    refine ⟨?_, ?_, ite_eq_closed (ite_eq_closed idle.errfd), idle.errfdIsRead, bidirFd⟩
    · simp [Channels.closeChanFd, idle.same, bidirFd]
    · change Fd.isOpen (if _ then _ else _) = false
      split
      · rfl
      · exact idle.notOpen
  awaiting waits := by
    have awaiting := tidy.awaiting waits
    refine { awaiting with readfd := ?_ }
    change Fd.isOpen (if _ then _ else _) = true
    rw [if_neg]
    · exact awaiting.readfd
    · simp [awaiting.bidirFd, confirmed waits]
  pending := tidy.pending

/-- A message goes to the end of the list. -/
theorem follows_append (tidy : channel.Tidy sent) (notClosed : channel.sentClose = false)
    {message : Message}
    (mayCome : channel.sentEof → message.isEof = false ∧ message.isData = false) :
    (sent ++ [message]).Pairwise MayFollow := by
  rw [List.pairwise_append]
  refine ⟨tidy.follows, List.pairwise_singleton _ _, ?_⟩
  intro earlier there later isLast
  cases List.mem_singleton.1 isLast
  refine ⟨tidy.closes notClosed earlier there, fun isEof => ?_⟩
  cases sentEof : channel.sentEof with
  | true => exact mayCome sentEof
  | false =>
    rw [tidy.eofs sentEof earlier there] at isEof
    cases isEof

/-- A message other than an EOF and a CLOSE changes nothing in the channel. -/
theorem append (tidy : channel.Tidy sent) (notClosed : channel.sentClose = false)
    {message : Message} (notEof : message.isEof = false) (notClose : message.isClose = false)
    (mayCome : channel.sentEof → message.isData = false) : channel.Tidy (sent ++ [message]) :=
  { tidy with
    follows := tidy.follows_append notClosed fun sentEof => ⟨notEof, mayCome sentEof⟩
    eofs := by
      intro noEof other there
      rcases List.mem_append.1 there with there | isLast
      · exact tidy.eofs noEof other there
      · cases List.mem_singleton.1 isLast
        exact notEof
    closes := by
      intro _ other there
      rcases List.mem_append.1 there with there | isLast
      · exact tidy.closes notClosed other there
      · cases List.mem_singleton.1 isLast
        exact notClose }

theorem notClosed_of_noEof (tidy : channel.Tidy sent) (noEof : channel.sentEof = false) :
    channel.sentClose = false := by
  cases sentClose : channel.sentClose with
  | false => rfl
  | true =>
    have sentEof := (tidy.closed sentClose).1
    rw [noEof] at sentEof
    cases sentEof

/-- The EOF is sent when nothing is read any more. -/
theorem appendEof (tidy : channel.Tidy sent) (noEof : channel.sentEof = false)
    (done : channel.readingDone) (remotechan : Nat) :
    ({ channel with sentEof := true } : Channel).Tidy (sent ++ [.eof remotechan]) := by
  have notClosed := tidy.notClosed_of_noEof noEof
  have notAwaiting : channel.awaitOpen = true → False := by
    intro waits
    have readfd := (tidy.awaiting waits).readfd
    rw [readingDone, Bool.and_eq_true, decide_eq_true_eq] at done
    rw [done.1] at readfd
    cases readfd
  refine { tidy with
    follows := tidy.follows_append notClosed fun sentEof => ?_
    eofs := nofun
    closes := ?_
    reading := fun _ => done
    closed := fun sentClose => ⟨rfl, (tidy.closed sentClose).2⟩
    vacant := fun vacant => { tidy.vacant vacant with }
    awaiting := fun waits => (notAwaiting waits).elim }
  · rw [noEof] at sentEof
    cases sentEof
  · intro _ other there
    rcases List.mem_append.1 there with there | isLast
    · exact tidy.closes notClosed other there
    · cases List.mem_singleton.1 isLast
      rfl

/-- No descriptor is left once the CLOSE has been sent. -/
theorem markClosed_fds (tidy : channel.Tidy sent) :
    (markClosed channel).readfd = .closed ∧ (markClosed channel).writefd = .closed ∧
      (markClosed channel).errfd = .closed := by
  cases bidirFd : channel.bidirFd with
  | false =>
    cases errfdIsRead : channel.extrabuf.isNone <;>
      simp [markClosed, Channels.closeChanFd, errfdIsRead, Channel.errfdIsRead, bidirFd]
  | true =>
    have errfd := tidy.bidirFd bidirFd
    simp [markClosed, Channels.closeChanFd, bidirFd, errfd]

/-- The channel after its CLOSE has been sent. -/
theorem appendClose (tidy : channel.Tidy sent) (notClosed : channel.sentClose = false)
    (confirmed : channel.awaitOpen = false) (remotechan : Nat) :
    (markClosed channel).Tidy (sent ++ [.close remotechan]) := by
  obtain ⟨readfd, writefd, errfd⟩ := tidy.markClosed_fds
  constructor
  · exact tidy.follows_append notClosed fun _ => ⟨rfl, rfl⟩
  · nofun
  · nofun
  · intro _
    simp [readingDone, readfd, errfd]
  · intro _
    exact ⟨rfl, readfd, writefd, errfd⟩
  · intro _
    exact errfd
  · intro vacant
    have idle := tidy.vacant vacant
    exact ⟨writefd.trans readfd.symm, by rw [readfd]; rfl, errfd, idle.errfdIsRead, idle.bidirFd⟩
  · intro waits
    rw [show (markClosed channel).awaitOpen = channel.awaitOpen from rfl, confirmed] at waits
    cases waits
  · exact tidy.pending

end Channel.Tidy

end Dropbear.Channels
