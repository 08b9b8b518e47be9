/-
# The count of bytes in the write queue

`ses.writequeue_len` is to be the number of bytes that wait in `ses.writequeue`, and the session
loop reads from the other side and from the channels only while it is small.  It is kept by
`writebuf_enqueue` and `write_packet`.  A client that has been built with TCP fast open also
takes packets off the queue in `connect_try_next`, which does not touch the count.

One field of the state is not in the program: the number of bytes that fast open has taken.
-/

import Dropbear.Packet.WriteQueue

namespace Dropbear.Packet

open Program

/-! ## Connecting -/

/-- The result of `sendmsg` with `MSG_FASTOPEN`: how much is taken of what is offered,
`EINPROGRESS`, or another error. -/
inductive FastOpenResult where
  | sent (count : Nat)
  | inProgress
  | failed

/-- An address to connect to, with what the system calls answer for it: whether there is a
socket, whether it could be bound, the result of fast open, and whether `connect` succeeds or
goes on in the background. -/
structure Address where
  isUnix : Bool
  socket : Bool
  bound : Bool
  sendmsg : FastOpenResult
  connects : Bool

/-- The queue, and the connection that is being made. -/
structure Outgoing where
  ses : WriteQueue
  /-- `c->writequeue` is the session's queue. -/
  writequeue : Bool
  fastOpened : Nat

abbrev OutgoingM := EStateM Exit Outgoing

/-- A function that uses the queue only. -/
def onQueue {α : Type} (run : QueueM α) : OutgoingM α := fun out =>
  match run out.ses with
  | .ok value ses => .ok value { out with ses := ses }
  | .error failure ses => .error failure { out with ses := ses }

/-- Six buffers are offered with the first packet of the connection.  Returns whether the
connection has been started that way. -/
def fastOpen (platform : Platform) (result : FastOpenResult) : OutgoingM Bool := do
  let out ← get
  let iov ← onQueue (fromExcept (packetQueueToIovec platform.iovMax out.ses.writequeue 6))
  match result with
  | .sent count => do
    let bytes := iov.flatten.take count
    let queue ← onQueue (fromExcept (packetQueueConsume out.ses.writequeue bytes.length))
    set
      { out with
        ses := { out.ses with writequeue := queue, accepted := out.ses.accepted ++ bytes }
        fastOpened := out.fastOpened + bytes.length }
    pure true
  | .inProgress => pure true
  | .failed => do
    -- set to NULL to avoid trying again
    set { out with writequeue := false }
    pure false

/-- Try the addresses that are left, until one of them is being connected to. -/
def connectTryNext (platform : Platform) : List Address → OutgoingM (List Address)
  | [] => pure []
  | r :: rest =>
    if ¬ r.socket ∨ ¬ r.bound then connectTryNext platform rest
    else do
      let out ← get
      let fastopen ← if out.writequeue ∧ ¬ r.isUnix then fastOpen platform r.sendmsg else pure false
      -- normal connect(), used as fallback for TCP fastopen too
      if fastopen ∨ r.connects then pure rest else connectTryNext platform rest

inductive SessionEvent where
  | queue (event : QueueEvent)
  /-- The session loop sets one of its pending connections going. -/
  | connect (addresses : List Address)

def sessionStep (platform : Platform) : SessionEvent → OutgoingM Unit
  | .queue event => onQueue (queueStep platform event)
  | .connect addresses => do
    let _ ← connectTryNext platform addresses

/-- A session in the beginning: `cli_session` gives its queue to the connection that it is
started with, and `fast` says whether that is used. -/
def startSession (fast : Bool) : Outgoing where
  ses := initqueue
  writequeue := fast
  fastOpened := 0

/-! ## Flow control -/

/-- `writequeue_has_space` of the session loop. -/
def WriteQueue.hasSpace (ses : WriteQueue) : Bool := ses.writequeueLen ≤ 2 * transMaxPayloadLen

/-- Whether the loop waits for input from the other side. -/
def WriteQueue.readsPeer (ses : WriteQueue) (sockIn remoteident : Bool) : Bool :=
  sockIn && (remoteident || ses.writequeue.isEmpty) && ses.hasSpace

/-- Whether `setchannelfds` waits for input of a channel.  With a `read_mangler` it does so even
when nothing may be queued, since the input may end an interactive session. -/
def WriteQueue.readsChannel (ses : WriteQueue) (transwindow : Nat)
    (dataallowed readMangler : Bool) : Bool :=
  transwindow > 0 && ((dataallowed && ses.hasSpace) || readMangler)

/-- The count is that of the bytes that wait, and input is left alone because of it exactly
while there are too many. -/
structure Accounts (ses : WriteQueue) : Prop where
  count : ses.writequeueLen = (ses.writequeue.map fun writebuf => writebuf.len - writebuf.pos).sum
  peer : ∀ sockIn remoteident, ses.readsPeer sockIn remoteident =
    (sockIn && (remoteident || ses.writequeue.isEmpty) &&
      decide (¬ (pending ses.writequeue).length > 2 * transMaxPayloadLen))
  channels : ∀ transwindow dataallowed readMangler,
    ses.readsChannel transwindow dataallowed readMangler =
      (decide (transwindow > 0) && ((dataallowed &&
        decide (¬ (pending ses.writequeue).length > 2 * transMaxPayloadLen)) || readMangler))

theorem length_pending (queue : List Buffer) :
    (pending queue).length = (queue.map fun writebuf => writebuf.len - writebuf.pos).sum := by
  simp only [pending, List.length_flatten, List.map_map, Function.comp_def, Buffer.length_rest]

variable {ses : WriteQueue} {drift : Nat}

theorem Drifted.accounts (drifted : Drifted drift ses) :
    Accounts ses ↔ (pending ses.writequeue).length < 2 ^ 32 ∧ drift % 2 ^ 32 = 0 := by
  have length := drifted.length
  constructor
  · intro accounts
    have count := accounts.count
    rw [← length_pending, length, u32] at count
    omega
  · rintro ⟨few, none⟩
    have count : ses.writequeueLen = (pending ses.writequeue).length := by
      rw [length, u32]
      omega
    have space : ses.hasSpace = decide (¬ (pending ses.writequeue).length > 2 * transMaxPayloadLen) := by
      rw [WriteQueue.hasSpace, count]
      simp
    refine ⟨count.trans (length_pending _), fun _ _ => ?_, fun _ _ _ => ?_⟩
    · rw [WriteQueue.readsPeer, space]
    · rw [WriteQueue.readsChannel, space]

/-! ## Runs -/

/-- The count is too large by what fast open has taken. -/
def Outgoing.Drifts (out : Outgoing) : Prop := Drifted out.fastOpened out.ses

variable {out : Outgoing} {failed : Exit → Outgoing → Prop}

theorem ends_onQueue {α : Type} {returned : α → WriteQueue → Prop} {failed' : Exit → WriteQueue → Prop}
    {run : QueueM α} (ends : Ends returned failed' (run out.ses)) :
    Ends (fun value after => returned value after.ses ∧ after = { out with ses := after.ses })
      (fun failure after => failed' failure after.ses ∧ after = { out with ses := after.ses })
      (onQueue run out) := by
  rw [onQueue]
  cases ran : run out.ses with
  | ok value ses =>
    rw [ran] at ends
    exact ⟨ends, rfl⟩
  | error failure ses =>
    rw [ran] at ends
    exact ⟨ends, rfl⟩

theorem onQueue_ok {α : Type} (value : α) (out : Outgoing) :
    onQueue (fromExcept (.ok value)) out = .ok value out := rfl

theorem ends_fastOpen (platform : Platform) (drifts : out.Drifts) (result : FastOpenResult) :
    Ends (fun _ => Outgoing.Drifts) failed (fastOpen platform result out) := by
  rw [fastOpen, EStateM.get_bind_apply, packetQueueToIovec_eq drifts.unfinished,
    EStateM.bind_of_ok (onQueue_ok _ out)]
  cases result with
  | inProgress => exact drifts
  | failed => exact drifts
  | sent count =>
    have front := (List.take_prefix count _).trans (prefix_pending out.ses.writequeue
      (min (min out.ses.writequeue.length platform.iovMax) 6))
    dsimp only
    generalize List.take count _ = bytes at front
    obtain ⟨queue, consumed, left, unfinished⟩ :=
      packetQueueConsume_eq drifts.unfinished front.length_le
    rw [consumed, EStateM.bind_of_ok (onQueue_ok _ out)]
    -- the count is not changed, and so it is too large by what has been taken
    have taken := drifts.accepted front left unfinished
    refine ⟨taken.unfinished, taken.bytes, ?_⟩
    change out.ses.writequeueLen = u32 ((pending queue).length + (out.fastOpened + bytes.length))
    have shorter := front.length_le
    rw [drifts.length, left, List.length_drop]
    congr 1
    omega

theorem ends_connectTryNext (platform : Platform) (addresses : List Address) (drifts : out.Drifts) :
    Ends (fun _ => Outgoing.Drifts) failed (connectTryNext platform addresses out) := by
  induction addresses generalizing out with
  | nil => exact drifts
  | cons r rest ih =>
    rw [connectTryNext]
    split
    · exact ih drifts
    · rw [EStateM.get_bind_apply]
      have next : ∀ (fastopen : Bool) (middle : Outgoing), middle.Drifts →
          Ends (fun _ => Outgoing.Drifts) failed
            ((if fastopen ∨ r.connects then pure rest
              else connectTryNext platform rest : OutgoingM (List Address)) middle) := by
        intro fastopen middle drifts
        split
        · exact drifts
        · exact ih drifts
      split
      · exact (ends_fastOpen platform drifts r.sendmsg).bind next
      · exact next false out drifts

/-- The session goes on or is ended by the socket. -/
theorem ends_sessionStep (platform : Platform) (event : SessionEvent) (drifts : out.Drifts) :
    Ends (fun _ => Outgoing.Drifts) (fun failure _ => SocketFailure platform failure)
      (sessionStep platform event out) := by
  cases event with
  | connect addresses => exact (ends_connectTryNext platform addresses drifts).bind fun _ _ => id
  | queue event =>
    refine (ends_onQueue (keepsDrift_queueStep platform drifts event)).imp ?_ ?_
    · rintro _ after ⟨kept, same⟩
      rw [same]
      exact kept
    · rintro failure after ⟨⟨socket, _⟩, _⟩
      exact socket

/-- **In every state of a session the count of the queue is exact, and with it the flow control,
if and only if fast open has taken nothing off the queue**, up to multiples of the word size,
and fewer bytes wait than a word can count. -/
theorem accounts_iff (platform : Platform) (fast : Bool) (events : List SessionEvent)
    (out : Outgoing) :
    runAll (sessionStep platform) events (startSession fast) = .ok () out →
      (Accounts out.ses ↔
        (pending out.ses.writequeue).length < 2 ^ 32 ∧ out.fastOpened % 2 ^ 32 = 0) := by
  intro ran
  have always : AllMeet (sessionStep platform) (fun _ _ => True) events (startSession fast) :=
    allMeet_of_forall (fun _ _ _ => trivial) _
  have ends := ends_runAll _ (fun event _ _ => ends_sessionStep platform event) always
    (inOrder_iff.1 inOrder_initqueue)
  rw [ran] at ends
  exact Drifted.accounts ends

/-- A buffer with a packet of three bytes. -/
def threeBytes : Buffer := ⟨[1, 2, 3], 3, 0, by decide, by decide, by decide⟩

/-- Without fast open the count is exact. -/
theorem accounts_iff_plain :
    Accounts ⟨[threeBytes], 3, [], [[1, 2, 3]]⟩ :=
  (accounts_iff ⟨true, 1024, by decide, .exit "Remote host closed connection"⟩ false
    [.queue (.enqueue ⟨threeBytes, by decide⟩)] ⟨⟨[threeBytes], 3, [], [[1, 2, 3]]⟩, false, 0⟩
    rfl).2 ⟨by decide, rfl⟩

/-- Fast open takes two of three bytes, and three are counted. -/
theorem not_accounts_fastOpen :
    ∃ out, runAll (sessionStep ⟨true, 1024, by decide, .exit "Remote host closed connection"⟩)
      [.queue (.enqueue ⟨threeBytes, by decide⟩), .connect [⟨false, true, true, .sent 2, true⟩]]
      (startSession true) = .ok () out ∧ out.ses.writequeueLen = 3 ∧
        pending out.ses.writequeue = [3] ∧ ¬ Accounts out.ses := by
  refine ⟨⟨⟨[⟨[1, 2, 3], 3, 2, by decide, by decide, by decide⟩], 3, [1, 2], [[1, 2, 3]]⟩, true, 2⟩,
    rfl, rfl, rfl, fun accounts => ?_⟩
  exact absurd accounts.count (by decide)

end Dropbear.Packet
