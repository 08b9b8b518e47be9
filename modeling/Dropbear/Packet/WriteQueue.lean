/-
# The queue of packets to write

`writebuf_enqueue` and `write_packet` of `packet.c`, with `packet_queue_to_iovec` and
`packet_queue_consume` of `netio.c`.  Where the system has `writev` several packets are
offered to the socket at once, and otherwise the first one.  The socket takes any number of
the bytes from the front, or none for now.

Two fields of the state are not in the program: the bytes that the socket has accepted, and
the packets that have been enqueued.
-/

import Dropbear.Buffer.Consume
import Dropbear.Packet.Frame
import Dropbear.Program.Spec

namespace Dropbear.Packet

open Program

/-- A packet is not empty. -/
structure OutPacket where
  writebuf : Buffer
  nonempty : 0 < writebuf.len

/-- What `encrypt_packet` enqueues is a packet: there is at least its header. -/
theorem exists_outPacket {σ ζ : Type} {ses ses' : Transmit σ ζ} {random : Nat → UInt8}
    {writepayload : Buffer} (enqueued : enqueuePacket random ses writepayload = .ok ses') :
    ∃ packet : OutPacket, ses'.writequeue = ses.writequeue ++ [packet.writebuf] := by
  suffices returns : Returns False (fun ses' : Transmit σ ζ => ∃ packet : OutPacket,
      ses'.writequeue = ses.writequeue ++ [packet.writebuf])
      (enqueuePacket random ses writepayload) from returns.sound ses' enqueued
  refine (returns_bufNew False.elim).bind fun b₁ _ => ?_
  refine (returns_bufSetlen False.elim).bind ?_
  rintro b₂ ⟨_, len₂⟩
  refine (returns_bufSetpos False.elim).bind ?_
  rintro b₃ ⟨_, _, len₃, pos₃⟩
  refine ((returns_putPayload (by omega)).mono False.elim fun _ => id).bind ?_
  rintro ⟨keys, b₄⟩ ⟨body, _, _, _, contents, _⟩
  have header : 5 ≤ b₄.len := by
    rw [← Buffer.length_contents, contents, List.length_append, Buffer.length_contents]
    omega
  refine ((returns_putHeader random header).mono False.elim fun _ => id).bind ?_
  rintro b₅ ⟨padding, framed, _⟩
  refine (returns_protectWritebuf.mono False.elim fun _ => id).bind ?_
  rintro ⟨keys', b₆⟩ ⟨_, form, _⟩
  refine (returns_bufSetpos False.elim).bind ?_
  rintro b₇ ⟨_, _, len₇, _⟩
  have long := le_of_protectedForm form
  rw [framed, length_frame, Buffer.length_contents] at long
  dsimp only at long
  exact .ok ⟨⟨b₇, by omega⟩, rfl⟩

/-- The result of `write` or `writev`: how much the socket takes of what it is offered, or an
error, which is passing for `EINTR` and `EAGAIN`. -/
inductive WriteResult where
  | wrote (count : Nat)
  | failed (passing : Bool)
  deriving DecidableEq, Repr

/-- What the write queue depends on: whether there is `writev`, the number of buffers it
takes, and how the session ends when the other side has closed the connection. -/
structure Platform where
  haveWritev : Bool
  iovMax : Nat
  iovMax_pos : 0 < iovMax
  remoteclosed : Exit

/-- The write queue, and what has gone through it. -/
structure WriteQueue where
  writequeue : List Buffer
  writequeueLen : Nat
  accepted : Bytes
  enqueued : List Bytes
  deriving DecidableEq, Repr

abbrev QueueM := EStateM Exit WriteQueue

def fromExcept {α : Type} : Except Exit α → QueueM α
  | .ok value => pure value
  | .error failure => throw failure

def initqueue : WriteQueue where
  writequeue := []
  writequeueLen := 0
  accepted := []
  enqueued := []

/-- Enqueue the packet for sending. -/
def writebufEnqueue (packet : OutPacket) : QueueM Unit := do
  let writebuf ← fromExcept (bufSetpos packet.writebuf 0)
  modify fun ses =>
    { ses with
      writequeue := ses.writequeue ++ [writebuf]
      writequeueLen := u32 (ses.writequeueLen + writebuf.len)
      enqueued := ses.enqueued ++ [writebuf.contents] }

/-- What is left of a packet, which must not be nothing. -/
def remaining (writebuf : Buffer) : Except Exit Bytes := do
  let len := writebuf.len - writebuf.pos
  if ¬ len > 0 then throw (.assertion "len > 0")
  let ptr ← bufGetptr writebuf len
  writebuf.peek ptr len

/-- The buffers that are offered to the socket, at most `iovCount`. -/
def packetQueueToIovec (iovMax : Nat) (queue : List Buffer) (iovCount : Nat) :
    Except Exit (List Bytes) :=
  (queue.take (min (min queue.length iovMax) iovCount)).mapM remaining

/-- Take what has been written off the queue. -/
def packetQueueConsume : List Buffer → Nat → Except Exit (List Buffer)
  | queue, 0 => .ok queue
  | [], _ + 1 => .error (.assertion "!isempty(queue)")
  | writebuf :: rest, written + 1 =>
    let len := writebuf.len - writebuf.pos
    if len > written + 1 then do
      -- partial buffer write
      let writebuf ← bufIncrpos writebuf (written + 1)
      pure (writebuf :: rest)
    else packetQueueConsume rest (written + 1 - len)

/-- The bytes are the socket's, and the queue is what is left. -/
def accept (bytes : Bytes) (queue : List Buffer) : QueueM Unit :=
  modify fun ses =>
    { ses with
      writequeue := queue
      writequeueLen := sub32 ses.writequeueLen bytes.length
      accepted := ses.accepted ++ bytes }

/-- `write_packet` with `writev`, which 50 buffers are offered to at once. -/
def writePacketWritev (platform : Platform) (result : WriteResult) : QueueM Unit := do
  let ses ← get
  if ses.writequeue = [] then throw (.assertion "!isempty(&ses.writequeue)")
  else do
    let iov ← fromExcept (packetQueueToIovec platform.iovMax ses.writequeue 50)
    match result with
    | .failed true => pure ()
    | .failed false => throw (.exit "Error writing: %s")
    | .wrote count => do
      let bytes := iov.flatten.take count
      let queue ← fromExcept (packetQueueConsume ses.writequeue bytes.length)
      accept bytes queue
      if bytes.length = 0 then throw platform.remoteclosed else pure ()

/-- `write_packet` with `write`. -/
def writePacketPlain (platform : Platform) (result : WriteResult) : QueueM Unit := do
  let ses ← get
  match ses.writequeue with
  | [] => throw (.assertion "!isempty(&ses.writequeue)")
  | writebuf :: rest => do
    let offered ← fromExcept (remaining writebuf)
    match result with
    | .failed true => pure ()
    | .failed false => throw (.exit "Error writing: %s")
    | .wrote count =>
      let bytes := offered.take count
      if bytes.length = 0 then throw platform.remoteclosed
      else if bytes.length = offered.length then accept bytes rest
      else do
        -- more packet left to write, leave it in the queue for later
        let writebuf ← fromExcept (bufIncrpos writebuf bytes.length)
        accept bytes (writebuf :: rest)

/-- Non-blocking function writing out a current encrypted packet. -/
def writePacket (platform : Platform) (result : WriteResult) : QueueM Unit :=
  if platform.haveWritev then writePacketWritev platform result
  else writePacketPlain platform result

inductive QueueEvent where
  | enqueue (packet : OutPacket)
  /-- The session loop finds that the socket can be written to. -/
  | write (result : WriteResult)

/-- The session loop writes only if there is something to write. -/
def queueStep (platform : Platform) : QueueEvent → QueueM Unit
  | .enqueue packet => writebufEnqueue packet
  | .write result => do
    let ses ← get
    if ses.writequeue = [] then pure () else writePacket platform result

/-! ## What is left in the queue -/

/-- The bytes that are still to be written. -/
def pending (queue : List Buffer) : Bytes := (queue.map Buffer.rest).flatten

/-- No packet in the queue has been written to its end. -/
def Unfinished (queue : List Buffer) : Prop := ∀ writebuf ∈ queue, writebuf.pos < writebuf.len

variable {writebuf : Buffer}

theorem remaining_eq (unfinished : writebuf.pos < writebuf.len) :
    remaining writebuf = .ok writebuf.rest := by
  have length := writebuf.length_rest
  have small : writebuf.rest.length ≤ bufMaxIncr := by
    have := writebuf.len_le_max
    rw [length]
    exact Nat.le_trans (Nat.sub_le _ _) this
  obtain ⟨pointed, read⟩ := bufGetptr_peek small (List.prefix_refl _)
  rw [length] at pointed read
  rw [remaining]
  dsimp only
  rw [if_neg (by omega), pointed, Except.ok_bind]
  exact read

variable {queue : List Buffer}

theorem mapM_remaining (unfinished : Unfinished queue) :
    queue.mapM remaining = .ok (queue.map Buffer.rest) := by
  induction queue with
  | nil => rfl
  | cons writebuf rest ih =>
    have others : Unfinished rest := fun other isIn =>
      unfinished other (List.mem_cons_of_mem _ isIn)
    rw [List.mapM_cons, remaining_eq (unfinished writebuf (List.mem_cons_self ..)), ih others]
    rfl

theorem packetQueueToIovec_eq (unfinished : Unfinished queue) (iovMax iovCount : Nat) :
    packetQueueToIovec iovMax queue iovCount =
      .ok ((queue.take (min (min queue.length iovMax) iovCount)).map Buffer.rest) :=
  mapM_remaining fun writebuf isIn => unfinished writebuf (List.mem_of_mem_take isIn)

theorem pending_cons (writebuf : Buffer) (rest : List Buffer) :
    pending (writebuf :: rest) = writebuf.rest ++ pending rest := rfl

variable {written : Nat}

/-- Part of a packet is written, and not all of it. -/
theorem bufIncrpos_of_short (inside : written < writebuf.rest.length) :
    bufIncrpos writebuf written = .ok (writebuf.skip written) ∧
      (writebuf.skip written).rest = writebuf.rest.drop written ∧
        (writebuf.skip written).pos < (writebuf.skip written).len := by
  have length := writebuf.length_rest
  have fits := writebuf.len_le_max
  have small : written ≤ bufMaxIncr := Nat.le_trans (by omega : written ≤ writebuf.len) fits
  refine ⟨bufIncrpos_eq_skip small (Nat.le_of_lt inside), writebuf.rest_skip written, ?_⟩
  rw [writebuf.pos_skip (Nat.le_of_lt inside)]
  change writebuf.pos + written < writebuf.len
  omega

/-- Consuming takes the bytes from the front. -/
theorem packetQueueConsume_eq (unfinished : Unfinished queue)
    (enough : written ≤ (pending queue).length) :
    ∃ queue', packetQueueConsume queue written = .ok queue' ∧
      pending queue' = (pending queue).drop written ∧ Unfinished queue' := by
  induction queue generalizing written with
  | nil =>
    obtain rfl : written = 0 := Nat.le_zero.1 enough
    exact ⟨[], rfl, rfl, unfinished⟩
  | cons writebuf rest ih =>
    have others : Unfinished rest := fun other isIn =>
      unfinished other (List.mem_cons_of_mem _ isIn)
    have length := writebuf.length_rest
    rw [pending_cons, List.length_append] at enough
    cases written with
    | zero => exact ⟨writebuf :: rest, rfl, rfl, unfinished⟩
    | succ written =>
      rw [packetQueueConsume]
      by_cases more : writebuf.len - writebuf.pos > written + 1
      · have inside : written + 1 < writebuf.rest.length := by omega
        obtain ⟨moved, left, notDone⟩ := bufIncrpos_of_short inside
        refine ⟨writebuf.skip (written + 1) :: rest, ?_, ?_, ?_⟩
        · rw [if_pos more, moved]
          rfl
        · rw [pending_cons, left, pending_cons, List.drop_append_of_le_length (Nat.le_of_lt inside)]
        · intro other isIn
          rcases List.mem_cons.1 isIn with rfl | isIn
          · exact notDone
          · exact others other isIn
      · rw [if_neg more, ← length]
        have enough' : written + 1 - writebuf.rest.length ≤ (pending rest).length := by omega
        obtain ⟨queue', consumed, left, unfinished'⟩ := ih others enough'
        refine ⟨queue', consumed, ?_, unfinished'⟩
        have written : writebuf.rest.length ≤ written + 1 := by omega
        rw [left, pending_cons, List.drop_append, List.drop_eq_nil_of_le written, List.nil_append]

/-! ## Order -/

/-- The bytes that the socket has accepted, followed by those in the queue, are those of the
packets that have been enqueued. -/
structure InOrder (ses : WriteQueue) : Prop where
  unfinished : Unfinished ses.writequeue
  bytes : ses.accepted ++ pending ses.writequeue = ses.enqueued.flatten
  length : ses.writequeueLen = u32 (pending ses.writequeue).length

/-- The same, with a count that is too large by `drift`. -/
structure Drifted (drift : Nat) (ses : WriteQueue) : Prop where
  unfinished : Unfinished ses.writequeue
  bytes : ses.accepted ++ pending ses.writequeue = ses.enqueued.flatten
  length : ses.writequeueLen = u32 ((pending ses.writequeue).length + drift)

theorem inOrder_iff {ses : WriteQueue} : InOrder ses ↔ Drifted 0 ses :=
  ⟨fun writes => ⟨writes.1, writes.2, writes.3⟩, fun writes => ⟨writes.1, writes.2, writes.3⟩⟩

/-- The ways in which the socket ends the session. -/
def SocketFailure (platform : Platform) (failure : Exit) : Prop :=
  failure = platform.remoteclosed ∨ failure = .exit "Error writing: %s"

/-- The session goes on with its bytes in order, or ends because of the socket. -/
def Orderly (platform : Platform) (result : EStateM.Result Exit WriteQueue Unit) : Prop :=
  Ends (fun _ => InOrder) (fun failure ses => SocketFailure platform failure ∧ InOrder ses) result

/-- The session goes on with a count that has drifted as before, or ends because of the
socket. -/
def KeepsDrift (drift : Nat) (platform : Platform)
    (result : EStateM.Result Exit WriteQueue Unit) : Prop :=
  Ends (fun _ => Drifted drift) (fun failure ses => SocketFailure platform failure ∧
    Drifted drift ses) result

theorem fromExcept_ok_bind {α β : Type} (value : α) (next : α → QueueM β) :
    (fromExcept (.ok value) >>= next) = next value := rfl

/-- The state after the socket has taken bytes. -/
def WriteQueue.afterAccept (ses : WriteQueue) (bytes : Bytes) (queue : List Buffer) : WriteQueue :=
  { ses with
    writequeue := queue
    writequeueLen := sub32 ses.writequeueLen bytes.length
    accepted := ses.accepted ++ bytes }

theorem inOrder_initqueue : InOrder initqueue where
  unfinished := nofun
  bytes := rfl
  length := rfl

variable {ses : WriteQueue} {drift : Nat}

/-- The socket takes bytes from the front of the queue. -/
theorem Drifted.accepted (drifted : Drifted drift ses) {bytes : Bytes}
    (front : bytes <+: pending ses.writequeue)
    (left : pending queue = (pending ses.writequeue).drop bytes.length)
    (unfinished : Unfinished queue) : Drifted drift (ses.afterAccept bytes queue) where
  unfinished := unfinished
  bytes := by
    obtain ⟨tail, whole⟩ := front
    have behind : pending queue = tail := by rw [left, ← whole, List.drop_left]
    change ses.accepted ++ bytes ++ pending queue = ses.enqueued.flatten
    rw [behind, List.append_assoc, whole, drifted.bytes]
  length := by
    have shorter := front.length_le
    change sub32 ses.writequeueLen bytes.length = u32 ((pending queue).length + drift)
    rw [left, List.length_drop, drifted.length]
    simp only [sub32, u32]
    omega

theorem keepsDrift_writebufEnqueue (platform : Platform) (drifted : Drifted drift ses)
    (packet : OutPacket) : KeepsDrift drift platform (writebufEnqueue packet ses) := by
  obtain ⟨writebuf, moved, data, len, pos⟩ := exists_bufSetpos packet.writebuf 0 (Nat.zero_le _)
  have whole : writebuf.rest = writebuf.contents := by rw [Buffer.rest, pos, List.drop_zero]
  have added : pending (ses.writequeue ++ [writebuf]) =
      pending ses.writequeue ++ writebuf.contents := by
    rw [pending, List.map_append, List.flatten_append, ← pending, List.map_singleton,
      List.flatten_singleton, whole]
  rw [writebufEnqueue, moved]
  change Drifted drift _
  refine ⟨?_, ?_, ?_⟩
  · intro other isIn
    rcases List.mem_append.1 isIn with isIn | isIn
    · exact drifted.unfinished other isIn
    · rw [List.mem_singleton.1 isIn, pos, len]
      exact packet.nonempty
  · change ses.accepted ++ pending (ses.writequeue ++ [writebuf]) =
      (ses.enqueued ++ [writebuf.contents]).flatten
    rw [added, ← List.append_assoc, drifted.bytes, List.flatten_append, List.flatten_singleton]
  · change u32 (ses.writequeueLen + writebuf.len) =
      u32 ((pending (ses.writequeue ++ [writebuf])).length + drift)
    rw [added, List.length_append, writebuf.length_contents, drifted.length, u32, u32, u32]
    omega

/-- What is offered to `writev` is the front of the queue. -/
theorem prefix_pending (queue : List Buffer) (n : Nat) :
    ((queue.take n).map Buffer.rest).flatten <+: pending queue := by
  refine ⟨pending (queue.drop n), ?_⟩
  rw [pending, pending, ← List.flatten_append, ← List.map_append, List.take_append_drop]

theorem keepsDrift_writePacketWritev (platform : Platform) (drifted : Drifted drift ses)
    (more : ses.writequeue ≠ []) (result : WriteResult) :
    KeepsDrift drift platform (writePacketWritev platform result ses) := by
  rw [writePacketWritev, EStateM.get_bind_apply, if_neg more,
    packetQueueToIovec_eq drifted.unfinished]
  cases result with
  | failed passing =>
    cases passing with
    | true => exact drifted
    | false => exact ⟨.inr rfl, drifted⟩
  | wrote count =>
    have front := (List.take_prefix count _).trans (prefix_pending ses.writequeue
      (min (min ses.writequeue.length platform.iovMax) 50))
    obtain ⟨queue, consumed, left, unfinished⟩ :=
      packetQueueConsume_eq drifted.unfinished front.length_le
    have kept := drifted.accepted front left unfinished
    rw [fromExcept_ok_bind]
    dsimp only
    rw [consumed, fromExcept_ok_bind]
    change KeepsDrift drift platform ((if _ = 0 then _ else _ : QueueM Unit) (ses.afterAccept _ queue))
    split
    · exact ⟨.inl rfl, kept⟩
    · exact kept

theorem keepsDrift_writePacketPlain (platform : Platform) (drifted : Drifted drift ses)
    (more : ses.writequeue ≠ []) (result : WriteResult) :
    KeepsDrift drift platform (writePacketPlain platform result ses) := by
  rw [writePacketPlain, EStateM.get_bind_apply]
  cases queue : ses.writequeue with
  | nil => exact absurd queue more
  | cons writebuf rest =>
    have unfinished := drifted.unfinished
    rw [queue] at unfinished
    have others : Unfinished rest := fun other isIn =>
      unfinished other (List.mem_cons_of_mem _ isIn)
    dsimp only
    rw [remaining_eq (unfinished writebuf (List.mem_cons_self ..)), fromExcept_ok_bind]
    cases result with
    | failed passing =>
      cases passing with
      | true => exact drifted
      | false => exact ⟨.inr rfl, drifted⟩
    | wrote count =>
      dsimp only
      have front : writebuf.rest.take count <+: pending ses.writequeue := by
        rw [queue]
        exact (List.take_prefix _ _).trans (List.prefix_append _ _)
      split
      · exact ⟨.inl rfl, drifted⟩
      · split
        case _ whole =>
          refine drifted.accepted front ?_ others
          rw [queue, pending_cons, whole, List.drop_left]
        case _ part =>
          have inside : (writebuf.rest.take count).length < writebuf.rest.length :=
            Nat.lt_of_le_of_ne (List.take_prefix _ _).length_le part
          obtain ⟨moved, left, notDone⟩ := bufIncrpos_of_short inside
          rw [moved, fromExcept_ok_bind]
          refine drifted.accepted front ?_ fun other isIn => ?_
          · rw [queue, pending_cons, left, pending_cons,
              List.drop_append_of_le_length (Nat.le_of_lt inside)]
          · rcases List.mem_cons.1 isIn with rfl | isIn
            · exact notDone
            · exact others other isIn

theorem keepsDrift_queueStep (platform : Platform) (drifted : Drifted drift ses) (event : QueueEvent) :
    KeepsDrift drift platform (queueStep platform event ses) := by
  cases event with
  | enqueue packet => exact keepsDrift_writebufEnqueue platform drifted packet
  | write result =>
    rw [queueStep, EStateM.get_bind_apply]
    split
    · exact drifted
    case _ more =>
      rw [writePacket]
      split
      · exact keepsDrift_writePacketWritev platform drifted more result
      · exact keepsDrift_writePacketPlain platform drifted more result

theorem InOrder.accepted (inOrder : InOrder ses) {bytes : Bytes}
    (front : bytes <+: pending ses.writequeue)
    (left : pending queue = (pending ses.writequeue).drop bytes.length)
    (unfinished : Unfinished queue) : InOrder (ses.afterAccept bytes queue) :=
  inOrder_iff.2 ((inOrder_iff.1 inOrder).accepted front left unfinished)

theorem orderly_queueStep (platform : Platform) (inOrder : InOrder ses) (event : QueueEvent) :
    Orderly platform (queueStep platform event ses) :=
  (keepsDrift_queueStep platform (inOrder_iff.1 inOrder) event).imp (fun _ _ => inOrder_iff.2)
    fun _ _ failed => ⟨failed.1, inOrder_iff.2 failed.2⟩

/-- The bytes stay in order over every run. -/
theorem orderly_run (platform : Platform) (inOrder : InOrder ses) (events : List QueueEvent) :
    Orderly platform (runAll (queueStep platform) events ses) :=
  ends_runAll (fun _ _ => True) (fun event _ _ inOrder => orderly_queueStep platform inOrder event)
    (allMeet_of_forall (fun _ _ _ => trivial) ses) inOrder

/-! ## The two ways to write -/

variable {ses' : WriteQueue}

/-- States with their bytes in order are determined by the queue and what has gone through
it. -/
theorem InOrder.eq (inOrder : InOrder ses) (inOrder' : InOrder ses')
    (queue : ses'.writequeue = ses.writequeue) (accepted : ses'.accepted = ses.accepted)
    (enqueued : ses'.enqueued = ses.enqueued) : ses' = ses := by
  obtain ⟨writequeue, writequeueLen, bytes, packets⟩ := ses
  obtain ⟨writequeue', writequeueLen', bytes', packets'⟩ := ses'
  obtain rfl : writequeue' = writequeue := queue
  obtain rfl : bytes' = bytes := accepted
  obtain rfl : packets' = packets := enqueued
  obtain rfl : writequeueLen' = writequeueLen := inOrder'.length.trans inOrder.length.symm
  rfl

/-- A result that does not go beyond the first packet. -/
def WriteResult.Within (result : WriteResult) (queue : List Buffer) : Prop :=
  ∀ count, result = .wrote count → ∃ writebuf rest, queue = writebuf :: rest ∧
    count ≤ writebuf.rest.length

variable {count : Nat}

/-- The front of what is offered to `writev` is the first packet. -/
theorem take_iov (platform : Platform) (writebuf : Buffer) (rest : List Buffer)
    (few : count ≤ writebuf.rest.length) :
    (((writebuf :: rest).take (min (min (writebuf :: rest).length platform.iovMax) 50)).map
      Buffer.rest).flatten.take count = writebuf.rest.take count := by
  have pos := platform.iovMax_pos
  obtain ⟨n, isSucc⟩ : ∃ n, min (min (writebuf :: rest).length platform.iovMax) 50 = n + 1 := by
    rw [List.length_cons]
    exact ⟨min (min (rest.length + 1) platform.iovMax) 50 - 1, by omega⟩
  rw [isSucc, List.take_succ_cons, List.map_cons, List.flatten_cons,
    List.take_append_of_le_length few]

/-- Consuming no more than the first packet. -/
theorem packetQueueConsume_within {rest : List Buffer} (few : count ≤ writebuf.rest.length) :
    packetQueueConsume (writebuf :: rest) count =
      if count = 0 then .ok (writebuf :: rest)
      else if count = writebuf.rest.length then .ok rest
      else (bufIncrpos writebuf count).map (· :: rest) := by
  have length := writebuf.length_rest
  cases count with
  | zero => rfl
  | succ count =>
    rw [packetQueueConsume, if_neg (Nat.succ_ne_zero count)]
    by_cases more : writebuf.len - writebuf.pos > count + 1
    · rw [if_pos more, if_neg (by omega)]
      cases bufIncrpos writebuf (count + 1) with
      | ok moved => rfl
      | error failure => rfl
    · have whole : count + 1 = writebuf.rest.length := by omega
      rw [if_neg more, if_pos whole, ← length, whole, Nat.sub_self]
      cases rest <;> rfl

/-- The length of the queue is a word, so taking nothing changes nothing. -/
theorem InOrder.afterAccept_nil (inOrder : InOrder ses) :
    ses.afterAccept [] ses.writequeue = ses := by
  have fits : ses.writequeueLen < 2 ^ 32 := by
    rw [inOrder.length]
    exact u32_lt _
  have same : sub32 ses.writequeueLen 0 = ses.writequeueLen := by
    simp only [sub32, u32]
    omega
  rw [WriteQueue.afterAccept, List.length_nil, same, List.append_nil]

/-- What `write` can do `writev` does in the same way. -/
theorem writePacketWritev_eq_plain (platform : Platform) (inOrder : InOrder ses)
    (result : WriteResult) (within : result.Within ses.writequeue) :
    writePacketWritev platform result ses = writePacketPlain platform result ses := by
  rw [writePacketWritev, writePacketPlain, EStateM.get_bind_apply, EStateM.get_bind_apply]
  cases queue : ses.writequeue with
  | nil => rfl
  | cons writebuf rest =>
    have unfinished := inOrder.unfinished
    rw [queue] at unfinished
    rw [if_neg nofun, packetQueueToIovec_eq unfinished, fromExcept_ok_bind]
    dsimp only
    rw [remaining_eq (unfinished writebuf (List.mem_cons_self ..)), fromExcept_ok_bind]
    cases result with
    | failed passing => cases passing <;> rfl
    | wrote count =>
      obtain ⟨first, others, isQueue, few⟩ := within count rfl
      rw [queue] at isQueue
      obtain ⟨rfl, rfl⟩ := List.cons.inj isQueue
      have length : (writebuf.rest.take count).length = count := by
        rw [List.length_take, Nat.min_eq_left few]
      dsimp only
      rw [take_iov platform writebuf rest few, length, packetQueueConsume_within few]
      by_cases none : count = 0
      · subst none
        rw [if_pos rfl, if_pos rfl, if_pos rfl, fromExcept_ok_bind]
        change EStateM.Result.error _ (ses.afterAccept [] (writebuf :: rest)) = .error _ ses
        rw [← queue, inOrder.afterAccept_nil]
      · rw [if_neg none, if_neg none, if_neg none]
        by_cases whole : count = writebuf.rest.length
        · rw [if_pos whole, if_pos whole]
          rfl
        · rw [if_neg whole, if_neg whole]
          cases bufIncrpos writebuf count with
          | ok moved => rfl
          | error failure => rfl

/-- One call of `write` that takes some bytes of the first packet. -/
theorem queueStep_plain_write (platform : Platform) (plain : platform.haveWritev = false)
    (inOrder : InOrder ses) {rest : List Buffer} (queue : ses.writequeue = writebuf :: rest)
    (some : count ≠ 0) (few : count ≤ writebuf.rest.length) :
    queueStep platform (.write (.wrote count)) ses =
      .ok () (ses.afterAccept (writebuf.rest.take count)
        (if count = writebuf.rest.length then rest else writebuf.skip count :: rest)) := by
  have unfinished := inOrder.unfinished
  rw [queue] at unfinished
  have length : (writebuf.rest.take count).length = count := by
    rw [List.length_take, Nat.min_eq_left few]
  rw [queueStep, EStateM.get_bind_apply, if_neg (by rw [queue]; nofun), writePacket, plain,
    if_neg nofun, writePacketPlain, EStateM.get_bind_apply, queue]
  dsimp only
  rw [remaining_eq (unfinished writebuf (List.mem_cons_self ..)), fromExcept_ok_bind, length,
    if_neg some]
  by_cases whole : count = writebuf.rest.length
  · rw [if_pos whole, if_pos whole]
    rfl
  · rw [if_neg whole, if_neg whole,
      (bufIncrpos_of_short (Nat.lt_of_le_of_ne few whole)).1, fromExcept_ok_bind]
    rfl

/-- What `writev` does in one call `write` can do in several. -/
theorem exists_plain_writes (platform : Platform) (plain : platform.haveWritev = false)
    (inOrder : InOrder ses) (enough : written ≤ (pending ses.writequeue).length)
    (consumed : packetQueueConsume ses.writequeue written = .ok queue) :
    ∃ counts : List Nat, ∃ ses', runAll (queueStep platform)
        (counts.map fun count => .write (.wrote count)) ses = .ok () ses' ∧
      ses'.writequeue = queue ∧
      ses'.accepted = ses.accepted ++ (pending ses.writequeue).take written ∧
      ses'.enqueued = ses.enqueued := by
  generalize isQueue : ses.writequeue = before at enough consumed ⊢
  induction before generalizing ses written with
  | nil =>
    obtain rfl : written = 0 := Nat.le_zero.1 enough
    cases consumed
    exact ⟨[], ses, rfl, isQueue, (List.append_nil _).symm, rfl⟩
  | cons writebuf rest ih =>
    have length := writebuf.length_rest
    rw [pending_cons, List.length_append] at enough
    by_cases none : written = 0
    · subst none
      cases consumed
      exact ⟨[], ses, rfl, isQueue, (List.append_nil _).symm, rfl⟩
    · by_cases part : written < writebuf.rest.length
      · rw [packetQueueConsume_within (Nat.le_of_lt part), if_neg none,
          if_neg (Nat.ne_of_lt part), (bufIncrpos_of_short part).1] at consumed
        cases consumed
        have ran := queueStep_plain_write platform plain inOrder isQueue none (Nat.le_of_lt part)
        rw [if_neg (Nat.ne_of_lt part)] at ran
        refine ⟨[written], _, runAll_cons_of_ok ran, rfl, ?_, rfl⟩
        rw [pending_cons, List.take_append_of_le_length (Nat.le_of_lt part)]
        rfl
      · have whole : writebuf.rest.length ≤ written := Nat.le_of_not_lt part
        have some : writebuf.rest.length ≠ 0 := by
          have := inOrder.unfinished writebuf (by rw [isQueue]; exact List.mem_cons_self ..)
          omega
        have ran := queueStep_plain_write platform plain inOrder isQueue some (Nat.le_refl _)
        rw [if_pos rfl, List.take_length] at ran
        have inOrder' := orderly_queueStep platform inOrder
          (.write (.wrote writebuf.rest.length))
        rw [ran] at inOrder'
        have consumed' : packetQueueConsume rest (written - writebuf.rest.length) =
            .ok queue := by
          rw [← consumed]
          cases written with
          | zero => exact absurd rfl none
          | succ written => rw [packetQueueConsume, if_neg (by omega), length]
        have enough' : written - writebuf.rest.length ≤ (pending rest).length := by omega
        obtain ⟨counts, ses', ran', isQueue', accepted, enqueued⟩ :=
          ih inOrder' rfl enough' consumed'
        refine ⟨writebuf.rest.length :: counts, ses', ?_, isQueue', ?_, enqueued⟩
        · rw [List.map_cons, runAll_cons_of_ok ran, ran']
        · rw [accepted, pending_cons, List.take_append, List.take_of_length_le whole,
            ← List.append_assoc]
          rfl

/-- The state can be reached from the empty queue. -/
def Reached (platform : Platform) (ses : WriteQueue) : Prop :=
  ∃ events, runAll (queueStep platform) events initqueue = .ok () ses

/-- A write of one platform as steps of the other, and so a whole run. -/
theorem exists_run_of_writes {platform platform' : Platform}
    (writes : ∀ result ses ses', InOrder ses → ses.writequeue ≠ [] →
      writePacket platform result ses = .ok () ses' →
      ∃ events, runAll (queueStep platform') events ses = .ok () ses') {events : List QueueEvent}
    (inOrder : InOrder ses) (ran : runAll (queueStep platform) events ses = .ok () ses') :
    ∃ events', runAll (queueStep platform') events' ses = .ok () ses' := by
  induction events generalizing ses with
  | nil => exact ⟨[], ran⟩
  | cons event rest ih =>
    have kept := orderly_queueStep platform inOrder event
    cases stepped : queueStep platform event ses with
    | error failure middle =>
      rw [runAll_cons_of_error stepped] at ran
      cases ran
    | ok value middle =>
      rw [runAll_cons_of_ok stepped] at ran
      rw [stepped] at kept
      obtain ⟨first, ranFirst⟩ :
          ∃ events, runAll (queueStep platform') events ses = .ok () middle := by
        cases event with
        | enqueue packet => exact ⟨[.enqueue packet], by rw [runAll_singleton]; exact stepped⟩
        | write result =>
          rw [queueStep, EStateM.get_bind_apply] at stepped
          split at stepped
          · cases stepped
            exact ⟨[], rfl⟩
          case _ more => exact writes result ses middle inOrder more stepped
      obtain ⟨second, ranSecond⟩ := ih kept ran
      exact ⟨first ++ second, by rw [runAll_append_of_ok ranFirst, ranSecond]⟩

/-- Every write with `writev` is a run with `write`. -/
theorem exists_plain_run (platform : Platform) (inOrder : InOrder ses) (more : ses.writequeue ≠ [])
    (result : WriteResult)
    (ran : writePacket { platform with haveWritev := true } result ses = .ok () ses') :
    ∃ events, runAll (queueStep { platform with haveWritev := false }) events ses =
      .ok () ses' := by
  rw [writePacket, if_pos rfl, writePacketWritev, EStateM.get_bind_apply, if_neg more,
    packetQueueToIovec_eq inOrder.unfinished, fromExcept_ok_bind] at ran
  cases result with
  | failed passing =>
    cases passing with
    | true =>
      cases ran
      exact ⟨[], rfl⟩
    | false => cases ran
  | wrote count =>
    have front := (List.take_prefix count _).trans (prefix_pending ses.writequeue
      (min (min ses.writequeue.length platform.iovMax) 50))
    dsimp only at ran
    generalize List.take count _ = bytes at ran front
    obtain ⟨queue, consumed, left, unfinished⟩ :=
      packetQueueConsume_eq inOrder.unfinished front.length_le
    rw [consumed, fromExcept_ok_bind] at ran
    change (if bytes.length = 0 then _ else _ : QueueM Unit)
      (ses.afterAccept bytes queue) = _ at ran
    split at ran
    · cases ran
    · cases ran
      obtain ⟨counts, ses'', ran', isQueue, accepted, enqueued⟩ :=
        exists_plain_writes { platform with haveWritev := false } rfl inOrder
          front.length_le consumed
      have inOrder'' := orderly_run { platform with haveWritev := false } inOrder
        (counts.map fun count => .write (.wrote count))
      rw [ran'] at inOrder''
      have same := (inOrder.accepted front left unfinished).eq inOrder'' isQueue
        (by rw [accepted, ← List.prefix_iff_eq_take.1 front]; rfl) enqueued
      exact ⟨_, by rw [ran', same]⟩

/-- The socket cannot take more than it is offered, so what it is said to take may be cut. -/
theorem exists_within (platform : Platform) (inOrder : InOrder ses) (more : ses.writequeue ≠ [])
    (result : WriteResult) :
    ∃ result', result'.Within ses.writequeue ∧
      writePacketPlain platform result' ses = writePacketPlain platform result ses := by
  obtain ⟨writebuf, rest, queue⟩ := List.exists_cons_of_ne_nil more
  cases result with
  | failed passing => exact ⟨.failed passing, nofun, rfl⟩
  | wrote count =>
    refine ⟨.wrote (min count writebuf.rest.length), ?_, ?_⟩
    · intro count' same
      cases same
      exact ⟨writebuf, rest, queue, Nat.min_le_right _ _⟩
    · have unfinished : writebuf.pos < writebuf.len :=
        inOrder.unfinished writebuf (by rw [queue]; exact List.mem_cons_self ..)
      have cut : writebuf.rest.take (min count writebuf.rest.length) =
          writebuf.rest.take count := by
        rw [← List.take_take, List.take_length]
      rw [writePacketPlain, writePacketPlain, EStateM.get_bind_apply, EStateM.get_bind_apply, queue]
      dsimp only
      rw [remaining_eq unfinished, fromExcept_ok_bind, fromExcept_ok_bind, cut]

/-- Every write with `write` is one with `writev`. -/
theorem exists_writev_run (platform : Platform) (inOrder : InOrder ses)
    (more : ses.writequeue ≠ []) (result : WriteResult)
    (ran : writePacket { platform with haveWritev := false } result ses = .ok () ses') :
    ∃ events, runAll (queueStep { platform with haveWritev := true }) events ses =
      .ok () ses' := by
  rw [writePacket, if_neg nofun] at ran
  obtain ⟨result', within, alike⟩ :=
    exists_within { platform with haveWritev := false } inOrder more result
  have same := writePacketWritev_eq_plain { platform with haveWritev := true } inOrder
    result' within
  refine ⟨[.write result'], ?_⟩
  rw [runAll_singleton, queueStep, EStateM.get_bind_apply, if_neg more, writePacket, if_pos rfl,
    same]
  exact alike.trans ran

theorem reached_plain_iff (platform : Platform) (ses : WriteQueue) :
    Reached { platform with haveWritev := true } ses ↔
      Reached { platform with haveWritev := false } ses := by
  constructor
  · rintro ⟨events, ran⟩
    apply exists_run_of_writes _ inOrder_initqueue ran
    exact fun result _ _ inOrder more => exists_plain_run platform inOrder more result
  · rintro ⟨events, ran⟩
    apply exists_run_of_writes _ inOrder_initqueue ran
    exact fun result _ _ inOrder more => exists_writev_run platform inOrder more result

/-- **The bytes that the socket has accepted followed by those in the queue are those of the
packets in the order in which they were enqueued**, over every run with `writev` or without.
The session is ended only by the socket, and the two ways to write reach the same states;
from a state that is reached they do the same with results that both can have. -/
theorem writeQueue_order (platform : Platform) (events : List QueueEvent) :
    Orderly platform (runAll (queueStep platform) events initqueue) ∧
      (∀ ses, Reached { platform with haveWritev := true } ses ↔
        Reached { platform with haveWritev := false } ses) ∧
      ∀ ses, runAll (queueStep platform) events initqueue = .ok () ses →
        ∀ result : WriteResult, result.Within ses.writequeue →
          writePacketWritev platform result ses = writePacketPlain platform result ses := by
  have orderly := orderly_run platform inOrder_initqueue events
  refine ⟨orderly, reached_plain_iff platform, fun ses ran result within => ?_⟩
  rw [ran] at orderly
  exact writePacketWritev_eq_plain platform orderly result within

end Dropbear.Packet
