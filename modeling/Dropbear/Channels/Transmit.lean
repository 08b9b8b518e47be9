/-
# The transmit window

Data is sent as far as the peer's window and its largest packet allow.  What counts
is the window the peer announced and its increments, in exact numbers: the counter of
the channel is a word that saturates, and is overwritten when the peer confirms a
channel of ours.
-/

import Dropbear.Channels.Life

namespace Dropbear.Channels

open Program

namespace Message

def isData : Message → Bool
  | .data _ _ => true
  | .extendedData _ _ => true
  | _ => false

/-- The bytes of data in the message. -/
def dataLen : Message → Nat
  | .data _ bytes => bytes.length
  | .extendedData _ bytes => bytes.length
  | _ => 0

/-- The length of a data message: its number, the channel, the type of extended data, and
the data with its length. -/
def payloadLen : Message → Nat
  | .data _ bytes => 1 + 4 + 4 + bytes.length
  | .extendedData _ bytes => 1 + 4 + 4 + 4 + bytes.length
  | _ => 0

end Message

/-- The bytes of data sent. -/
def dataBytes (sent : List Message) : Nat := (sent.map Message.dataLen).sum

theorem dataBytes_append (sent : List Message) (message : Message) :
    dataBytes (sent ++ [message]) = dataBytes sent + message.dataLen := by
  simp [dataBytes]

/-- Only the data messages have data. -/
theorem dataBytes_filter (sent : List Message) :
    dataBytes (sent.filter Message.isData) = dataBytes sent := by
  induction sent with
  | nil => rfl
  | cons message rest ih =>
    have split : dataBytes (message :: rest) = message.dataLen + dataBytes rest := List.sum_cons
    rw [split, ← ih]
    cases isData : message.isData with
    | true => rw [List.filter_cons_of_pos isData]; exact List.sum_cons
    | false =>
      rw [List.filter_cons_of_neg (by rw [isData]; decide)]
      cases message <;> first | exact (Nat.zero_add _).symm | cases isData

/-- What was sent keeps to what the peer has allowed. -/
structure Settled (data : List Message) (allowance : Allowance) : Prop where
  budget : dataBytes data ≤ allowance.budget
  packets : ∀ message ∈ data, message.dataLen ≤ allowance.maxpacket ∧
    message.payloadLen ≤ Packet.transMaxPayloadLen
  covered : allowance.overdrawn = false

theorem settled_nil {allowance : Allowance} (covered : allowance.overdrawn = false) :
    Settled [] allowance :=
  ⟨Nat.zero_le _, (fun _ listed => by cases listed), covered⟩

/-- The part of a channel and its slot that sending data is about. -/
structure Transmit where
  transwindow : Nat
  transmaxpacket : Nat
  awaitOpen : Bool
  data : List Message
  allowance : Allowance

namespace Transmit

/-- The window and the packet size of the channel are within what the peer has allowed,
and nothing is sent before the peer confirms the channel. -/
structure Sound (transmit : Transmit) : Prop where
  word : transmit.transwindow < 2 ^ 32
  budget : dataBytes transmit.data + transmit.transwindow ≤ transmit.allowance.budget
  maxpacket : transmit.transmaxpacket ≤ transmit.allowance.maxpacket
  packets : ∀ message ∈ transmit.data, message.dataLen ≤ transmit.transmaxpacket
  settled : Settled transmit.data transmit.allowance
  unconfirmed : transmit.awaitOpen → transmit.transmaxpacket = 0 ∧ transmit.data = []

variable {transmit : Transmit}

/-- A new channel. -/
def fresh (transwindow transmaxpacket : Nat) (allowance : Allowance) : Transmit where
  transwindow := transwindow
  transmaxpacket := transmaxpacket
  awaitOpen := false
  data := []
  allowance := allowance

/-- A channel of ours that the peer has not confirmed. -/
def requested : Transmit := { fresh 0 0 .nothing with awaitOpen := true }

theorem sound_requested : requested.Sound :=
  ⟨by decide, Nat.le_refl _, Nat.le_refl _, (fun _ listed => by cases listed), settled_nil rfl,
    fun _ => ⟨rfl, rfl⟩⟩

/-- A channel that the peer opens. -/
theorem sound_fresh {transwindow transmaxpacket limit : Nat} (word : transwindow < 2 ^ 32) :
    (fresh transwindow (min transmaxpacket limit)
      { budget := transwindow
        maxpacket := transmaxpacket
        overdrawn := false }).Sound :=
  ⟨word, Nat.le_of_eq (Nat.zero_add _), Nat.min_le_left _ _, (fun _ listed => by cases listed),
    settled_nil rfl, nofun⟩

/-- The peer confirms a channel of ours.  Whatever it has allowed before no longer counts. -/
def confirmed (transmit : Transmit) (transwindow transmaxpacket : Nat) : Transmit where
  transwindow := transwindow
  transmaxpacket := transmaxpacket
  awaitOpen := false
  data := transmit.data
  allowance :=
    { transmit.allowance with
      budget := transwindow
      maxpacket := transmaxpacket }

/-- The peer adds to the window, which may be cut down at the end of the word. -/
def adjusted (transmit : Transmit) (incr newwin : Nat) : Transmit :=
  { transmit with
    transwindow := newwin
    allowance :=
      { transmit.allowance with
        budget := transmit.allowance.budget + incr } }

namespace Sound

theorem confirm (sound : transmit.Sound) (waiting : transmit.awaitOpen)
    {transwindow : Nat} (word : transwindow < 2 ^ 32) (transmaxpacket : Nat) :
    (transmit.confirmed transwindow transmaxpacket).Sound := by
  have nothing := (sound.unconfirmed waiting).2
  have covered := sound.settled.covered
  rw [confirmed, nothing]
  exact ⟨word, Nat.le_of_eq (Nat.zero_add _), Nat.le_refl _, (fun _ listed => by cases listed),
    settled_nil covered, nofun⟩

theorem adjust (sound : transmit.Sound) {incr newwin : Nat} (word : newwin < 2 ^ 32)
    (le : newwin ≤ transmit.transwindow + incr) : (transmit.adjusted incr newwin).Sound := by
  have budget := sound.budget
  refine ⟨word, ?_, sound.maxpacket, sound.packets,
    ⟨?_, sound.settled.packets, sound.settled.covered⟩, sound.unconfirmed⟩
  · change dataBytes transmit.data + newwin ≤ transmit.allowance.budget + incr
    omega
  · exact Nat.le_trans sound.settled.budget (Nat.le_add_right _ _)

/-- A packet that fits. -/
theorem spend (sound : transmit.Sound) {message : Message}
    (something : 0 < message.dataLen) (window : message.dataLen ≤ transmit.transwindow)
    (packet : message.dataLen ≤ transmit.transmaxpacket)
    (payload : message.payloadLen ≤ Packet.transMaxPayloadLen) :
    Sound
      { transmit with
        transwindow := sub32 transmit.transwindow message.dataLen
        data := transmit.data ++ [message]
        allowance := transmit.allowance.spend message.dataLen transmit.transwindow } := by
  have word := sound.word
  have budget := sound.budget
  have left : sub32 transmit.transwindow message.dataLen =
      transmit.transwindow - message.dataLen := sub32_of_le word window
  have total : dataBytes (transmit.data ++ [message]) =
      dataBytes transmit.data + message.dataLen := dataBytes_append _ _
  refine ⟨?_, ?_, sound.maxpacket, ?_, ⟨?_, ?_, ?_⟩, ?_⟩
  · change sub32 transmit.transwindow message.dataLen < 2 ^ 32
    omega
  · change dataBytes (transmit.data ++ [message]) + sub32 transmit.transwindow message.dataLen ≤
      transmit.allowance.budget
    omega
  · intro other listed
    rcases List.mem_append.1 listed with listed | listed
    · exact sound.packets other listed
    · cases List.mem_singleton.1 listed
      exact packet
  · change dataBytes (transmit.data ++ [message]) ≤ transmit.allowance.budget
    omega
  · intro other listed
    rcases List.mem_append.1 listed with listed | listed
    · exact sound.settled.packets other listed
    · cases List.mem_singleton.1 listed
      exact ⟨Nat.le_trans packet sound.maxpacket, payload⟩
  · change (transmit.allowance.overdrawn || decide (transmit.transwindow < message.dataLen)) = false
    rw [sound.settled.covered, Bool.false_or, decide_eq_false_iff_not]
    omega
  · intro waiting
    have none := (sound.unconfirmed waiting).1
    omega

end Sound

end Transmit

/-- The new window after an increment, which is never more than the sum. -/
theorem adjusted_le (transwindow incr : Nat) :
    (if u32 (transwindow + incr) < transwindow then 2 ^ 32 - 1 else u32 (transwindow + incr)) <
        2 ^ 32 ∧
      (if u32 (transwindow + incr) < transwindow then 2 ^ 32 - 1 else u32 (transwindow + incr)) ≤
        transwindow + incr := by
  have isWord : u32 (transwindow + incr) < 2 ^ 32 := u32_lt _
  have small : u32 (transwindow + incr) ≤ transwindow + incr := Nat.mod_le _ _
  split
  case _ wrapped =>
    by_cases fits : transwindow + incr < 2 ^ 32
    · rw [u32_of_lt fits] at wrapped
      omega
    · omega
  case _ => exact ⟨isWord, small⟩

/-- The mangler leaves what was read, or nothing. -/
theorem len_of_cliEscapeHandler {lastChar next : UInt8} {buf : Bytes} {len : Nat}
    (handled : cliEscapeHandler lastChar buf = .ok (next, len)) : len = 0 ∨ len = buf.length := by
  rw [cliEscapeHandler.eq_def] at handled
  split at handled
  · split at handled
    · obtain ⟨skip, _, done⟩ := Except.bind_eq_ok.1 handled
      cases done
      cases skip
      · exact .inr rfl
      · exact .inl rfl
    · split at handled
      · split at handled
        · cases handled
          exact .inl rfl
        · cases handled
          exact .inr rfl
      · cases handled
        exact .inr rfl
  · cases handled
    exact .inr rfl

theorem mangledLen_le {channel : Channel} {lastChar : UInt8} {bytes : Bytes} {len : Nat}
    (mangled : mangledLen channel lastChar bytes = .ok len) : len ≤ bytes.length := by
  rw [mangledLen] at mangled
  split at mangled
  · obtain ⟨⟨next, left⟩, handled, done⟩ := Except.bind_eq_ok.1 mangled
    cases done
    rcases len_of_cliEscapeHandler handled with rfl | rfl
    · exact Nat.zero_le _
    · exact Nat.le_refl _
  · cases mangled
    exact Nat.le_refl _

end Dropbear.Channels
