/-
# Processing a packet

`process_packet` decides by the type of a packet and by the flags of the session what becomes
of it, in a fixed order of tests.  The decision is a function of its own here.
-/

import Dropbear.Transport.Basic

namespace Dropbear.Transport

open Program Kex

variable {σ α : Type}

/-- A handler is given where the packet begins, and the packet behind its type. -/
abbrev Handler (σ α : Type) := Nat → Buffer → SesM σ α Unit

/-- What becomes of a packet. -/
inductive Verdict where
  /-- The other side ends the session. -/
  | disconnect
  /-- A packet that may be received at any time. -/
  | skip
  /-- Another packet than the required one, which is allowed but not known. -/
  | unimplemented
  /-- Another packet than the required one, which ends the session. -/
  | unexpected
  /-- The packet that follows a wrong guess. -/
  | ignore
  /-- A packet that has to wait for authentication, which ends the session. -/
  | unauthenticated
  /-- The packet is given to its handler. -/
  | dispatch
  deriving DecidableEq, Repr

/-- During the first exchange of a strict session only the required packets are allowed. -/
def Ses.firstStrictKex (ses : Ses σ α) : Bool :=
  ses.kexstate.strictKex && !ses.kexstate.recvfirstnewkeys

/-- The packets that are allowed while another one is required, by their type. -/
def allowedMeanwhile (type : Nat) : Bool :=
  1 ≤ type && type ≤ 49 && type ≠ msgServiceRequest && type ≠ msgServiceAccept && type ≠ msgKexinit

/-- The tests of `process_packet`, in their order. -/
def verdict (ses : Ses σ α) (type : Nat) : Verdict :=
  if type = msgDisconnect then .disconnect
  else if ¬ ses.firstStrictKex ∧
      (type = msgIgnore ∨ type = msgDebug ∨ type = msgUnimplemented) then .skip
  else if ses.requirenext ≠ 0 ∧ ses.requirenext ≠ type then
    if allowedMeanwhile type ∧ ¬ ses.firstStrictKex then .unimplemented else .unexpected
  else if ses.ignorenext then .ignore
  else if ¬ ses.authdone ∧ type > maxUnauthPacketType then .unauthenticated
  else .dispatch

/-- Keepalives and their answers do not count as activity. -/
def Ses.active (ses : Ses σ α) (type : Nat) : Ses σ α :=
  if type = msgGlobalRequest ∨ type = msgRequestFailure ∨ type = msgChannelFailure then ses
  else { ses with lastPacketTimeIdle := ses.now }

@[simp]
theorem Ses.sent_active (ses : Ses σ α) (type : Nat) : (ses.active type).sent = ses.sent := by
  rw [Ses.active]
  split <;> rfl

@[simp]
theorem Ses.replyQueue_active (ses : Ses σ α) (type : Nat) :
    (ses.active type).replyQueue = ses.replyQueue := by
  rw [Ses.active]
  split <;> rfl

/-- The required packet has arrived. -/
def Ses.cleared (ses : Ses σ α) (type : Nat) : Ses σ α :=
  if ses.requirenext ≠ 0 ∧ ses.requirenext = type then { ses with requirenext := 0 } else ses

/-- The answer may be sent at any time. -/
theorem recvUnimplemented_apply (config : Config σ) (ses : Ses σ α) :
    recvUnimplemented config ses = .ok () (ses.written config msgUnimplemented
      (msgUnimplemented.toUInt8 :: be32 (sub32 ses.recvseq 1))) := by
  rw [recvUnimplemented, EStateM.get_bind_apply, encryptPacket, EStateM.get_bind_apply]
  dsimp only
  rw [if_neg fun deferred => deferred.2 (by decide)]
  rfl

/-- The handler of a packet, or the answer that there is none. -/
def callHandler (config : Config σ) (packettypes : List (Nat × Handler σ α)) (type : Nat) :
    Handler σ α :=
  match packettypes.find? (·.1 = type) with
  | some (_, handler) => handler
  | none => fun _ _ => recvUnimplemented config

/-- What is done with a packet once it has been judged. -/
def carryOut (config : Config σ) (packettypes : List (Nat × Handler σ α)) (type beginning : Nat)
    (payload : Buffer) : Verdict → SesM σ α Unit
  | .disconnect => throw (.close "Disconnect received")
  | .skip => pure ()
  | .unimplemented => do
    modify (·.active type)
    recvUnimplemented config
  | .unexpected => do
    modify (·.active type)
    throw (.exit "Unexpected packet type %d, expected %d")
  | .ignore => modify fun ses => { ses.active type with ignorenext := false }
  | .unauthenticated => do
    modify fun ses => (ses.active type).cleared type
    throw (.exit "Received message %d before userauth")
  | .dispatch => do
    modify fun ses => (ses.active type).cleared type
    callHandler config packettypes type beginning payload

/-- A packet has been processed. -/
def Ses.processed (ses : Ses σ α) (type : Nat) : Ses σ α := { ses with lastpacket := type }

/-- A packet has been heard. -/
def Ses.heard (ses : Ses σ α) : Ses σ α := { ses with lastPacketTimeKeepaliveRecv := ses.now }

/-- Process a decrypted packet, which is given with the place where it begins. -/
def processPacket (config : Config σ) (packettypes : List (Nat × Handler σ α))
    (packet : Nat × Buffer) : SesM σ α Unit := do
  let (type, payload) ← lift (bufGetbyte packet.2)
  modify Ses.heard
  let ses ← get
  carryOut config packettypes type.toNat packet.1 payload (verdict ses type.toNat)
  modify (·.processed type.toNat)

end Dropbear.Transport
