/-
# The transport layer of a session

The state that `common-session.c`, `common-kex.c`, `packet.c` and `process-packet.c` share,
for either role, and how packets are sent.

What the other layers keep is one value of an arbitrary type, and so is the state of a
cipher.  A packet that is sent is recorded with the sequence number and the keys it is sent
with.  The length that encryption gives it, random bytes and the clock are parameters.
-/

import Dropbear.Kex.Derive
import Dropbear.Packet.Context

namespace Dropbear.Transport

open Program Signkey Kex

/-! ## The state -/

/-- `struct KEXState`. -/
structure KexState where
  sentkexinit : Bool
  recvkexinit : Bool
  themFirstfollows : Bool
  sentnewkeys : Bool
  recvnewkeys : Bool
  donefirstkex : Bool
  donesecondkex : Bool
  recvfirstnewkeys : Bool
  ourFirstFollowsMatches : Bool
  strictKex : Bool
  lastkextime : Int
  needrekey : Bool
  datatrans : Nat
  datarecv : Nat
  deriving DecidableEq, Repr

/-- A packet on the write queue: what it carries, and what it was encrypted with. -/
structure Sent (σ : Type) where
  payload : Bytes
  seqno : Nat
  keys : DirKeys σ
  compressed : Bool

/-- An ephemeral key of the client: the public part as it is written to a packet. -/
structure KexParam where
  method : DropbearKex
  pub : Bytes
  deriving DecidableEq, Repr

/-- The pointers of `struct clientsession` to an ephemeral key, one for each kind of
method. -/
structure CliParams where
  dhParam : Option KexParam
  ecdhParam : Option KexParam
  curve25519Param : Option KexParam
  pqhybridParam : Option KexParam
  deriving DecidableEq, Repr

/-- `struct sshsession`, as far as the transport layer uses it. -/
structure Ses (σ α : Type) where
  kexstate : KexState
  keys : KeyContext σ
  newkeys : Option (KeyContext σ)
  /-- The session id, the exchange hash and the shared secret. -/
  secrets : KexSecrets
  kexhashbuf : Option Buffer
  transkexinit : Option Buffer
  cliParams : CliParams
  remoteident : Option Bytes
  authdone : Bool
  allowExtInfo : Bool
  transseq : Nat
  recvseq : Nat
  dataallowed : Bool
  requirenext : Nat
  ignorenext : Bool
  lastpacket : Nat
  connectTime : Int
  lastPacketTimeKeepaliveSent : Int
  lastPacketTimeKeepaliveRecv : Int
  lastPacketTimeAnySent : Int
  lastPacketTimeIdle : Int
  replyQueue : List Bytes
  /-- Everything that was put on the write queue. -/
  sent : List (Sent σ)
  /-- What `monotonic_now` returns. -/
  now : Int
  /-- How often random bytes have been drawn. -/
  draws : Nat
  /-- The state of the other layers. -/
  app : α

abbrev SesM (σ α : Type) := EStateM Exit (Ses σ α)

/-- What stays the same during a session.  Random bytes and ephemeral keys are given by the
number of earlier draws. -/
structure Config (σ : Type) where
  role : Role
  tables : Tables
  localIdent : Bytes
  /-- Whether `send_kex_first_guess` is set. -/
  sendKexFirstGuess : Bool
  cookie : Nat → Bytes
  genKexParam : DropbearKex → Nat → Bytes
  wireLength : Sent σ → Nat

variable {σ α β : Type}

/-! ## The start -/

/-- One direction of a key context that has been cleared. -/
def DirKeys.cleared : DirKeys σ where
  algos := none
  cipherState := none
  mackey := []
  hashIndex := none
  valid := false

def KeyContext.cleared : KeyContext σ where
  recv := DirKeys.cleared
  trans := DirKeys.cleared
  algoKex := none
  algoSignature := none

/-- All the algos are none. -/
def DirKeys.initial : DirKeys σ :=
  { (DirKeys.cleared : DirKeys σ) with
    algos := some
      { algoCrypt := { cipherdesc := none, keysize := 16, blocksize := 8 }
        cryptMode := .none
        algoMac := { hashDesc := none, keysize := 16, hashsize := 0 }
        algoComp := .none } }

/-- Reset the kex state, ready for a new negotiation. -/
def KexState.kexinitialise (kexstate : KexState) (now : Int) : KexState :=
  { kexstate with
    sentkexinit := false
    recvkexinit := false
    recvnewkeys := false
    sentnewkeys := false
    themFirstfollows := false
    datatrans := 0
    datarecv := 0
    ourFirstFollowsMatches := false
    lastkextime := now }

/-- The kex state before it is set up for the first time. -/
def KexState.unset : KexState where
  sentkexinit := false
  recvkexinit := false
  themFirstfollows := false
  sentnewkeys := false
  recvnewkeys := false
  donefirstkex := false
  donesecondkex := false
  recvfirstnewkeys := false
  ourFirstFollowsMatches := false
  strictKex := false
  lastkextime := 0
  needrekey := false
  datatrans := 0
  datarecv := 0

/-- `cli_kex_free_param`. -/
def CliParams.free : CliParams where
  dhParam := none
  ecdhParam := none
  curve25519Param := none
  pqhybridParam := none

/-- The session after `common_session_init` and `kexfirstinitialise`. -/
def commonSessionInit (now : Int) (app : α) : Ses σ α where
  kexstate := KexState.unset.kexinitialise now
  keys :=
    { (KeyContext.cleared : KeyContext σ) with
      recv := DirKeys.initial
      trans := DirKeys.initial }
  newkeys := none
  secrets := { sessionId := none, hash := none, dhK := none, dhKBytes := none }
  kexhashbuf := none
  transkexinit := none
  cliParams := CliParams.free
  remoteident := none
  authdone := false
  allowExtInfo := false
  transseq := 0
  recvseq := 0
  dataallowed := true
  requirenext := msgKexinit
  ignorenext := false
  lastpacket := 0
  connectTime := now
  lastPacketTimeKeepaliveSent := 0
  lastPacketTimeKeepaliveRecv := now
  lastPacketTimeAnySent := 0
  lastPacketTimeIdle := now
  replyQueue := []
  sent := []
  now := now
  draws := 0
  app := app

/-- A computation that does not use the session. -/
def lift : Except Exit β → SesM σ α β
  | .ok value => pure value
  | .error failure => throw failure

/-! ## Sending -/

/-- `is_compress_trans` and `is_compress_recv`, for the keys of one direction. -/
def isCompress (authdone : Bool) (keys : DirKeys σ) : Bool :=
  keys.algos.any fun algos => algos.algoComp = .zlib || (authdone && algos.algoComp = .zlibDelay)

/-- The packet as it is sent now. -/
def Ses.packet (ses : Ses σ α) (payload : Bytes) : Sent σ where
  payload := payload
  seqno := ses.transseq
  keys := ses.keys.trans
  compressed := isCompress ses.authdone ses.keys.trans

/-- The packet has been encrypted and put on the write queue. -/
def Ses.written (ses : Ses σ α) (config : Config σ) (packetType : Nat) (payload : Bytes) :
    Ses σ α :=
  { ses with
    kexstate :=
      { ses.kexstate with
        datatrans := u32 (ses.kexstate.datatrans + config.wireLength (ses.packet payload)) }
    sent := ses.sent ++ [ses.packet payload]
    transseq := u32 (ses.transseq + 1)
    lastPacketTimeAnySent := ses.now
    lastPacketTimeIdle :=
      if packetType ≠ msgRequestFailure ∧ packetType ≠ msgUnimplemented ∧
          packetType ≠ msgIgnore then ses.now
      else ses.lastPacketTimeIdle }

/-- `enqueue_reply_packet`. -/
def Ses.deferred (ses : Ses σ α) (payload : Bytes) : Ses σ α :=
  { ses with replyQueue := ses.replyQueue ++ [payload] }

/-- `encrypt_packet`, which defers a packet that is not allowed during a key exchange. -/
def encryptPacket (config : Config σ) (payload : Bytes) : SesM σ α Unit := do
  let ses ← get
  match payload with
  | [] => throw (.exit "Bad buf_getbyte")
  | byte :: _ =>
    if ¬ ses.dataallowed ∧ ¬ packetIsOkayKex byte.toNat then set (ses.deferred payload)
    else set (ses.written config byte.toNat payload)

/-- `recv_unimplemented`: the decryption routine has incremented the sequence number. -/
def recvUnimplemented (config : Config σ) : SesM σ α Unit := do
  let ses ← get
  encryptPacket config (msgUnimplemented.toUInt8 :: be32 (sub32 ses.recvseq 1))

/-! ## KEXINIT -/

def maxKexParts : Nat := 2 * 4 + 1184 + 1088 + 32 * 2 + 68
def kexhashbufMaxInts : Nat := 600 + maxKexParts

/-- Keep the ephemeral key of a method where the method looks for it. -/
def CliParams.keep (params : CliParams) (param : KexParam) : CliParams :=
  match param.method.mode with
  | .normalDh => { params with dhParam := some param }
  | .ecdh => { params with ecdhParam := some param }
  | .curve25519 => { params with curve25519Param := some param }
  | .pqhybrid => { params with pqhybridParam := some param }

/-- A new ephemeral key has been made, and the old ones are gone. -/
def Ses.keepParam (ses : Ses σ α) (param : KexParam) : Ses σ α :=
  { ses with
    cliParams := CliParams.free.keep param
    draws := ses.draws + 1 }

/-- Send a new ephemeral key for the method of the exchange. -/
def sendMsgKexdhInit (config : Config σ) : SesM σ α Unit := do
  let ses ← get
  let newkeys ← lift (deref ses.newkeys)
  let method ← lift (deref newkeys.algoKex)
  let param := { method := method, pub := config.genKexParam method ses.draws : KexParam }
  set (ses.keepParam param)
  encryptPacket config (msgKexdhInit.toUInt8 :: param.pub)

/-- The method and the host key algorithm of the key context. -/
def Ses.guess (ses : Ses σ α) (method : Option DropbearKex) (signature : SignatureType) :
    Ses σ α :=
  { ses with
    newkeys := ses.newkeys.map fun newkeys =>
      { newkeys with
        algoKex := method
        algoSignature := some signature } }

/-- Prepare the key context for the packet that follows our KEXINIT, and send it. -/
def sendFirstGuess (config : Config σ) : SesM σ α Unit := do
  let kex ← lift (deref (firstUsableAlgo config.tables.sshkex))
  let signature ← lift (deref (firstUsableAlgo config.tables.sigalgs))
  modify (·.guess kex.data signature.data)
  sendMsgKexdhInit config

/-- Our KEXINIT is kept for the exchange hash. -/
def Ses.keepKexinit (ses : Ses σ α) (transkexinit : Buffer) : Ses σ α :=
  { ses with
    transkexinit := some transkexinit
    draws := ses.draws + 1 }

/-- Our KEXINIT has been sent: there is a new key context, and other packets have to
wait. -/
def Ses.kexinitSent (ses : Ses σ α) : Ses σ α :=
  { ses with
    dataallowed := false
    kexstate := { ses.kexstate with sentkexinit := true }
    newkeys := some KeyContext.cleared }

/-- The payload of our KEXINIT. -/
@[irreducible]
def kexinitPayload (config : Config σ) (draws : Nat) : Except Exit Buffer := do
  let writepayload ← bufNew Packet.transMaxPayloadLen
  putKexinit config.tables (config.cookie draws) config.sendKexFirstGuess writepayload

/-- Send our list of algorithms we can use. -/
def sendMsgKexinit (config : Config σ) : SesM σ α Unit := do
  let ses ← get
  let writepayload ← lift (kexinitPayload config ses.draws)
  let transkexinit ← lift (bufNewcopy writepayload)
  set (ses.keepKexinit transkexinit)
  encryptPacket config writepayload.contents
  modify Ses.kexinitSent
  if config.sendKexFirstGuess then sendFirstGuess config else pure ()

/-- What `read_kex_algos` leaves in the session. -/
def Ses.chosen (ses : Ses σ α) (choice : KexChoice) : Ses σ α :=
  { ses with
    newkeys := some
      { recv := .negotiated choice.recv
        trans := .negotiated choice.trans
        algoKex := some choice.algoKex
        algoSignature := some choice.algoSignature }
    allowExtInfo := ses.allowExtInfo || choice.allowExtInfo
    ignorenext := ses.ignorenext || choice.ignorenext
    kexstate :=
      { ses.kexstate with
        strictKex := ses.kexstate.strictKex || choice.strictKex
        themFirstfollows := ses.kexstate.themFirstfollows || choice.themFirstfollows
        ourFirstFollowsMatches :=
          ses.kexstate.ourFirstFollowsMatches || choice.ourFirstFollowsMatches } }

/-- The start of the exchange hash: both idents, and the payloads of both KEXINITs. -/
def startKexhash (config : Config σ) (remoteident transkexinit received : Bytes)
    (kexhashbuf : Buffer) : Except Exit Buffer :=
  match config.role with
  | .client => do
    let kexhashbuf ← bufPutstring kexhashbuf config.localIdent
    let kexhashbuf ← bufPutstring kexhashbuf remoteident
    let kexhashbuf ← bufPutstring kexhashbuf transkexinit
    bufPutstring kexhashbuf received
  | .server => do
    let kexhashbuf ← bufPutstring kexhashbuf remoteident
    let kexhashbuf ← bufPutstring kexhashbuf config.localIdent
    let kexhashbuf ← bufPutstring kexhashbuf received
    bufPutstring kexhashbuf transkexinit

/-- The packet that carries the other side's half of the key exchange. -/
def kexdhType : Role → Nat
  | .client => msgKexdhReply
  | .server => msgKexdhInit

/-- The KEXINIT of the other side has been read. -/
def Ses.kexinitReceived (ses : Ses σ α) (config : Config σ) (choice : KexChoice)
    (kexhashbuf : Buffer) : Ses σ α :=
  let chosen := ses.chosen choice
  { chosen with
    kexhashbuf := some kexhashbuf
    requirenext := kexdhType config.role
    transkexinit := none
    kexstate := { chosen.kexstate with recvkexinit := true } }

/-- The packet from its beginning. -/
def wholePayload (beginning : Nat) (payload : Buffer) : Except Exit Bytes := do
  let payload ← bufSetpos payload beginning
  let ptr ← bufGetptr payload (payload.len - payload.pos)
  payload.peek ptr (payload.len - payload.pos)

/-- We need to send a kex packet, if that has not been done. -/
def ensureKexinit (config : Config σ) : SesM σ α Unit := do
  let ses ← get
  if ses.kexstate.sentkexinit then pure () else sendMsgKexinit config

/-- What is read from a KEXINIT: the choice of algorithms, and the start of the exchange
hash. -/
def readKexinit (config : Config σ) (ses : Ses σ α) (beginning : Nat) (payload : Buffer) :
    Except Exit (KexChoice × Buffer) := do
  let remoteident ← deref ses.remoteident
  let transkexinit ← deref ses.transkexinit
  let kexhashbuf ← bufNew (config.localIdent.length + remoteident.length +
    transkexinit.len + payload.len + kexhashbufMaxInts)
  -- the key context is cleared first
  let _ ← deref ses.newkeys
  let (choice, payload) ← readKexAlgos config.role config.tables
    ses.kexstate.donefirstkex config.sendKexFirstGuess payload
  let received ← wholePayload beginning payload
  let kexhashbuf ← startKexhash config remoteident transkexinit.contents received kexhashbuf
  pure (choice, kexhashbuf)

/-- Take over what was read. -/
def takeKexinit (config : Config σ) (choice : KexChoice) (kexhashbuf : Buffer) :
    SesM σ α Unit := do
  modify (·.kexinitReceived config choice kexhashbuf)
  let ses ← get
  if (ses.kexstate.strictKex ∧ ¬ ses.kexstate.donefirstkex) ∧ ses.recvseq ≠ 1 then
    throw (.exit "First packet wasn't kexinit")
  else pure ()

/-- Handle a KEXINIT.  `payload` is the packet behind its type, which begins at
`beginning`. -/
def recvMsgKexinit (config : Config σ) (beginning : Nat) (payload : Buffer) : SesM σ α Unit := do
  ensureKexinit config
  let ses ← get
  if ses.kexstate.recvkexinit then throw (.exit "Unexpected KEXINIT")
  else do
    let (choice, kexhashbuf) ← lift (readKexinit config ses beginning payload)
    takeKexinit config choice kexhashbuf

end Dropbear.Transport
