/-
# The packet that follows a wrong guess

A side may send its half of the key exchange right behind its KEXINIT, for the method it
guesses.  If the guess is wrong that packet is to be discarded.  It is, if it has the type
that is required next.  A packet for a method with other message numbers is answered as not
implemented instead, and the flag stays set: what is discarded then is the packet of the
method that was agreed on.
-/

import Dropbear.Kex.Offer
import Dropbear.Program.Spec
import Dropbear.Transport.Process

namespace Dropbear.Transport

open Program Kex

variable {σ α : Type} {config : Config σ} {packettypes : List (Nat × Handler σ α)}
  {ses ses' after : Ses σ α}

/-! ## What sending leaves alone -/

/-- What decides about the next packet that is received. -/
structure Receiving where
  ignorenext : Bool
  requirenext : Nat
  authdone : Bool
  donefirstkex : Bool
  strictKex : Bool
  recvfirstnewkeys : Bool
  deriving DecidableEq, Repr

def Ses.receiving (ses : Ses σ α) : Receiving where
  ignorenext := ses.ignorenext
  requirenext := ses.requirenext
  authdone := ses.authdone
  donefirstkex := ses.kexstate.donefirstkex
  strictKex := ses.kexstate.strictKex
  recvfirstnewkeys := ses.kexstate.recvfirstnewkeys

theorem Ses.receiving_active (ses : Ses σ α) (type : Nat) :
    (ses.active type).receiving = ses.receiving := by
  rw [Ses.active]
  split <;> rfl

/-- The session receives in this way. -/
def Receives (view : Receiving) (ses : Ses σ α) : Prop := ses.receiving = view

/-- Whether a session is strict depends on the flags of the exchange alone. -/
theorem firstStrictKex_congr {view : Receiving} (same : ses.receiving = view) :
    ses.firstStrictKex = (view.strictKex && !view.recvfirstnewkeys) := by
  rw [← same]
  rfl

/-- The verdict on a packet depends on these alone. -/
theorem verdict_congr (same : ses.receiving = ses'.receiving) (type : Nat) :
    verdict ses type = verdict ses' type := by
  have ignorenext : ses.ignorenext = ses'.ignorenext := congrArg Receiving.ignorenext same
  have requirenext : ses.requirenext = ses'.requirenext := congrArg Receiving.requirenext same
  have authdone : ses.authdone = ses'.authdone := congrArg Receiving.authdone same
  have strict : ses.firstStrictKex = ses'.firstStrictKex := firstStrictKex_congr same
  rw [verdict, verdict, ignorenext, requirenext, authdone, strict]

section

variable {view : Receiving}

theorem maintains_lift {β : Type} (computed : Except Exit β) :
    Maintains (Receives view : Ses σ α → Prop) (lift computed) := by
  cases computed with
  | ok value => exact .pure value
  | error failure => exact .throw trivial

theorem maintains_encryptPacket (payload : Bytes) :
    Maintains (Receives view : Ses σ α → Prop) (encryptPacket config payload) := by
  intro before held
  rw [encryptPacket, EStateM.get_bind_apply]
  cases payload with
  | nil => exact ⟨held, trivial⟩
  | cons byte rest =>
    dsimp only
    split
    · exact held
    · exact held

theorem maintains_sendMsgKexdhInit :
    Maintains (Receives view : Ses σ α → Prop) (sendMsgKexdhInit config) := by
  refine .get_bind fun before held => ?_
  refine (maintains_lift _).bind fun newkeys => (maintains_lift _).bind fun method => ?_
  exact .set_bind held (maintains_encryptPacket _)

theorem maintains_sendFirstGuess :
    Maintains (Receives view : Ses σ α → Prop) (sendFirstGuess config) := by
  refine (maintains_lift _).bind fun kex => (maintains_lift _).bind fun signature => ?_
  refine .bind (.modified fun _ held => ?_) fun _ => maintains_sendMsgKexdhInit
  exact held

theorem maintains_sendMsgKexinit :
    Maintains (Receives view : Ses σ α → Prop) (sendMsgKexinit config) := by
  refine .get_bind fun before held => ?_
  refine (maintains_lift _).bind fun writepayload => (maintains_lift _).bind fun transkexinit => ?_
  refine .set_bind held ((maintains_encryptPacket _).bind fun _ => ?_)
  refine .bind (.modified fun _ held' => held') fun _ => ?_
  split
  · exact maintains_sendFirstGuess
  · exact .pure ()

theorem maintains_ensureKexinit :
    Maintains (Receives view : Ses σ α → Prop) (ensureKexinit config) := by
  refine .get_bind fun before _ => ?_
  split
  · exact .pure ()
  · exact maintains_sendMsgKexinit

end

/-! ## What a KEXINIT leaves -/

theorem ends_lift {β : Type} (computed : Except Exit β) (ses : Ses σ α) :
    Ends (fun value after => computed = .ok value ∧ after = ses) (fun _ _ => True)
      (lift computed ses) := by
  cases computed with
  | ok value => exact ⟨rfl, rfl⟩
  | error failure => trivial

/-- A KEXINIT that was read with this choice leaves the session waiting for the other half of
the exchange. -/
def Receiving.withChoice (view : Receiving) (role : Role) (choice : KexChoice) : Receiving :=
  { view with
    ignorenext := view.ignorenext || choice.ignorenext
    requirenext := kexdhType role
    strictKex := view.strictKex || choice.strictKex }

/-- The algorithms are chosen before anything that is received changes. -/
theorem choice_of_readKexinit {beginning : Nat} {payload kexhashbuf : Buffer} {choice : KexChoice}
    (read : readKexinit config ses beginning payload = .ok (choice, kexhashbuf)) :
    ∃ rest, readKexAlgos config.role config.tables ses.kexstate.donefirstkex
      config.sendKexFirstGuess payload = .ok (choice, rest) := by
  obtain ⟨remoteident, _, read⟩ := Except.bind_eq_ok.1 read
  obtain ⟨transkexinit, _, read⟩ := Except.bind_eq_ok.1 read
  obtain ⟨empty, _, read⟩ := Except.bind_eq_ok.1 read
  obtain ⟨newkeys, _, read⟩ := Except.bind_eq_ok.1 read
  obtain ⟨⟨choice', rest⟩, chosen, read⟩ := Except.bind_eq_ok.1 read
  obtain ⟨received, _, read⟩ := Except.bind_eq_ok.1 read
  obtain ⟨kexhashbuf', _, read⟩ := Except.bind_eq_ok.1 read
  cases read
  exact ⟨rest, chosen⟩

theorem ends_recvMsgKexinit (config : Config σ) (beginning : Nat) (payload : Buffer)
    (ses : Ses σ α) :
    Ends (fun _ after => ∃ choice rest,
        readKexAlgos config.role config.tables ses.kexstate.donefirstkex
          config.sendKexFirstGuess payload = .ok (choice, rest) ∧
        after.receiving = ses.receiving.withChoice config.role choice)
      (fun _ _ => True) (recvMsgKexinit config beginning payload ses) := by
  have offered : Ends (fun _ => Receives ses.receiving) (fun _ _ => True)
      (ensureKexinit config ses) :=
    (maintains_ensureKexinit ses rfl).imp (fun _ _ held => held) fun _ _ _ => trivial
  refine offered.bind fun _ middle same => ?_
  have done : middle.kexstate.donefirstkex = ses.kexstate.donefirstkex :=
    congrArg Receiving.donefirstkex same
  rw [EStateM.get_bind_apply]
  split
  · trivial
  · refine (ends_lift _ middle).bind fun ⟨choice, kexhashbuf⟩ _ ⟨read, here⟩ => ?_
    subst here
    obtain ⟨rest, chosen⟩ := choice_of_readKexinit read
    rw [done] at chosen
    dsimp only [takeKexinit]
    rw [EStateM.bind_of_ok (EStateM.modify_apply _ _), EStateM.get_bind_apply]
    split
    · trivial
    · refine ⟨choice, rest, chosen, ?_⟩
      rw [← same]
      rfl

/-! ## The packets after a KEXINIT -/

/-- The type of a packet. -/
def packetType (packet : Nat × Buffer) : Option Nat :=
  match bufGetbyte packet.2 with
  | .ok (type, _) => some type.toNat
  | .error _ => none

theorem processPacket_of_packetType (config : Config σ) (packettypes : List (Nat × Handler σ α))
    {packet : Nat × Buffer} {type : Nat} (typed : packetType packet = some type) (ses : Ses σ α) :
    ∃ behind, (∃ byte, bufGetbyte packet.2 = .ok (byte, behind)) ∧
      processPacket config packettypes packet ses =
        (carryOut config packettypes type packet.1 behind (verdict ses type) >>= fun _ =>
          modify (·.processed type)) ses.heard := by
  rw [packetType] at typed
  split at typed
  case _ byte behind read =>
    cases typed
    refine ⟨behind, ⟨byte, read⟩, ?_⟩
    rw [processPacket, read]
    rfl
  case _ => cases typed

/-- The packet that follows a wrong guess is discarded without an answer, and the next one
is given to its handler. -/
def GuessDiscarded (config : Config σ) (packettypes : List (Nat × Handler σ α)) (ses : Ses σ α)
    (guess : Nat × Buffer) : Prop :=
  ∃ after, processPacket config packettypes guess ses = .ok () after ∧
    after.sent = ses.sent ∧ after.replyQueue = ses.replyQueue ∧
      verdict after (kexdhType config.role) = .dispatch

/-- After a KEXINIT with this choice, one packet is discarded if the guess was wrong, and none
if it was right. -/
def GuessHandled (config : Config σ) (packettypes : List (Nat × Handler σ α)) (choice : KexChoice)
    (ses : Ses σ α) (guess : Nat × Buffer) : Prop :=
  if choice.ignorenext then GuessDiscarded config packettypes ses guess
  else verdict ses (kexdhType config.role) = .dispatch

theorem ignorenext_of_dispatch {type : Nat} (dispatched : verdict ses type = .dispatch) :
    ses.ignorenext = false := by
  rw [verdict] at dispatched
  split at dispatched
  · cases dispatched
  · split at dispatched
    · cases dispatched
    · split at dispatched
      · split at dispatched
        · cases dispatched
        · cases dispatched
      · split at dispatched
        · cases dispatched
        case _ unset => exact Bool.eq_false_iff.2 unset

theorem Ses.kexstate_cleared (ses : Ses σ α) (type : Nat) :
    ((ses.heard.active type).cleared type).kexstate = ses.kexstate := by
  rw [Ses.active, Ses.cleared]
  split
  · split <;> rfl
  · split <;> rfl

/-- Clearing what was required makes no difference to a KEXINIT. -/
theorem Ses.withChoice_cleared (ses : Ses σ α) (type : Nat) (role : Role) (choice : KexChoice) :
    ((ses.heard.active type).cleared type).receiving.withChoice role choice =
      ses.receiving.withChoice role choice := by
  rw [Ses.active, Ses.cleared]
  split
  · split <;> rfl
  · split <;> rfl

/-- What a KEXINIT that was handled leaves. -/
theorem receiving_of_kexinit {name : Nat}
    (listed : packettypes.find? (·.1 = msgKexinit) = some (name, recvMsgKexinit config))
    {kexinit : Nat × Buffer} (typed : packetType kexinit = some msgKexinit)
    (dispatched : verdict ses msgKexinit = .dispatch)
    (ran : processPacket config packettypes kexinit ses = .ok () after) :
    ∃ behind choice rest, (∃ byte, bufGetbyte kexinit.2 = .ok (byte, behind)) ∧
      readKexAlgos config.role config.tables ses.kexstate.donefirstkex
        config.sendKexFirstGuess behind = .ok (choice, rest) ∧
      after.receiving = ses.receiving.withChoice config.role choice := by
  obtain ⟨behind, read, processed⟩ := processPacket_of_packetType config packettypes typed ses
  rw [dispatched] at processed
  rw [processed] at ran
  obtain ⟨_, middle, carried, noted⟩ := EStateM.bind_eq_ok.1 ran
  cases noted
  rw [carryOut, EStateM.bind_of_ok (EStateM.modify_apply _ _), callHandler, listed] at carried
  have ended := ends_recvMsgKexinit config kexinit.1 behind
    ((ses.heard.active msgKexinit).cleared msgKexinit)
  dsimp only at carried
  rw [carried] at ended
  obtain ⟨choice, rest, chosen, same⟩ := ended
  rw [Ses.withChoice_cleared] at same
  rw [Ses.kexstate_cleared] at chosen
  exact ⟨behind, choice, rest, read, chosen, same⟩

/-- The verdict on a packet of a key exchange method, while the other half of an exchange is
required. -/
theorem verdict_method {role : Role} {type : Nat} (least : 30 ≤ type) (most : type ≤ 49)
    (required : ses.requirenext = kexdhType role) (lax : ses.firstStrictKex = false) :
    verdict ses type =
      if type = kexdhType role then if ses.ignorenext then .ignore else .dispatch
      else .unimplemented := by
  have some : kexdhType role ≠ 0 := by cases role <;> decide
  have allowed : allowedMeanwhile type := by
    simp only [allowedMeanwhile, Bool.and_eq_true, decide_eq_true_iff]
    simp only [msgServiceRequest, msgServiceAccept, msgKexinit]
    omega
  rw [verdict, required, lax, if_neg (by simp only [msgDisconnect]; omega),
    if_neg (by simp only [msgIgnore, msgDebug, msgUnimplemented]; omega)]
  by_cases same : type = kexdhType role
  · rw [if_neg (fun other => other.2 same.symm), if_pos same]
    split
    · rfl
    · rw [if_neg]
      simp only [maxUnauthPacketType, msgUserauthSpecific60]
      omega
  · rw [if_pos ⟨some, fun other => same other.symm⟩, if_neg same, if_pos ⟨allowed, Bool.false_ne_true⟩]

section

variable {packet : Nat × Buffer} {type : Nat}

variable (config packettypes) in
/-- A packet that is answered as not implemented leaves the session waiting as before. -/
theorem processPacket_unimplemented (typed : packetType packet = some type)
    (judged : verdict ses type = .unimplemented) :
    ∃ after, processPacket config packettypes packet ses = .ok () after ∧
      (∃ answer, after.sent = ses.sent ++ [answer]) ∧ after.receiving = ses.receiving := by
  obtain ⟨behind, _, processed⟩ := processPacket_of_packetType config packettypes typed ses
  have answered := recvUnimplemented_apply config (ses.heard.active type)
  rw [← EStateM.bind_of_ok (EStateM.modify_apply (·.active type) ses.heard)
    fun _ => recvUnimplemented config] at answered
  rw [processed, judged, carryOut, EStateM.bind_of_ok answered]
  have kept : (ses.heard.active type).sent = ses.sent := ses.heard.sent_active type
  rw [← kept]
  exact ⟨_, rfl, ⟨_, rfl⟩, ses.heard.receiving_active type⟩

theorem not_guessDiscarded (typed : packetType packet = some type)
    (judged : verdict ses type = .unimplemented) :
    ¬ GuessDiscarded config packettypes ses packet := by
  obtain ⟨after, ran, ⟨answer, sent⟩, _⟩ :=
    processPacket_unimplemented config packettypes typed judged
  rintro ⟨after', ran', silent, _⟩
  rw [ran] at ran'
  cases ran'
  rw [sent] at silent
  cases List.append_right_eq_self.1 silent

variable (config packettypes) in
/-- A packet that is ignored leaves nothing but the flag changed. -/
theorem processPacket_ignore (typed : packetType packet = some type)
    (judged : verdict ses type = .ignore) :
    ∃ after, processPacket config packettypes packet ses = .ok () after ∧
      after.sent = ses.sent ∧ after.replyQueue = ses.replyQueue ∧
        after.receiving = { ses.receiving with ignorenext := false } := by
  obtain ⟨behind, _, processed⟩ := processPacket_of_packetType config packettypes typed ses
  rw [processed, judged, carryOut, EStateM.bind_of_ok (EStateM.modify_apply _ _)]
  refine ⟨_, rfl, ses.heard.sent_active type, ses.heard.replyQueue_active type, ?_⟩
  exact congrArg (fun view => { view with ignorenext := false }) (ses.heard.receiving_active type)

end

/-- The tables of the client, which has one of the two methods. -/
def guessTables : Tables :=
  { twoMethodTables true with
    sshkex :=
      [ { name := ascii "ecdh-sha2-nistp256"
          data := some { mode := .ecdh, details := 0, hashDesc := 0 }
          usable := true } ] }

/-- A packet that fills its buffer. -/
def packetOf (bytes : Bytes) (short : bytes.length ≤ bufMaxSize) : Nat × Buffer :=
  (0, .ofBytes bytes short)

def guessConfig : Config Unit where
  role := .server
  tables := twoMethodTables true
  localIdent := ascii "SSH-2.0-dropbear"
  sendKexFirstGuess := false
  cookie := fun _ => List.replicate 16 0
  genKexParam := fun _ _ => []
  wireLength := fun packet => packet.payload.length

def guessPackettypes : List (Nat × Handler Unit Unit) := [(msgKexinit, recvMsgKexinit guessConfig)]

/-- The server has sent its KEXINIT. -/
def guessSes : Ses Unit Unit :=
  { (commonSessionInit 100 () : Ses Unit Unit).kexinitSent with
    transkexinit := some (packetOf (ascii "KEXINIT") (by decide)).2
    remoteident := some (ascii "SSH-2.0-other")
    transseq := 1
    recvseq := 1 }

/-- The KEXINIT of the client, which announces that a packet follows. -/
def guessKexinit : Nat × Buffer :=
  packetOf (offer guessTables (List.replicate 16 0) true) (by decide +kernel)

theorem guessKexinit_read :
    ∃ after, processPacket guessConfig guessPackettypes guessKexinit guessSes = .ok () after ∧
      after.ignorenext ∧ after.firstStrictKex = false ∧
        after.requirenext = kexdhType guessConfig.role := by
  have run : (match processPacket guessConfig guessPackettypes guessKexinit guessSes with
      | .ok _ after => after.ignorenext && !after.firstStrictKex &&
          after.requirenext = kexdhType guessConfig.role
      | .error _ _ => false) = true := by decide +kernel
  split at run
  case _ after ran =>
    obtain ⟨⟨wrong, lax⟩, required⟩ := (Bool.and_eq_true _ _).mp run |>.imp_left
      (Bool.and_eq_true _ _).mp
    exact ⟨after, ran, wrong, Bool.not_eq_true' _ ▸ lax, of_decide_eq_true required⟩
  case _ => cases run

theorem bufGetbyte_guessKexinit :
    ∃ behind, bufGetbyte guessKexinit.2 = .ok (msgKexinit.toUInt8, behind) := by
  have rest : guessKexinit.2.rest =
      msgKexinit.toUInt8 :: offerBody guessTables (List.replicate 16 0) true :=
    Buffer.rest_ofBytesAt 0 _ _ _
  exact ⟨_, bufGetbyte_of_rest rest⟩

end Dropbear.Transport
