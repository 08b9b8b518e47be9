/-
# The negotiation of algorithms

`send_msg_kexinit` offers the tables of one side, and `read_kex_algos` picks from
them by the other side's offer.  The payload of the packet is built and read on
buffers.  Where `read_kex_algos` writes to the session it only sets fields that
nothing else reads before it returns, so what it leaves there is its result.
-/

import Dropbear.Kex.Algo
import Dropbear.Packet.Message
import Dropbear.Signkey.Basic

namespace Dropbear.Kex

open Program Signkey

/-! ## What the tables store -/

/-- `enum dropbear_kex_mode`. -/
inductive KexMode where
  | normalDh
  | ecdh
  | curve25519
  | pqhybrid
  deriving DecidableEq, Repr

/-- `struct dropbear_kex`: the group, curve or KEM and the hash, by number. -/
structure DropbearKex where
  mode : KexMode
  details : Nat
  hashDesc : Nat
  deriving DecidableEq, Repr

/-- `struct dropbear_cipher`.  The descriptor of no encryption is null. -/
structure DropbearCipher where
  cipherdesc : Option Nat
  keysize : Nat
  blocksize : Nat
  deriving DecidableEq, Repr

/-- `struct dropbear_hash`.  An implicit MAC has no descriptor. -/
structure DropbearHash where
  hashDesc : Option Nat
  keysize : Nat
  hashsize : Nat
  deriving DecidableEq, Repr

/-- `struct dropbear_cipher_mode`, by name. -/
inductive CipherMode where
  | none
  | cbc
  | ctr
  | gcm
  | chachapoly
  deriving DecidableEq, Repr

/-- `aead_mac`, of the modes that have an `aead_crypt`. -/
def CipherMode.aeadMac : CipherMode → Option DropbearHash
  | .none | .cbc | .ctr => Option.none
  | .gcm => some { hashDesc := Option.none, keysize := 0, hashsize := 16 }
  | .chachapoly => some { hashDesc := Option.none, keysize := 32, hashsize := 16 }

/-- The compression methods. -/
inductive Comp where
  | none
  | zlib
  | zlibDelay
  deriving DecidableEq, Repr

/-- The tables of one side. -/
structure Tables where
  sshkex : List (Algo (Option DropbearKex))
  sigalgs : List (Algo SignatureType)
  sshciphers : List (Algo (DropbearCipher × CipherMode))
  sshhashes : List (Algo DropbearHash)
  compressAlgosC2s : List (Algo Comp)
  compressAlgosS2c : List (Algo Comp)

/-! ## The offer -/

def kexguess2AlgoName : Bytes := ascii "kexguess2@matt.ucc.asn.au"
def sshExtInfoC : Bytes := ascii "ext-info-c"
def sshStrictKexS : Bytes := ascii "kex-strict-s-v00@openssh.com"
def sshStrictKexC : Bytes := ascii "kex-strict-c-v00@openssh.com"

/-- The payload of `send_msg_kexinit`, with the random cookie. -/
def putKexinit (tables : Tables) (cookie : Bytes) (sendKexFirstGuess : Bool) (buf : Buffer) :
    Except Exit Buffer := do
  let buf ← bufPutbyte buf msgKexinit.toUInt8
  let buf ← bufPutbytes buf cookie
  let buf ← bufPutAlgolist buf tables.sshkex
  let buf ← bufPutAlgolist buf tables.sigalgs
  let buf ← bufPutAlgolist buf tables.sshciphers
  let buf ← bufPutAlgolist buf tables.sshciphers
  let buf ← bufPutAlgolist buf tables.sshhashes
  let buf ← bufPutAlgolist buf tables.sshhashes
  let buf ← bufPutAlgolist buf tables.compressAlgosC2s
  let buf ← bufPutAlgolist buf tables.compressAlgosS2c
  let buf ← bufPutstring buf []
  let buf ← bufPutstring buf []
  let buf ← bufPutbyte buf (if sendKexFirstGuess then 1 else 0)
  bufPutint buf 0

/-! ## The choice -/

/-- The algorithms of one direction, as they are negotiated. -/
structure DirAlgos where
  algoCrypt : DropbearCipher
  cryptMode : CipherMode
  algoMac : DropbearHash
  algoComp : Comp
  deriving DecidableEq, Repr

/-- What `read_kex_algos` leaves in the session.  The last five fields say which
flags it sets. -/
structure KexChoice where
  algoKex : DropbearKex
  algoSignature : SignatureType
  recv : DirAlgos
  trans : DirAlgos
  allowExtInfo : Bool
  strictKex : Bool
  themFirstfollows : Bool
  ignorenext : Bool
  ourFirstFollowsMatches : Bool
  deriving DecidableEq, Repr

/-- An algorithm that has to be found. -/
def required {α : Type} (erralgo : String) : Option α → Except Exit α
  | none => .error (.exit ("No matching algo " ++ erralgo))
  | some algo => .ok algo

/-- The MAC of a direction: that of the cipher mode if it has one. -/
def chooseMac (erralgo : String) (mode : CipherMode) (algo : Option (Algo DropbearHash)) :
    Except Exit DropbearHash :=
  match mode.aeadMac with
  | some mac => .ok mac
  | none => do
    let algo ← required erralgo algo
    pure algo.data

/-- The name by which the other side asks for strict key exchange. -/
def strictName : Role → Bytes
  | .client => sshStrictKexS
  | .server => sshStrictKexC

/-- The flags read from the list of key exchange methods: `kexguess2`, extension
info and strict key exchange. -/
def readKexFlags (role : Role) (donefirstkex : Bool) (payload : Buffer) :
    Except Exit (Bool × Bool × Bool) := do
  let kexguess2 ← bufHasAlgo payload kexguess2AlgoName
  let allowExtInfo ←
    match role, donefirstkex with
    | .server, false => bufHasAlgo payload sshExtInfoC
    | _, _ => pure false
  let strictKex ← if donefirstkex then pure false else bufHasAlgo payload (strictName role)
  pure (kexguess2, allowExtInfo, strictKex)

/-- The cipher, MAC and compression of both directions. -/
def readDirections (role : Role) (tables : Tables) (payload : Buffer) :
    Except Exit ((DirAlgos × DirAlgos) × Buffer) := do
  let ((c2sCipher, _), payload) ← bufMatchAlgo role tables.sshciphers false payload
  let c2sCipher ← required "enc c->s" c2sCipher
  let ((s2cCipher, _), payload) ← bufMatchAlgo role tables.sshciphers false payload
  let s2cCipher ← required "enc s->c" s2cCipher
  let ((c2sHash, _), payload) ← bufMatchAlgo role tables.sshhashes false payload
  let c2sMac ← chooseMac "mac c->s" c2sCipher.data.2 c2sHash
  let ((s2cHash, _), payload) ← bufMatchAlgo role tables.sshhashes false payload
  let s2cMac ← chooseMac "mac s->c" s2cCipher.data.2 s2cHash
  let ((c2sComp, _), payload) ← bufMatchAlgo role tables.compressAlgosC2s false payload
  let c2sComp ← required "comp c->s" c2sComp
  let ((s2cComp, _), payload) ← bufMatchAlgo role tables.compressAlgosS2c false payload
  let s2cComp ← required "comp s->c" s2cComp
  pure
    (({ algoCrypt := c2sCipher.data.1
        cryptMode := c2sCipher.data.2
        algoMac := c2sMac
        algoComp := c2sComp.data },
      { algoCrypt := s2cCipher.data.1
        cryptMode := s2cCipher.data.2
        algoMac := s2cMac
        algoComp := s2cComp.data }), payload)

/-- Read the other side's offer, from behind the message type, and choose. -/
def readKexAlgos (role : Role) (tables : Tables) (donefirstkex sendKexFirstGuess : Bool)
    (payload : Buffer) : Except Exit (KexChoice × Buffer) := do
  -- start after the cookie
  let payload ← bufIncrpos payload 16
  let (kexguess2, allowExtInfo, strictKex) ← readKexFlags role donefirstkex payload
  let ((kex, goodKex), payload) ← bufMatchAlgo role tables.sshkex kexguess2 payload
  -- an entry without data is not a method
  let algoKex ← required "kex" (kex.bind (·.data))
  let ((sig, goodSig), payload) ← bufMatchAlgo role tables.sigalgs kexguess2 payload
  let sig ← required "hostkey" sig
  let ((c2s, s2c), payload) ← readDirections role tables payload
  let payload ← bufEatstring payload
  let payload ← bufEatstring payload
  let (themFirstfollows, payload) ← bufGetbool payload
  let (_, payload) ← bufGetint payload
  let allgood := goodKex && goodSig
  pure
    ({ algoKex := algoKex
       algoSignature := sig.data
       recv := match role with
         | .client => s2c
         | .server => c2s
       trans := match role with
         | .client => c2s
         | .server => s2c
       allowExtInfo := allowExtInfo
       strictKex := strictKex
       themFirstfollows := themFirstfollows
       ignorenext := themFirstfollows && !allgood
       ourFirstFollowsMatches := sendKexFirstGuess && allgood }, payload)

end Dropbear.Kex
