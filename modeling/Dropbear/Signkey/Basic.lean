/-
# Public keys on the wire

The public key half of `signkey.c`, with the parsers of `rsa.c`, `ecdsa.c` and
`ed25519.c`, for the default build: RSA, ECDSA, Ed25519 and the security-key
types of the last two, without DSS and without SHA-1 RSA signatures.

The point check on a curve and the arithmetic of signature verification are
parameters.  Everything up to them, in particular where a key ends in the bytes
it is read from, is as in the source.
-/

import Dropbear.Buffer.Basic

namespace Dropbear.Signkey

open Program

/-! ## Key and signature types -/

/-- `enum signkey_type`, the named types. -/
inductive SignkeyType where
  | rsa
  | ecdsaNistp256
  | ecdsaNistp384
  | ecdsaNistp521
  | skEcdsaNistp256
  | ed25519
  | skEd25519
  deriving DecidableEq, Repr

/-- `signkey_names`, with the type each entry stands for. -/
def signkeyNames : List (SignkeyType × Bytes) :=
  [(.rsa, ascii "ssh-rsa"),
    (.ecdsaNistp256, ascii "ecdsa-sha2-nistp256"),
    (.ecdsaNistp384, ascii "ecdsa-sha2-nistp384"),
    (.ecdsaNistp521, ascii "ecdsa-sha2-nistp521"),
    (.skEcdsaNistp256, ascii "sk-ecdsa-sha2-nistp256@openssh.com"),
    (.ed25519, ascii "ssh-ed25519"),
    (.skEd25519, ascii "sk-ssh-ed25519@openssh.com")]

def signkeyNameFromType : SignkeyType → Bytes
  | .rsa => ascii "ssh-rsa"
  | .ecdsaNistp256 => ascii "ecdsa-sha2-nistp256"
  | .ecdsaNistp384 => ascii "ecdsa-sha2-nistp384"
  | .ecdsaNistp521 => ascii "ecdsa-sha2-nistp521"
  | .skEcdsaNistp256 => ascii "sk-ecdsa-sha2-nistp256@openssh.com"
  | .ed25519 => ascii "ssh-ed25519"
  | .skEd25519 => ascii "sk-ssh-ed25519@openssh.com"

/-- `none` is `DROPBEAR_SIGNKEY_NONE`. -/
def signkeyTypeFromName (name : Bytes) : Option SignkeyType :=
  (signkeyNames.find? (fun entry => entry.2 = name)).map (·.1)

/-- `enum signature_type`: the key types, and `rsa-sha2-256`, which is only a
signature name. -/
inductive SignatureType where
  | rsaSha256
  | ofSignkey (type : SignkeyType)
  deriving DecidableEq, Repr

/-- `none` is `DROPBEAR_SIGNATURE_NONE`. -/
def signatureTypeFromName (name : Bytes) : Option SignatureType :=
  if name = ascii "rsa-sha2-256" then some .rsaSha256
  else (signkeyTypeFromName name).map .ofSignkey

def signkeyTypeFromSignature : SignatureType → SignkeyType
  | .rsaSha256 => .rsa
  | .ofSignkey type => type

/-! ## Keys -/

/-- The curves of `dropbear_ecc_curves`. -/
inductive Curve where
  | nistp256
  | nistp384
  | nistp521
  deriving DecidableEq, Repr

def Curve.name : Curve → Bytes
  | .nistp256 => ascii "nistp256"
  | .nistp384 => ascii "nistp384"
  | .nistp521 => ascii "nistp521"

/-- `curve->dp->size`: bytes of a coordinate. -/
def Curve.size : Curve → Nat
  | .nistp256 => 32
  | .nistp384 => 48
  | .nistp521 => 66

def dropbearEccCurves : List Curve := [.nistp256, .nistp384, .nistp521]

/-- The public part of a `sign_key`. -/
inductive PubKey where
  | rsa (e n : Nat)
  | ecdsa (curve : Curve) (x y : Nat)
  | skEcdsa (curve : Curve) (x y : Nat) (skApp : Bytes)
  | ed25519 (pub : Bytes)
  | skEd25519 (pub skApp : Bytes)
  deriving DecidableEq, Repr

/-- What is not modelled of the cryptography: the point check, and the
verification of the signature bytes that follow the name of the signature type. -/
structure Crypto where
  eccIsPoint : Curve → Nat → Nat → Bool
  verify : PubKey → SignatureType → (skFlagsMask : Nat) → (signature data : Bytes) →
    Except Exit Bool

def minRsaKeylen : Nat := 1024
def curve25519Len : Nat := 32

/-- `mp_count_bits`. -/
def mpCountBits (n : Nat) : Nat := if n = 0 then 0 else n.log2 + 1

/-- The two numbers of an RSA key, after its type. -/
def bufGetRsaNumbers (buf : Buffer) : Except Exit (Option PubKey × Buffer) := do
  let (e, buf) ← bufGetmpint buf
  match e with
  | none => pure (none, buf)
  | some e => do
    let (n, buf) ← bufGetmpint buf
    match n with
    | none => pure (none, buf)
    | some n =>
      if mpCountBits n < minRsaKeylen then pure (none, buf)
      else if mpCountBits e > 64 then pure (none, buf)
      else pure (some (.rsa e n), buf)

def bufGetRsaPubKey (buf : Buffer) : Except Exit (Option PubKey × Buffer) := do
  let buf ← bufIncrpos buf (4 + (ascii "ssh-rsa").length)
  bufGetRsaNumbers buf

/-- The key bytes, after the type and the length in front of them. -/
def bufGetEd25519Bytes (len : Nat) (buf : Buffer) : Except Exit (Option Bytes × Buffer) :=
  if len ≠ curve25519Len ∨ buf.len - buf.pos < len then .ok (none, buf)
  else do
    let ptr ← bufGetptr buf curve25519Len
    let pub ← buf.peek ptr curve25519Len
    let buf ← bufIncrpos buf curve25519Len
    pure (some pub, buf)

/-- The answer is `none` for `DROPBEAR_FAILURE`. -/
def bufGetEd25519PubKey (expectKeytype : SignkeyType) (buf : Buffer) :
    Except Exit (Option Bytes × Buffer) := do
  let (keytype, buf) ← bufGetstring buf
  if signkeyTypeFromName keytype ≠ some expectKeytype then pure (none, buf)
  else do
    let (len, buf) ← bufGetint buf
    bufGetEd25519Bytes len buf

def bufGetEccRawPubkey (crypto : Crypto) (buf : Buffer) (curve : Curve) :
    Except Exit (Option (Nat × Nat)) := do
  let buf ← bufSetpos buf 0
  let (first, buf) ← bufGetbyte buf
  if first = 2 ∨ first = 3 then pure none
  else if first ≠ 4 ∨ buf.len ≠ 1 + 2 * curve.size then pure none
  else do
    let ptr ← bufGetptr buf curve.size
    let x ← buf.peek ptr curve.size
    let buf ← bufIncrpos buf curve.size
    let ptr ← bufGetptr buf curve.size
    let y ← buf.peek ptr curve.size
    let _ ← bufIncrpos buf curve.size
    if ¬ crypto.eccIsPoint curve (ofBe x) (ofBe y) then pure none
    else if ofBe x = 0 then pure none
    else if ofBe y = 0 then pure none
    else pure (some (ofBe x, ofBe y))

/-- Whether the curve identifier belongs to the key's name. -/
def identifiersMatch (keyIdent identifier : Bytes) : Bool :=
  if cString keyIdent = ascii "sk-ecdsa-sha2-nistp256@openssh.com" then
    cString identifier = ascii "nistp256"
  else
    keyIdent.length = identifier.length + (ascii "ecdsa-sha2-").length ∧
      keyIdent.drop (ascii "ecdsa-sha2-").length = identifier

def bufGetEcdsaPubKey (crypto : Crypto) (buf : Buffer) :
    Except Exit (Option (Curve × Nat × Nat) × Buffer) := do
  let (keyIdent, buf) ← bufGetstring buf
  let (identifier, buf) ← bufGetstring buf
  if ¬ identifiersMatch keyIdent identifier then pure (none, buf)
  else
    match dropbearEccCurves.find? (fun curve => curve.name.isPrefixOf identifier) with
    | none => pure (none, buf)
    | some curve => do
      let (qBuf, buf) ← bufGetstringbuf buf
      let point ← bufGetEccRawPubkey crypto qBuf curve
      pure (point.map (fun xy => (curve, xy.1, xy.2)), buf)

/-- The key itself, after its type has been read and stepped back over. -/
def bufGetPubKeyOfType (crypto : Crypto) (buf : Buffer) :
    SignkeyType → Except Exit (Option PubKey × Buffer)
  | .rsa => bufGetRsaPubKey buf
  | .ecdsaNistp256 | .ecdsaNistp384 | .ecdsaNistp521 => do
    let (point, buf) ← bufGetEcdsaPubKey crypto buf
    pure (point.map (fun key => .ecdsa key.1 key.2.1 key.2.2), buf)
  | .skEcdsaNistp256 => do
    let (point, buf) ← bufGetEcdsaPubKey crypto buf
    let (skApp, buf) ← bufGetstring buf
    pure (point.map (fun key => .skEcdsa key.1 key.2.1 key.2.2 skApp), buf)
  | .ed25519 => do
    let (pub, buf) ← bufGetEd25519PubKey .ed25519 buf
    pure (pub.map .ed25519, buf)
  | .skEd25519 => do
    let (pub, buf) ← bufGetEd25519PubKey .skEd25519 buf
    let (skApp, buf) ← bufGetstring buf
    pure (pub.map (fun pub => .skEd25519 pub skApp), buf)

/-- Read a public key of the given type; `none` stands for
`DROPBEAR_SIGNKEY_ANY`.  The answer is `none` for `DROPBEAR_FAILURE`. -/
def bufGetPubKey (crypto : Crypto) (type : Option SignkeyType) (buf : Buffer) :
    Except Exit (Option PubKey × Buffer) := do
  let (ident, buf) ← bufGetstring buf
  if type.isSome ∧ type ≠ signkeyTypeFromName ident then pure (none, buf)
  else do
    -- Rewind the buffer back before "ssh-rsa" etc
    let buf ← bufDecrpos buf (ident.length + 4)
    match signkeyTypeFromName ident with
    | none => pure (none, buf)
    | some keytype => bufGetPubKeyOfType crypto buf keytype

/-- Verify the signature at the position over `data`. -/
def bufVerify (crypto : Crypto) (buf : Buffer) (key : PubKey) (expectSigtype : SignatureType)
    (skFlagsMask : Nat) (data : Bytes) : Except Exit Bool := do
  let (_, buf) ← bufGetint buf
  let (typeName, buf) ← bufGetstring buf
  if some expectSigtype ≠ signatureTypeFromName typeName then
    throw (.exit "Non-matching signing type")
  else crypto.verify key expectSigtype skFlagsMask buf.rest data

end Dropbear.Signkey
