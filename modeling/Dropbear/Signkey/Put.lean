/-
# Writing public keys

`buf_put_pub_key` with the writers of the key types.  The key is put together in
a buffer of `MAX_PUBKEY_SIZE` bytes first.  A security key is written by the
writer of the plain type, which knows neither its name nor its application.
-/

import Dropbear.Signkey.Mpint
import Dropbear.Signkey.Wire

namespace Dropbear.Signkey

open Program

/-- `MAX_PUBKEY_SIZE` of a build with RSA. -/
def maxPubkeySize : Nat := 600

def bufPutRsaPubKey (buf : Buffer) (e n : Nat) : Except Exit Buffer := do
  let buf ← bufPutstring buf (ascii "ssh-rsa")
  let buf ← bufPutmpint buf e
  bufPutmpint buf n

/-- `ecc_ansi_x963_export`; `none` is an error code. -/
def eccAnsiX963Export (curve : Curve) (x y : Nat) : Option Bytes :=
  if mpUbinSize x > curve.size ∨ mpUbinSize y > curve.size then none
  else some (eccPoint curve x y)

def bufPutEccRawPubkeyString (buf : Buffer) (curve : Curve) (x y : Nat) : Except Exit Buffer := do
  let len := curve.size * 2 + 1
  let buf ← bufPutint buf len
  let ptr ← bufGetwriteptr buf len
  match eccAnsiX963Export curve x y with
  | none => throw (.exit "ECC error")
  | some bytes =>
    let buf ← buf.poke ptr bytes
    bufIncrwritepos buf bytes.length

def bufPutEcdsaPubKey (buf : Buffer) (curve : Curve) (x y : Nat) : Except Exit Buffer := do
  let buf ← bufPutstring buf (ascii "ecdsa-sha2-" ++ curve.name)
  let buf ← bufPutstring buf curve.name
  bufPutEccRawPubkeyString buf curve x y

def bufPutEd25519PubKey (buf : Buffer) (pub : Bytes) : Except Exit Buffer := do
  let buf ← bufPutstring buf (ascii "ssh-ed25519")
  bufPutstring buf pub

/-- The ECDSA key that `signkey_key_ptr` finds for a type.  A security key shares
the place of the plain one. -/
def PubKey.eccKey : PubKey → SignkeyType → Option (Curve × Nat × Nat)
  | .ecdsa .nistp256 x y, .ecdsaNistp256 | .ecdsa .nistp256 x y, .skEcdsaNistp256 =>
    some (.nistp256, x, y)
  | .ecdsa .nistp384 x y, .ecdsaNistp384 => some (.nistp384, x, y)
  | .ecdsa .nistp521 x y, .ecdsaNistp521 => some (.nistp521, x, y)
  | .skEcdsa curve x y _, .ecdsaNistp256 | .skEcdsa curve x y _, .skEcdsaNistp256 =>
    some (curve, x, y)
  | _, _ => none

/-- The key in the buffer it is put together in. -/
def putPubkeys (pubkeys : Buffer) (key : PubKey) : SignkeyType → Except Exit Buffer
  | .rsa =>
    match key with
    | .rsa e n => bufPutRsaPubKey pubkeys e n
    | _ => .error (.assertion "key != NULL")
  | .ed25519 | .skEd25519 =>
    match key with
    | .ed25519 pub | .skEd25519 pub _ => bufPutEd25519PubKey pubkeys pub
    | _ => .error (.assertion "key != NULL")
  | type =>
    match key.eccKey type with
    | some (curve, x, y) => bufPutEcdsaPubKey pubkeys curve x y
    | none => .ok pubkeys

/-- Write the key of the given type as a string. -/
def bufPutPubKey (buf : Buffer) (key : PubKey) (type : SignkeyType) : Except Exit Buffer := do
  let pubkeys ← bufNew maxPubkeySize
  let pubkeys ← putPubkeys pubkeys key type
  if pubkeys.len = 0 then throw (.exit "Bad key types in buf_put_pub_key")
  bufPutstring buf pubkeys.contents

/-! ## What is written -/

/-- The bytes of a key of one of the plain types, or of the plain key that a
security key contains. -/
def pubBlob : PubKey → Bytes
  | .rsa e n => wireString (ascii "ssh-rsa") ++ (wireMpint e ++ wireMpint n)
  | .ecdsa curve x y | .skEcdsa curve x y _ =>
    wireString (ascii "ecdsa-sha2-" ++ curve.name) ++
      (wireString curve.name ++ wireString (eccPoint curve x y))
  | .ed25519 pub | .skEd25519 pub _ => wireString (ascii "ssh-ed25519") ++ wireString pub

theorem length_wireString (str : Bytes) : (wireString str).length = 4 + str.length := by
  rw [wireString, List.length_append, length_be32]

theorem pubBlob_ne_nil (key : PubKey) : pubBlob key ≠ [] := by
  cases key <;> simp [pubBlob, wireString, be32]

theorem mpUbinSize_le {n len : Nat} (fits : n < 256 ^ len) : mpUbinSize n ≤ len := by
  rw [show (256 : Nat) = 2 ^ 8 from rfl, ← Nat.pow_mul, ← mpCountBits_le_iff] at fits
  rw [mpUbinSize]
  split <;> omega

theorem IsPoint.exported {crypto : Crypto} {curve : Curve} {x y : Nat}
    (point : IsPoint crypto curve x y) : eccAnsiX963Export curve x y = some (eccPoint curve x y) :=
  if_neg (by
    have := mpUbinSize_le point.x_lt
    have := mpUbinSize_le point.y_lt
    omega)

theorem bufPutEccRawPubkeyString_eq {crypto : Crypto} {curve : Curve} {x y : Nat}
    (point : IsPoint crypto curve x y) (buf : Buffer) :
    bufPutEccRawPubkeyString buf curve x y = bufPutstring buf (eccPoint curve x y) := by
  have length : curve.size * 2 + 1 = (eccPoint curve x y).length := by
    rw [length_eccPoint]
    omega
  simp only [bufPutEccRawPubkeyString, point.exported, length]
  rfl

variable {crypto : Crypto} {type : SignkeyType} {bytes : Bytes} {key : PubKey}

/-- A key that has been read has a writer, and this writes the key's bytes. -/
theorem PubWire.putPubkeys_puts (wire : PubWire crypto type bytes key) :
    Puts (putPubkeys · key type) (pubBlob key) := by
  have ecdsa : ∀ {curve : Curve} {x y : Nat}, IsPoint crypto curve x y →
      Puts (bufPutEcdsaPubKey · curve x y) (wireString (ascii "ecdsa-sha2-" ++ curve.name) ++
        (wireString curve.name ++ wireString (eccPoint curve x y))) := by
    intro curve x y point
    refine (puts_bufPutstring _).bind ((puts_bufPutstring _).bind ?_)
    simp only [bufPutEccRawPubkeyString_eq point]
    exact puts_bufPutstring _
  cases wire with
  | rsa wire => exact (puts_bufPutstring _).bind ((puts_bufPutmpint _).bind (puts_bufPutmpint _))
  | @ecdsa curve x y point =>
    cases curve with
    | nistp256 => exact ecdsa point
    | nistp384 => exact ecdsa point
    | nistp521 => exact ecdsa point
  | skEcdsa short named point short' => exact ecdsa point
  | ed25519 length => exact (puts_bufPutstring _).bind (puts_bufPutstring _)
  | skEd25519 length short => exact (puts_bufPutstring _).bind (puts_bufPutstring _)

/-- A key that fits into the staging buffer is written as a string. -/
theorem PubWire.bufPutPubKey_appends (wire : PubWire crypto type bytes key)
    (fits : (pubBlob key).length ≤ maxPubkeySize) :
    Appends (bufPutPubKey · key type) (wireString (pubBlob key)) := by
  intro buf atEnd room
  obtain ⟨staging, made, data, len, pos⟩ := exists_bufNew maxPubkeySize (by decide)
  have size : staging.data.length = maxPubkeySize := by rw [data, List.length_replicate]
  obtain ⟨pubkeys, put, appended⟩ := wire.putPubkeys_puts.appends staging (by omega) (by omega)
  have contents : pubkeys.contents = pubBlob key := by
    rw [appended.contents, Buffer.contents, len, List.take_zero, List.nil_append]
  have some : pubkeys.len ≠ 0 := by
    rw [← pubkeys.length_contents, contents]
    exact fun none => pubBlob_ne_nil key (List.eq_nil_of_length_eq_zero none)
  obtain ⟨written, wrote, appended'⟩ := appends_bufPutstring (pubBlob key) buf atEnd room
  refine ⟨written, ?_, appended'⟩
  simp only [bufPutPubKey, made, put, Except.ok_bind, some, if_false, contents]
  exact wrote

/-- A key that does not fit ends the process. -/
theorem PubWire.fits_of_bufPutPubKey (wire : PubWire crypto type bytes key) {buf written : Buffer}
    (put : bufPutPubKey buf key type = .ok written) : (pubBlob key).length ≤ maxPubkeySize := by
  obtain ⟨staging, made, put⟩ := Except.bind_eq_ok.1 put
  obtain ⟨pubkeys, staged, _⟩ := Except.bind_eq_ok.1 put
  obtain ⟨_, data, _, pos⟩ := bufNew_eq_ok.1 made
  have room := wire.putPubkeys_puts.room staged
  rw [data, List.length_replicate, pos] at room
  omega

end Dropbear.Signkey
