/-
# Private keys

`buf_get_rsa_priv_key` and `buf_put_rsa_priv_key`, which read and write an RSA key in
the format of Dropbear's own key files, and the private part of a DSS key.
-/

import Dropbear.Signkey.Rsa

namespace Dropbear.Signkey

open Program

/-! ## Keys -/

/-- `dropbear_dss_key` with its private part. -/
structure DssKey where
  p : Nat
  q : Nat
  g : Nat
  y : Nat
  x : Nat
  deriving DecidableEq, Repr

/-! ## Reading -/

def bufGetRsaPrivKey (buf : Buffer) : Except Exit (Option RsaKey × Buffer) := do
  let (pub, buf) ← bufGetRsaPubKey buf
  match pub with
  | some (.rsa e n) => do
    let (d, buf) ← bufGetmpint buf
    match d with
    | none => pure (none, buf)
    | some d =>
      if buf.pos = buf.len then
        -- Keys without p or q are prior to Dropbear 0.33 from 2003.
        throw (.exit "RSA key format is ancient")
      else do
        let (p, buf) ← bufGetmpint buf
        match p with
        | none => pure (none, buf)
        | some p => do
          let (q, buf) ← bufGetmpint buf
          pure (q.map fun q => { n, e, d, p, q }, buf)
  | _ => pure (none, buf)

def dssPBits : Nat := 1024
def dssQBits : Nat := 160

/-! ## Writing -/

def bufPutRsaPrivKey (buf : Buffer) (key : RsaKey) : Except Exit Buffer := do
  let buf ← bufPutRsaPubKey buf key.e key.n
  let buf ← bufPutmpint buf key.d
  let buf ← bufPutmpint buf key.p
  bufPutmpint buf key.q

/-! ## The wire forms of private keys -/

/-- A reader that goes on with `none` fails. -/
theorem eq_none_of_ok (α : Type) (buf : Buffer) (answer : Option α) (after : Buffer)
    (returned : (Except.ok (none, buf) : Except Exit (Option α × Buffer)) = .ok (answer, after)) :
    answer = none := by
  cases returned
  rfl

/-- A number with its length in front, as it is read. -/
def MpintWire (bytes : Bytes) (value : Nat) : Prop :=
  ∃ body, MpintBody body ∧ bytes = wireString body ∧ value = ofBe body

theorem MpintWire.ne_nil {bytes : Bytes} {value : Nat} (wire : MpintWire bytes value) :
    bytes ≠ [] := by
  obtain ⟨body, _, rfl, _⟩ := wire
  simp [wireString, be32]

theorem mpintWire_wireMpint {n : Nat} (short : mpintLen n ≤ bufMaxMpint) :
    MpintWire (wireMpint n) n :=
  ⟨mpintBody n, mpintBody_valid short, rfl, (ofBe_mpintBody n).symm⟩

/-- The numbers of an RSA key behind its name, in Dropbear's order. -/
structure RsaPrivWire (bytes : Bytes) (key : RsaKey) : Prop where
  exists_parts : ∃ pub d p q, RsaWire pub key.e key.n ∧ MpintWire d key.d ∧ MpintWire p key.p ∧
    MpintWire q key.q ∧ bytes = pub ++ (d ++ (p ++ q))

theorem parses_bufGetRsaPrivKey :
    Parses bufGetRsaPrivKey (fun bytes key => ∃ front back,
      front.length = 4 + (ascii "ssh-rsa").length ∧ RsaPrivWire back key ∧
        bytes = front ++ back) := by
  have tail : ∀ pub : PubKey, Parses (fun buf =>
      match some pub with
      | some (.rsa e n) => bufGetmpint buf >>= fun d =>
        match d.1 with
        | none => Except.ok (none, d.2)
        | some value =>
          if d.2.pos = d.2.len then .error (.exit "RSA key format is ancient")
          else bufGetmpint d.2 >>= fun p =>
            match p.1 with
            | none => Except.ok (none, p.2)
            | some p' => bufGetmpint p.2 >>= fun q =>
              Except.ok (q.1.map fun q => (⟨n, e, value, p', q⟩ : RsaKey), q.2)
      | _ => Except.ok (none, buf))
      (fun bytes key => pub = .rsa key.e key.n ∧ ∃ d p q, MpintWire d key.d ∧ MpintWire p key.p ∧
        MpintWire q key.q ∧ bytes = d ++ (p ++ q)) := by
    intro pub
    cases pub with
    | rsa e n =>
      refine (parses_bufGetmpint.orFail (fun d => Parses.notAtEnd _
        (parses_bufGetmpint.orFail (fun p => parses_bufGetmpint.map fun q =>
          (⟨n, e, d, p, q⟩ : RsaKey)) (eq_none_of_ok RsaKey)) ?_) (eq_none_of_ok RsaKey)).congr ?_
      · rintro _ _ ⟨front, _, back, here, _, rfl⟩ empty
        exact MpintWire.ne_nil here (List.append_eq_nil_iff.1 empty).1
      · intro bytes key
        constructor
        · rintro ⟨dBytes, d, _, isD, ⟨pBytes, p, qBytes, isP, ⟨q, isQ, rfl⟩, rfl⟩, rfl⟩
          exact ⟨rfl, dBytes, pBytes, qBytes, isD, isP, isQ, rfl⟩
        · rintro ⟨same, dBytes, pBytes, qBytes, isD, isP, isQ, rfl⟩
          cases same
          exact ⟨dBytes, key.d, _, isD, ⟨pBytes, key.p, qBytes, isP, ⟨key.q, isQ, rfl⟩, rfl⟩, rfl⟩
    | ecdsa => exact Parses.fail.congr (by simp)
    | skEcdsa => exact Parses.fail.congr (by simp)
    | ed25519 => exact Parses.fail.congr (by simp)
    | skEd25519 => exact Parses.fail.congr (by simp)
  refine (parses_bufGetRsaPubKey.orFail tail (eq_none_of_ok RsaKey)).congr ?_
  intro bytes key
  constructor
  · rintro ⟨_, _, _, ⟨front, pub, e, n, length, rfl, isPub, rfl⟩,
      ⟨same, dBytes, pBytes, qBytes, isD, isP, isQ, rfl⟩, rfl⟩
    cases same
    exact ⟨front, _, length, ⟨pub, dBytes, pBytes, qBytes, isPub, isD, isP, isQ, rfl⟩, by simp⟩
  · rintro ⟨front, _, length, ⟨pub, dBytes, pBytes, qBytes, isPub, isD, isP, isQ, rfl⟩, rfl⟩
    exact ⟨front ++ pub, .rsa key.e key.n, dBytes ++ (pBytes ++ qBytes),
      ⟨front, pub, key.e, key.n, length, rfl, isPub, rfl⟩,
      ⟨rfl, dBytes, pBytes, qBytes, isD, isP, isQ, rfl⟩, by simp⟩

end Dropbear.Signkey
