/-
# The wire forms of public keys

Which bytes `buf_get_pub_key` accepts, type by type.  All types but the
security-key ones and the integers of RSA leave a key no choice of its wire form.
-/

import Dropbear.Buffer.Grammar
import Dropbear.Signkey.Basic

namespace Dropbear.Signkey

open Program

variable {crypto : Crypto}

/-! ## Points of a curve -/

/-- A point that passes the checks, with coordinates of the curve's size. -/
structure IsPoint (crypto : Crypto) (curve : Curve) (x y : Nat) : Prop where
  onCurve : crypto.eccIsPoint curve x y
  x_ne_zero : x ≠ 0
  y_ne_zero : y ≠ 0
  x_lt : x < 256 ^ curve.size
  y_lt : y < 256 ^ curve.size

/-- A point without compression. -/
def eccPoint (curve : Curve) (x y : Nat) : Bytes := 4 :: (toBe curve.size x ++ toBe curve.size y)

@[simp]
theorem length_eccPoint (curve : Curve) (x y : Nat) :
    (eccPoint curve x y).length = 1 + 2 * curve.size := by
  rw [eccPoint, List.length_cons, List.length_append, length_toBe, length_toBe]
  omega

theorem Curve.size_le (curve : Curve) : curve.size ≤ 66 := by cases curve <;> decide

theorem Curve.size_small (curve : Curve) : curve.size ≤ bufMaxIncr :=
  Nat.le_trans curve.size_le (by decide)

/-- The reads of `bufGetEccRawPubkey`, and the checks behind them. -/
theorem bufGetEccRawPubkey_eq (buf : Buffer) (curve : Curve) :
    bufGetEccRawPubkey crypto buf curve = (bufSetpos buf 0 >>= fun buf =>
      bufGetbyte buf >>= fun first =>
      if first.1 = 2 ∨ first.1 = 3 then .ok none
      else if first.1 ≠ 4 ∨ first.2.len ≠ 1 + 2 * curve.size then .ok none
      else bufTake curve.size first.2 >>= fun x => bufTake curve.size x.2 >>= fun y =>
        if ¬ crypto.eccIsPoint curve (ofBe x.1) (ofBe y.1) then .ok none
        else if ofBe x.1 = 0 then .ok none
        else if ofBe y.1 = 0 then .ok none
        else .ok (some (ofBe x.1, ofBe y.1))) := by
  simp only [bufGetEccRawPubkey, bufTake, bind_assoc]
  rfl

theorem bufGetEccRawPubkey_eq_some {buf : Buffer} {curve : Curve} {x y : Nat} :
    bufGetEccRawPubkey crypto buf curve = .ok (some (x, y)) ↔
      IsPoint crypto curve x y ∧ buf.contents = eccPoint curve x y := by
  obtain ⟨start, moved, data, len, pos⟩ := exists_bufSetpos buf 0 (Nat.zero_le _)
  have whole : start.rest = buf.contents := by
    rw [Buffer.rest, pos, List.drop_zero, Buffer.contents, data, len, Buffer.contents]
  rw [bufGetEccRawPubkey_eq, moved, Except.ok_bind]
  constructor
  · intro returned
    obtain ⟨⟨first, mid⟩, read, returned⟩ := Except.bind_eq_ok.1 returned
    obtain ⟨_, rfl, present, rfl⟩ := reads_bufGetbyte.consumed read
    dsimp only at returned
    split at returned
    · cases returned
    split at returned
    · cases returned
    rename_i uncompressed sized
    obtain ⟨⟨xBytes, afterX⟩, readX, returned⟩ := Except.bind_eq_ok.1 returned
    obtain ⟨_, ⟨rfl, lengthX⟩, presentX, rfl⟩ := (reads_bufTake curve.size_small).consumed readX
    obtain ⟨⟨yBytes, afterY⟩, readY, returned⟩ := Except.bind_eq_ok.1 returned
    obtain ⟨_, ⟨rfl, lengthY⟩, presentY, rfl⟩ := (reads_bufTake curve.size_small).consumed readY
    dsimp only at returned
    split at returned
    · cases returned
    split at returned
    · cases returned
    split at returned
    · cases returned
    rename_i onCurve xSome ySome
    cases returned
    have bytes := append_prefix_rest present (append_prefix_rest presentX presentY)
    have four : first = 4 := by
      by_contra other
      exact sized (Or.inl other)
    have length : start.len = 1 + 2 * curve.size := by
      by_contra other
      exact sized (Or.inr other)
    refine ⟨⟨by simpa using onCurve, xSome, ySome, ?_, ?_⟩, ?_⟩
    · rw [← lengthX]
      exact ofBe_lt_pow _
    · rw [← lengthY]
      exact ofBe_lt_pow _
    · rw [eccPoint, toBe_eq_of_ofBe lengthX rfl, toBe_eq_of_ofBe lengthY rfl, ← whole, ← four]
      refine (bytes.eq_of_length ?_).symm
      rw [Buffer.length_rest, List.length_append, List.length_append, lengthX, lengthY, pos,
        length, List.length_singleton]
      omega
  · rintro ⟨point, contents⟩
    have sized : start.len = 1 + 2 * curve.size := by
      rw [len, ← buf.length_contents, contents, length_eccPoint]
    have bytes : [4] ++ (toBe curve.size x ++ toBe curve.size y) <+: start.rest := by
      rw [whole, contents, eccPoint]
      exact List.prefix_refl _
    obtain ⟨present, presentXY⟩ := prefix_rest_of_append bytes
    obtain ⟨presentX, presentY⟩ := prefix_rest_of_append presentXY
    have readX := (reads_bufTake curve.size_small).consumes ⟨rfl, length_toBe _ x⟩ _ presentX
    have readY := (reads_bufTake curve.size_small).consumes ⟨rfl, length_toBe _ y⟩ _ presentY
    rw [reads_bufGetbyte.consumes rfl _ present, Except.ok_bind]
    dsimp only
    rw [if_neg (by decide), if_neg (by simp [Buffer.skip, sized]), readX, Except.ok_bind]
    dsimp only
    rw [readY, Except.ok_bind]
    dsimp only
    rw [ofBe_toBe point.x_lt, ofBe_toBe point.y_lt, if_neg (by simp [point.onCurve]),
      if_neg point.x_ne_zero, if_neg point.y_ne_zero]

/-- The curve that an identifier begins with. -/
def curveOf (identifier : Bytes) : Option Curve :=
  dropbearEccCurves.find? (fun curve => curve.name.isPrefixOf identifier)

/-- What `buf_get_ecdsa_pub_key` accepts: a name that ends in the identifier, an
identifier that begins with the name of a curve, and a point of that curve. -/
structure EcdsaWire (crypto : Crypto) (bytes : Bytes) (key : Curve × Nat × Nat) : Prop where
  exists_names : ∃ keyIdent identifier : Bytes, keyIdent.length ≤ maxStringLen ∧
    identifier.length ≤ maxStringLen ∧ identifiersMatch keyIdent identifier ∧
      curveOf identifier = some key.1 ∧
        bytes = wireString keyIdent ++
          (wireString identifier ++ wireString (eccPoint key.1 key.2.1 key.2.2))
  point : IsPoint crypto key.1 key.2.1 key.2.2

/-- The rest of `buf_get_ecdsa_pub_key`, behind the identifier of the curve. -/
def bufGetEcdsaPoint (crypto : Crypto) (buf : Buffer) :
    Option Curve → Except Exit (Option (Curve × Nat × Nat) × Buffer)
  | none => pure (none, buf)
  | some curve => do
    let (qBuf, buf) ← bufGetstringbuf buf
    let point ← bufGetEccRawPubkey crypto qBuf curve
    pure (point.map (fun xy => (curve, xy.1, xy.2)), buf)

theorem parses_bufGetEcdsaPubKey : Parses (bufGetEcdsaPubKey crypto) (EcdsaWire crypto) := by
  have ofCurve : ∀ identifier : Bytes, Parses (bufGetEcdsaPoint crypto · (curveOf identifier))
      (fun bytes key => curveOf identifier = some key.1 ∧ IsPoint crypto key.1 key.2.1 key.2.2 ∧
        bytes = wireString (eccPoint key.1 key.2.1 key.2.2)) := by
    intro identifier
    cases found : curveOf identifier with
    | none => exact Parses.fail.congr (by simp)
    | some curve =>
      refine (reads_bufGetstringbuf.andThen fun qBuf => Parses.ofCheck
        (bufGetEccRawPubkey crypto qBuf curve) (fun xy => (curve, xy.1, xy.2))).congr ?_
      rintro bytes ⟨curve', x, y⟩
      constructor
      · rintro ⟨_, qBuf, _, ⟨str, holds, rfl, short⟩, ⟨rfl, ⟨x', y'⟩, read, same⟩, rfl⟩
        cases same
        obtain ⟨point, contents⟩ := bufGetEccRawPubkey_eq_some.1 read
        rw [holds.contents] at contents
        exact ⟨rfl, point, by rw [List.append_nil, contents]⟩
      · rintro ⟨same, point, rfl⟩
        cases same
        have short : (eccPoint curve' x y).length ≤ maxStringLen := by
          have := curve'.size_le
          rw [length_eccPoint, maxStringLen]
          omega
        obtain ⟨_, _, _, qBuf, _, _, _, _, _, holds⟩ := exists_string_copy short
        refine ⟨_, qBuf, [], ⟨_, holds, rfl, short⟩, ⟨rfl, (x, y), ?_, rfl⟩, by simp⟩
        exact bufGetEccRawPubkey_eq_some.2 ⟨point, holds.contents⟩
  refine (reads_bufGetstring.andThen fun keyIdent => reads_bufGetstring.andThen fun identifier =>
    Parses.checked fun _ => ofCurve identifier).congr ?_
  intro bytes key
  constructor
  · rintro ⟨_, keyIdent, _, ⟨rfl, short⟩, ⟨_, identifier, _, ⟨rfl, short'⟩,
      ⟨matching, found, point, rfl⟩, rfl⟩, rfl⟩
    exact ⟨⟨keyIdent, identifier, short, short', not_not.1 matching, found, rfl⟩, point⟩
  · rintro ⟨⟨keyIdent, identifier, short, short', matching, found, rfl⟩, point⟩
    exact ⟨_, keyIdent, _, ⟨rfl, short⟩, ⟨_, identifier, _, ⟨rfl, short'⟩,
      ⟨not_not.2 matching, found, point, rfl⟩, rfl⟩, rfl⟩

/-! ## Ed25519 keys -/

/-- What `buf_get_ed25519_pub_key` accepts. -/
structure Ed25519Wire (expectKeytype : SignkeyType) (bytes pub : Bytes) : Prop where
  exists_name : ∃ keytype : Bytes, keytype.length ≤ maxStringLen ∧
    signkeyTypeFromName keytype = some expectKeytype ∧ bytes = wireString keytype ++ wireString pub
  length : pub.length = curve25519Len

theorem parses_bufGetEd25519Bytes (len : Nat) :
    Parses (bufGetEd25519Bytes len)
      (fun bytes pub => len = curve25519Len ∧ bytes = pub ∧ pub.length = curve25519Len) where
  consumes := by
    rintro bytes _ ⟨rfl, rfl, length⟩ buf present
    have ahead := present.length_le
    rw [Buffer.length_rest, length] at ahead
    have read := (reads_bufTake (by decide)).consumes ⟨rfl, length⟩ _ present
    simp only [bufTake, Except.bind_eq_ok] at read
    obtain ⟨ptr, pointed, _, peeked, _, moved, same⟩ := read
    cases same
    rw [bufGetEd25519Bytes, if_neg (by omega), pointed, Except.ok_bind, peeked, Except.ok_bind,
      moved]
    rfl
  consumed := by
    intro buf pub after returned
    rw [bufGetEd25519Bytes] at returned
    split at returned
    · cases returned
    rename_i fine
    obtain ⟨ptr, pointed, returned⟩ := Except.bind_eq_ok.1 returned
    obtain ⟨bytes, peeked, returned⟩ := Except.bind_eq_ok.1 returned
    obtain ⟨_, moved, same⟩ := Except.bind_eq_ok.1 returned
    cases same
    obtain ⟨present, length, _⟩ := prefix_of_bufGetptr_peek pointed peeked
    obtain ⟨_, rfl⟩ := eq_skip_of_bufIncrpos moved
    exact ⟨pub, ⟨by omega, rfl, length⟩, present, by rw [length]⟩

theorem parses_bufGetEd25519PubKey (expectKeytype : SignkeyType) :
    Parses (bufGetEd25519PubKey expectKeytype) (Ed25519Wire expectKeytype) := by
  refine (reads_bufGetstring.andThen fun keytype => Parses.checked fun _ =>
    reads_bufGetint.andThen fun len => parses_bufGetEd25519Bytes len).congr ?_
  intro bytes pub
  constructor
  · rintro ⟨_, keytype, _, ⟨rfl, short⟩, ⟨known, _, len, _, ⟨rfl, _⟩, ⟨rfl, rfl, length⟩, rfl⟩, rfl⟩
    exact ⟨⟨keytype, short, not_not.1 known, by rw [← length]; rfl⟩, length⟩
  · rintro ⟨⟨keytype, short, known, rfl⟩, length⟩
    refine ⟨_, keytype, _, ⟨rfl, short⟩, ⟨not_not.2 known, _, curve25519Len, _, ⟨rfl, by decide⟩,
      ⟨rfl, rfl, length⟩, ?_⟩, rfl⟩
    rw [← length]
    rfl

/-! ## RSA keys -/

/-- What is accepted as the two numbers of an RSA key. -/
structure RsaWire (bytes : Bytes) (e n : Nat) : Prop where
  exists_bodies : ∃ eBody nBody : Bytes, MpintBody eBody ∧ MpintBody nBody ∧ e = ofBe eBody ∧
    n = ofBe nBody ∧ bytes = wireString eBody ++ wireString nBody
  n_bits : minRsaKeylen ≤ mpCountBits n
  e_bits : mpCountBits e ≤ 64

theorem parses_bufGetRsaNumbers :
    Parses bufGetRsaNumbers (fun bytes key => ∃ e n, key = .rsa e n ∧ RsaWire bytes e n) := by
  have failed : ∀ (buf : Buffer) (answer : Option PubKey) (after : Buffer),
      (Except.ok (none, buf) : Except Exit (Option PubKey × Buffer)) = .ok (answer, after) →
        answer = none := by
    intro buf answer after returned
    cases returned
    rfl
  refine (parses_bufGetmpint.orFail (fun e => parses_bufGetmpint.orFail (fun n =>
    Parses.checked fun _ => Parses.checked fun _ => Parses.pure (PubKey.rsa e n)) failed)
      failed).congr ?_
  intro bytes key
  constructor
  · rintro ⟨_, e, _, ⟨eBody, valid, rfl, rfl⟩, ⟨_, n, _, ⟨nBody, valid', rfl, rfl⟩,
      ⟨long, small, rfl, rfl⟩, rfl⟩, rfl⟩
    exact ⟨_, _, rfl, ⟨eBody, nBody, valid, valid', rfl, rfl, by simp⟩, Nat.le_of_not_lt long,
      Nat.le_of_not_lt small⟩
  · rintro ⟨_, _, rfl, ⟨eBody, nBody, valid, valid', rfl, rfl, rfl⟩, long, small⟩
    exact ⟨_, _, _, ⟨eBody, valid, rfl, rfl⟩, ⟨_, _, [], ⟨nBody, valid', rfl, rfl⟩,
      ⟨Nat.not_lt.2 long, Nat.not_lt.2 small, rfl, rfl⟩, (List.append_nil _).symm⟩, rfl⟩

theorem parses_bufGetRsaPubKey :
    Parses bufGetRsaPubKey (fun bytes key => ∃ front back e n,
      front.length = 4 + (ascii "ssh-rsa").length ∧ key = .rsa e n ∧ RsaWire back e n ∧
        bytes = front ++ back) := by
  refine (Parses.skip (by decide) parses_bufGetRsaNumbers).congr ?_
  intro bytes key
  constructor
  · rintro ⟨front, back, length, ⟨e, n, rfl, wire⟩, rfl⟩
    exact ⟨front, back, e, n, length, rfl, wire, rfl⟩
  · rintro ⟨front, back, e, n, length, rfl, wire, rfl⟩
    exact ⟨front, back, length, ⟨e, n, rfl, wire⟩, rfl⟩

/-! ## Keys behind the name of their type -/

@[simp]
theorem signkeyTypeFromName_nameFromType (type : SignkeyType) :
    signkeyTypeFromName (signkeyNameFromType type) = some type := by
  cases type <;> decide

variable {type : SignkeyType}

theorem signkeyTypeFromName_eq_some {name : Bytes} :
    signkeyTypeFromName name = some type ↔ name = signkeyNameFromType type := by
  constructor
  · intro known
    obtain ⟨entry, found, isType⟩ := Option.map_eq_some_iff.1 known
    have listed := List.mem_of_find?_eq_some found
    have named := List.find?_some found
    rw [decide_eq_true_eq] at named
    simp only [signkeyNames, List.mem_cons, List.not_mem_nil, or_false] at listed
    rw [← named, ← isType]
    rcases listed with rfl | rfl | rfl | rfl | rfl | rfl | rfl <;> rfl
  · rintro rfl
    exact signkeyTypeFromName_nameFromType type

theorem length_signkeyNameFromType_le (type : SignkeyType) :
    (signkeyNameFromType type).length ≤ 34 := by
  cases type <;> decide

/-- The type of the plain ECDSA keys of a curve. -/
def Curve.signkeyType : Curve → SignkeyType
  | .nistp256 => .ecdsaNistp256
  | .nistp384 => .ecdsaNistp384
  | .nistp521 => .ecdsaNistp521

/-- The wire forms of the public keys of each type. -/
inductive PubWire (crypto : Crypto) : SignkeyType → Bytes → PubKey → Prop
  | rsa {bytes : Bytes} {e n : Nat} (wire : RsaWire bytes e n) :
      PubWire crypto .rsa (wireString (ascii "ssh-rsa") ++ bytes) (.rsa e n)
  | ecdsa {curve : Curve} {x y : Nat} (point : IsPoint crypto curve x y) :
      PubWire crypto curve.signkeyType
        (wireString (signkeyNameFromType curve.signkeyType) ++
          (wireString curve.name ++ wireString (eccPoint curve x y))) (.ecdsa curve x y)
  | skEcdsa {identifier skApp : Bytes} {x y : Nat} (short : identifier.length ≤ maxStringLen)
      (named : cString identifier = ascii "nistp256") (point : IsPoint crypto .nistp256 x y)
      (short' : skApp.length ≤ maxStringLen) :
      PubWire crypto .skEcdsaNistp256
        (wireString (ascii "sk-ecdsa-sha2-nistp256@openssh.com") ++
          (wireString identifier ++ wireString (eccPoint .nistp256 x y)) ++ wireString skApp)
        (.skEcdsa .nistp256 x y skApp)
  | ed25519 {pub : Bytes} (length : pub.length = curve25519Len) :
      PubWire crypto .ed25519 (wireString (ascii "ssh-ed25519") ++ wireString pub) (.ed25519 pub)
  | skEd25519 {pub skApp : Bytes} (length : pub.length = curve25519Len)
      (short : skApp.length ≤ maxStringLen) :
      PubWire crypto .skEd25519
        (wireString (ascii "sk-ssh-ed25519@openssh.com") ++ wireString pub ++ wireString skApp)
        (.skEd25519 pub skApp)

variable {bytes : Bytes}

/-- A string at the front of some bytes is determined by them. -/
theorem eq_of_wireString_prefix {str str' : Bytes} (short : str.length ≤ maxStringLen)
    (short' : str'.length ≤ maxStringLen) (front : wireString str <+: bytes)
    (front' : wireString str' <+: bytes) : str = str' := by
  have count : ∀ {s : Bytes}, s.length ≤ maxStringLen → wireString s <+: bytes →
      ofBe (bytes.take 4) = s.length := by
    intro s small ⟨tail, whole⟩
    rw [← whole, wireString, List.append_assoc, List.take_append_of_le_length (by simp),
      List.take_of_length_le (by simp), ofBe_be32 (Nat.lt_of_le_of_lt small (by decide))]
  have length : str.length = str'.length := (count short front).symm.trans (count short' front')
  have wires : wireString str = wireString str' := by
    refine (List.prefix_of_prefix_length_le front front' ?_).eq_of_length ?_ <;>
      simp [wireString, length]
  exact (List.append_inj' wires length).2

variable {identifier : Bytes}

/-- A plain ECDSA key names its curve twice. -/
theorem identifiersMatch_curve {curve : Curve}
    (matching : identifiersMatch (signkeyNameFromType curve.signkeyType) identifier) :
    identifier = curve.name := by
  have plain : cString (signkeyNameFromType curve.signkeyType) ≠
      ascii "sk-ecdsa-sha2-nistp256@openssh.com" := by cases curve <;> decide
  have named : (signkeyNameFromType curve.signkeyType).drop (ascii "ecdsa-sha2-").length =
      curve.name := by cases curve <;> decide
  rw [identifiersMatch, if_neg plain, decide_eq_true_eq, named] at matching
  exact matching.2.symm

theorem curveOf_name (curve : Curve) : curveOf curve.name = some curve := by
  cases curve <;> decide

/-- A C string that is the name of a curve begins with it. -/
theorem curveOf_cString (named : cString identifier = ascii "nistp256") :
    curveOf identifier = some .nistp256 := by
  have front : (Curve.name .nistp256).isPrefixOf identifier := by
    rw [List.isPrefixOf_iff_prefix, Curve.name, ← named]
    exact List.takeWhile_prefix _
  simp [curveOf, dropbearEccCurves, front]

theorem identifiersMatch_sk :
    identifiersMatch (ascii "sk-ecdsa-sha2-nistp256@openssh.com") identifier ↔
      cString identifier = ascii "nistp256" := by
  rw [identifiersMatch, if_pos (by decide), decide_eq_true_eq]

/-- A security key: the key of the plain type, then the application string. -/
theorem parses_withApp {α : Type} {read : Buffer → Except Exit (Option α × Buffer)}
    {wire : Bytes → α → Prop} (f : α → Bytes → PubKey) (parses : Parses read wire) :
    Parses (fun buf => read buf >>= fun answer => bufGetstring answer.2 >>= fun skApp =>
        Except.ok (answer.1.map (fun value => f value skApp.1), skApp.2))
      (fun bytes key => ∃ front value skApp, wire front value ∧ skApp.length ≤ maxStringLen ∧
        key = f value skApp ∧ bytes = front ++ wireString skApp) := by
  have behind : ∀ value, Parses (fun buf => bufGetstring buf >>= fun skApp =>
      Except.ok (some (f value skApp.1), skApp.2)) _ := fun value =>
    reads_bufGetstring.andThen fun skApp => Parses.pure (f value skApp)
  refine (parses.orFail behind ?_).congr ?_
  · intro buf answer after returned
    obtain ⟨_, _, same⟩ := Except.bind_eq_ok.1 returned
    cases same
    rfl
  · intro bytes key
    constructor
    · rintro ⟨front, value, _, here, ⟨_, skApp, _, ⟨rfl, short⟩, ⟨rfl, rfl⟩, rfl⟩, rfl⟩
      exact ⟨front, value, skApp, here, short, rfl, by rw [List.append_nil]⟩
    · rintro ⟨front, value, skApp, here, short, rfl, rfl⟩
      exact ⟨front, value, _, here, ⟨_, skApp, [], ⟨rfl, short⟩, ⟨rfl, rfl⟩,
        (List.append_nil _).symm⟩, rfl⟩

/-- What the parser of a type accepts.  That of RSA steps over the name, and the
others check it each in their own way. -/
def OfTypeWire (crypto : Crypto) (bytes : Bytes) (key : PubKey) : SignkeyType → Prop
  | .rsa => ∃ front back e n, front.length = 4 + (ascii "ssh-rsa").length ∧ key = .rsa e n ∧
      RsaWire back e n ∧ bytes = front ++ back
  | .ecdsaNistp256 | .ecdsaNistp384 | .ecdsaNistp521 =>
    ∃ point, EcdsaWire crypto bytes point ∧ key = .ecdsa point.1 point.2.1 point.2.2
  | .skEcdsaNistp256 => ∃ front point skApp, EcdsaWire crypto front point ∧
      skApp.length ≤ maxStringLen ∧ key = .skEcdsa point.1 point.2.1 point.2.2 skApp ∧
        bytes = front ++ wireString skApp
  | .ed25519 => ∃ pub, Ed25519Wire .ed25519 bytes pub ∧ key = .ed25519 pub
  | .skEd25519 => ∃ front pub skApp, Ed25519Wire .skEd25519 front pub ∧
      skApp.length ≤ maxStringLen ∧ key = .skEd25519 pub skApp ∧ bytes = front ++ wireString skApp

theorem parses_bufGetPubKeyOfType (type : SignkeyType) :
    Parses (fun buf => bufGetPubKeyOfType crypto buf type)
      (fun bytes key => OfTypeWire crypto bytes key type) := by
  cases type with
  | rsa => exact parses_bufGetRsaPubKey
  | ecdsaNistp256 => exact parses_bufGetEcdsaPubKey.map fun k => PubKey.ecdsa k.1 k.2.1 k.2.2
  | ecdsaNistp384 => exact parses_bufGetEcdsaPubKey.map fun k => PubKey.ecdsa k.1 k.2.1 k.2.2
  | ecdsaNistp521 => exact parses_bufGetEcdsaPubKey.map fun k => PubKey.ecdsa k.1 k.2.1 k.2.2
  | skEcdsaNistp256 =>
    exact parses_withApp (fun k => PubKey.skEcdsa k.1 k.2.1 k.2.2) parses_bufGetEcdsaPubKey
  | ed25519 => exact (parses_bufGetEd25519PubKey .ed25519).map PubKey.ed25519
  | skEd25519 => exact parses_withApp PubKey.skEd25519 (parses_bufGetEd25519PubKey .skEd25519)

variable {key : PubKey}

/-- A key in its wire form is accepted by the parser of its type. -/
theorem PubWire.ofType (wire : PubWire crypto type bytes key) :
    OfTypeWire crypto bytes key type := by
  cases wire with
  | rsa wire => exact ⟨_, _, _, _, by decide, rfl, wire, rfl⟩
  | @ecdsa curve x y point =>
    have ofCurve : EcdsaWire crypto (wireString (signkeyNameFromType curve.signkeyType) ++
        (wireString curve.name ++ wireString (eccPoint curve x y))) (curve, x, y) := by
      refine ⟨⟨_, _, ?_, ?_, ?_, curveOf_name curve, rfl⟩, point⟩ <;> cases curve <;> decide
    cases curve with
    | nistp256 => exact ⟨_, ofCurve, rfl⟩
    | nistp384 => exact ⟨_, ofCurve, rfl⟩
    | nistp521 => exact ⟨_, ofCurve, rfl⟩
  | skEcdsa short named point short' =>
    exact ⟨_, (.nistp256, _, _), _, ⟨⟨_, _, by decide, short, identifiersMatch_sk.2 named,
      curveOf_cString named, rfl⟩, point⟩, short', rfl, rfl⟩
  | ed25519 length => exact ⟨_, ⟨⟨_, by decide, by decide, rfl⟩, length⟩, rfl⟩
  | skEd25519 length short =>
    exact ⟨_, _, _, ⟨⟨_, by decide, by decide, rfl⟩, length⟩, short, rfl, rfl⟩

/-- What the parser of a type accepts behind the name of the type is a key in its
wire form. -/
theorem OfTypeWire.pubWire {rest : Bytes} (accepted : OfTypeWire crypto bytes key type)
    (present : bytes <+: rest) (named : wireString (signkeyNameFromType type) <+: rest) :
    PubWire crypto type bytes key := by
  have nameShort : (signkeyNameFromType type).length ≤ maxStringLen :=
    Nat.le_trans (length_signkeyNameFromType_le type) (by decide)
  have sameName : ∀ {name behind : Bytes}, name.length ≤ maxStringLen →
      wireString name ++ behind <+: rest → name = signkeyNameFromType type := by
    intro name behind short front
    exact eq_of_wireString_prefix short nameShort ((List.prefix_append _ _).trans front) named
  have ofCurve : ∀ (curve : Curve) {point : Curve × Nat × Nat}, type = curve.signkeyType →
      EcdsaWire crypto bytes point →
        PubWire crypto type bytes (.ecdsa point.1 point.2.1 point.2.2) := by
    rintro curve ⟨_, x, y⟩ rfl ⟨⟨keyIdent, identifier, short, _, matching, found, rfl⟩, point⟩
    obtain rfl := sameName short present
    obtain rfl := identifiersMatch_curve matching
    obtain rfl : curve = _ := Option.some_inj.1 ((curveOf_name curve).symm.trans found)
    exact .ecdsa point
  cases type with
  | rsa =>
    obtain ⟨front, back, e, n, length, rfl, wire, rfl⟩ := accepted
    have front' : front = wireString (ascii "ssh-rsa") :=
      (List.prefix_of_prefix_length_le ((List.prefix_append _ _).trans present) named
        (Nat.le_of_eq length)).eq_of_length length
    rw [front']
    exact .rsa wire
  | ecdsaNistp256 =>
    obtain ⟨point, wire, rfl⟩ := accepted
    exact ofCurve .nistp256 rfl wire
  | ecdsaNistp384 =>
    obtain ⟨point, wire, rfl⟩ := accepted
    exact ofCurve .nistp384 rfl wire
  | ecdsaNistp521 =>
    obtain ⟨point, wire, rfl⟩ := accepted
    exact ofCurve .nistp521 rfl wire
  | skEcdsaNistp256 =>
    obtain ⟨_, ⟨curve, x, y⟩, skApp, ⟨⟨keyIdent, identifier, short, short', matching, found, rfl⟩,
      point⟩, shortApp, rfl, rfl⟩ := accepted
    rw [List.append_assoc] at present
    obtain rfl := sameName short present
    have isCurve := identifiersMatch_sk.1 matching
    obtain rfl : Curve.nistp256 = curve :=
      Option.some_inj.1 ((curveOf_cString isCurve).symm.trans found)
    exact .skEcdsa short' isCurve point shortApp
  | ed25519 =>
    obtain ⟨pub, ⟨⟨name, short, known, rfl⟩, length⟩, rfl⟩ := accepted
    obtain rfl := signkeyTypeFromName_eq_some.1 known
    exact .ed25519 length
  | skEd25519 =>
    obtain ⟨_, pub, skApp, ⟨⟨name, short, known, rfl⟩, length⟩, shortApp, rfl, rfl⟩ := accepted
    obtain rfl := signkeyTypeFromName_eq_some.1 known
    exact .skEd25519 length shortApp

/-- The name in front of a key in its wire form. -/
theorem PubWire.named (wire : PubWire crypto type bytes key) :
    wireString (signkeyNameFromType type) <+: bytes := by
  cases wire with
  | rsa wire => exact List.prefix_append _ _
  | ecdsa point => exact List.prefix_append _ _
  | skEcdsa short named point short' =>
    rw [List.append_assoc]
    exact List.prefix_append _ _
  | ed25519 length => exact List.prefix_append _ _
  | skEd25519 length short =>
    rw [List.append_assoc]
    exact List.prefix_append _ _

/-- Stepping back over a string that has just been read. -/
theorem bufDecrpos_of_bufGetstring {buf mid : Buffer} {str : Bytes}
    (string : bufGetstring buf = .ok (str, mid)) :
    mid.pos = buf.pos + (4 + str.length) ∧ bufDecrpos mid (str.length + 4) = .ok buf := by
  obtain ⟨bytes, wire, present, rfl⟩ := consumed_of_bufGetstring string
  have pos := Buffer.pos_skip buf present.length_le
  rw [wire.length] at pos
  refine ⟨by rw [← pos, wire.length], ?_⟩
  rw [wire.length, bufDecrpos, if_neg (by omega)]
  refine congrArg Except.ok (Buffer.ext rfl rfl ?_)
  simp only
  omega

/-- **The wire forms that `buf_get_pub_key` accepts.** -/
theorem parses_bufGetPubKey (type : Option SignkeyType) :
    Parses (bufGetPubKey crypto type) (fun bytes key => ∃ keytype,
      (type = none ∨ type = some keytype) ∧ PubWire crypto keytype bytes key) where
  consumes := by
    rintro bytes key ⟨keytype, asked, wire⟩ buf present
    have nameShort : (signkeyNameFromType keytype).length ≤ maxStringLen :=
      Nat.le_trans (length_signkeyNameFromType_le keytype) (by decide)
    have string := reads_bufGetstring.consumes ⟨rfl, nameShort⟩ buf (wire.named.trans present)
    obtain ⟨_, back⟩ := bufDecrpos_of_bufGetstring string
    rw [bufGetPubKey, string, Except.ok_bind]
    dsimp only
    rw [signkeyTypeFromName_nameFromType, if_neg ?_, back, Except.ok_bind]
    · exact (parses_bufGetPubKeyOfType keytype).consumes wire.ofType buf present
    · rcases asked with rfl | rfl <;> simp
  consumed := by
    intro buf key after returned
    obtain ⟨⟨ident, mid⟩, string, returned⟩ := Except.bind_eq_ok.1 returned
    obtain ⟨_, back⟩ := bufDecrpos_of_bufGetstring string
    obtain ⟨_, ⟨rfl, _⟩, named, _⟩ := reads_bufGetstring.consumed string
    dsimp only at returned
    split at returned
    · cases returned
    rename_i asked
    rw [back, Except.ok_bind] at returned
    cases known : signkeyTypeFromName ident with
    | none =>
      rw [known] at returned
      cases returned
    | some keytype =>
      rw [known] at returned asked
      obtain ⟨bytes, accepted, present, rfl⟩ :=
        (parses_bufGetPubKeyOfType keytype).consumed returned
      obtain rfl := signkeyTypeFromName_eq_some.1 known
      refine ⟨bytes, ⟨keytype, ?_, accepted.pubWire present named⟩, present, rfl⟩
      cases type with
      | none => exact Or.inl rfl
      | some expected => exact Or.inr (by simpa using asked)

end Dropbear.Signkey
