/-
# Public keys that are written back

A key that an agent lists is read with `buf_get_pub_key`, and written with
`buf_put_pub_key` when the agent is asked to sign with it.  The two agree on the
plain key types, as long as the key fits into the staging buffer of the writer.
For the security-key types they do not: the key written is a plain one.
-/

import Dropbear.Signkey.Put

namespace Dropbear.Signkey

open Program

/-! ## The agent -/

def ssh2AgentIdentitiesAnswer : UInt8 := 12

/-- `SSH_AGENT_RSA_SHA2_256`. -/
def sshAgentRsaSha2256 : Nat := 0x02

/-- What `*type` is set to by `buf_get_pub_key`: the type named in front of the
key. -/
def keytypeRead (buf : Buffer) : Except Exit (Option SignkeyType) := do
  let (ident, _) ← bufGetstring buf
  pure (signkeyTypeFromName ident)

/-- The keys of the agent's answer.  Those of a bad or unknown type are skipped. -/
def agentGetKeys (crypto : Crypto) : Nat → Buffer → Except Exit (List (SignkeyType × PubKey))
  | 0, _ => .ok []
  | num + 1, inbuf => do
    -- each public key is encoded as a string
    let (keyBuf, inbuf) ← bufGetstringbuf inbuf
    let keyType ← keytypeRead keyBuf
    let (pubkey, _) ← bufGetPubKey crypto none keyBuf
    let inbuf ← bufEatstring inbuf
    let keys ← agentGetKeys crypto num inbuf
    match keyType, pubkey with
    | some keyType, some pubkey => pure ((keyType, pubkey) :: keys)
    | _, _ => pure keys

/-- `agent_get_key_list`, given the agent's answer. -/
def agentGetKeyList (crypto : Crypto) (inbuf : Buffer) :
    Except Exit (List (SignkeyType × PubKey)) := do
  let (packetType, inbuf) ← bufGetbyte inbuf
  if packetType ≠ ssh2AgentIdentitiesAnswer then pure []
  else do
    let (num, inbuf) ← bufGetint inbuf
    agentGetKeys crypto num inbuf

/-- The flags of a request to sign. -/
def signFlags (sigtype : SignatureType) : Nat :=
  if sigtype = .rsaSha256 then sshAgentRsaSha2256 else 0

/-- The request that `agent_buf_sign` makes. -/
def agentSignRequest (key : PubKey) (type : SignkeyType) (dataBuf : Buffer)
    (sigtype : SignatureType) : Except Exit Buffer := do
  let requestData ← bufNew (maxPubkeySize + dataBuf.len + 12)
  let requestData ← bufPutPubKey requestData key type
  let requestData ← bufPutstring requestData dataBuf.contents
  bufPutint requestData (signFlags sigtype)

/-! ## The round trip -/

/-- Nothing stands behind the key in its blob, and the integers of an RSA key have
no superfluous bytes. -/
structure Canonical (blob : Bytes) (behind : Buffer) : Prop where
  ends : behind.rest = []
  minimal : ∀ e n, blob = wireString (ascii "ssh-rsa") ++ (wireString e ++ wireString n) →
    Minimal e ∧ Minimal n

/-- What is expected of writing the key that has been read from `buf`. -/
structure WritesBack (crypto : Crypto) (buf behind : Buffer) (keytype : SignkeyType)
    (key : PubKey) (blob : Bytes) : Prop where
  /-- Where there is room for a key, the writer does not exit. -/
  puts : ∀ dest : Buffer, dest.pos = dest.len → dest.len + (4 + maxPubkeySize) ≤ dest.data.length →
    ∃ written, bufPutPubKey dest key keytype = .ok written ∧ Appended dest written (wireString blob)
  /-- What is written is read as the same type and key. -/
  reads : ∀ again : Buffer, again.rest = blob → keytypeRead again = .ok (some keytype) ∧
    ∃ after, bufGetPubKey crypto none again = .ok (some key, after)
  same : Canonical buf.rest behind → blob = buf.rest
  /-- The request to sign contains the blob that was read. -/
  request : Canonical buf.rest behind → ∀ (dataBuf : Buffer) (sigtype : SignatureType),
    maxPubkeySize + dataBuf.len + 12 ≤ bufMaxSize →
      ∃ requestData, agentSignRequest key keytype dataBuf sigtype = .ok requestData ∧
        requestData.contents = wireString buf.rest ++
          (wireString dataBuf.contents ++ be32 (signFlags sigtype))

/-- Whatever is read from the buffer is written back. -/
def RoundTrips (crypto : Crypto) (type : Option SignkeyType) (buf : Buffer) : Prop :=
  ∀ key behind keytype, bufGetPubKey crypto type buf = .ok (some key, behind) →
    keytypeRead buf = .ok (some keytype) → ∃ blob, WritesBack crypto buf behind keytype key blob

/-- A blob that begins with the name of a plain type, and with integers that fit
into the staging buffer if this is RSA. -/
structure Writable (blob : Bytes) : Prop where
  plain : ∀ name ∈ [ascii "sk-ecdsa-sha2-nistp256@openssh.com", ascii "sk-ssh-ed25519@openssh.com"],
    ¬ wireString name <+: blob
  fits : ∀ e n, MpintBody e → MpintBody n →
    wireString (ascii "ssh-rsa") ++ (wireString e ++ wireString n) <+: blob →
      mpintLen (ofBe e) + mpintLen (ofBe n) ≤ 581

variable {crypto : Crypto} {type : SignkeyType} {bytes : Bytes} {key : PubKey}

/-- A key of a plain type. -/
def PubKey.Plain : PubKey → Prop
  | .rsa _ _ | .ecdsa _ _ _ | .ed25519 _ => True
  | .skEcdsa _ _ _ _ | .skEd25519 _ _ => False

theorem name_eq_of_curve (curve : Curve) :
    signkeyNameFromType curve.signkeyType = ascii "ecdsa-sha2-" ++ curve.name := by
  cases curve <;> decide

/-- What is written for a plain key is a wire form of it. -/
theorem PubWire.pubBlob (wire : PubWire crypto type bytes key) (plain : key.Plain) :
    PubWire crypto type (pubBlob key) key := by
  cases wire with
  | rsa wire =>
    obtain ⟨⟨eBody, nBody, valid, valid', rfl, rfl, rfl⟩, long, small⟩ := wire
    exact .rsa ⟨⟨_, _, mpintBody_valid (mpintLen_ofBe_le_max valid),
      mpintBody_valid (mpintLen_ofBe_le_max valid'), (ofBe_mpintBody _).symm,
      (ofBe_mpintBody _).symm, rfl⟩, long, small⟩
  | @ecdsa curve x y point =>
    rw [Signkey.pubBlob, ← name_eq_of_curve]
    exact .ecdsa point
  | skEcdsa short named point short' => exact plain.elim
  | ed25519 length => exact .ed25519 length
  | skEd25519 length short => exact plain.elim

/-- A plain key in a canonical blob is written as the blob. -/
theorem PubWire.pubBlob_eq (wire : PubWire crypto type bytes key) (plain : key.Plain)
    (minimal : ∀ e n, bytes = wireString (ascii "ssh-rsa") ++ (wireString e ++ wireString n) →
      Minimal e ∧ Minimal n) : Signkey.pubBlob key = bytes := by
  cases wire with
  | rsa wire =>
    obtain ⟨⟨eBody, nBody, valid, valid', rfl, rfl, rfl⟩, _, _⟩ := wire
    obtain ⟨minimalE, minimalN⟩ := minimal eBody nBody rfl
    rw [Signkey.pubBlob, wireMpint, wireMpint, mpintBody_ofBe valid.positive minimalE,
      mpintBody_ofBe valid'.positive minimalN]
  | @ecdsa curve x y point => rw [Signkey.pubBlob, ← name_eq_of_curve]
  | skEcdsa short named point short' => exact plain.elim
  | ed25519 length => rfl
  | skEd25519 length short => exact plain.elim

/-- Keys other than RSA keys fit, and these do if their integers do. -/
theorem PubWire.pubBlob_fits_iff (wire : PubWire crypto type bytes key) :
    (Signkey.pubBlob key).length ≤ maxPubkeySize ↔
      ∀ e n, key = .rsa e n → mpintLen e + mpintLen n ≤ 581 := by
  have ecdsa : ∀ (curve : Curve) (x y : Nat),
      (wireString (ascii "ecdsa-sha2-" ++ curve.name) ++
        (wireString curve.name ++ wireString (eccPoint curve x y))).length ≤ maxPubkeySize := by
    intro curve x y
    have size := curve.size_le
    have name : curve.name.length = 8 := by cases curve <;> decide
    have front : (ascii "ecdsa-sha2-").length = 11 := by decide
    simp only [List.length_append, length_wireString, length_eccPoint, name, front, maxPubkeySize]
    omega
  have name : (ascii "ssh-ed25519").length = 11 := by decide
  cases wire with
  | rsa wire =>
    have front : (ascii "ssh-rsa").length = 7 := by decide
    simp only [Signkey.pubBlob, wireMpint, List.length_append, length_wireString,
      length_mpintBody, front, maxPubkeySize, PubKey.rsa.injEq, and_imp]
    constructor
    · rintro fits _ _ rfl rfl
      omega
    · intro fits
      have := fits _ _ rfl rfl
      omega
  | @ecdsa curve x y point => exact iff_of_true (ecdsa curve x y) (by simp)
  | skEcdsa short named point short' => exact iff_of_true (ecdsa _ _ _) (by simp)
  | ed25519 length =>
    refine iff_of_true ?_ (by simp)
    simp [Signkey.pubBlob, length_wireString, length, name, maxPubkeySize, curve25519Len]
  | skEd25519 length short =>
    refine iff_of_true ?_ (by simp)
    simp [Signkey.pubBlob, length_wireString, length, name, maxPubkeySize, curve25519Len]

/-- The name in front of an accepted key is that of its type. -/
theorem PubWire.keytypeRead (wire : PubWire crypto type bytes key) {buf : Buffer}
    (present : bytes <+: buf.rest) : keytypeRead buf = .ok (some type) := by
  have short : (signkeyNameFromType type).length ≤ maxStringLen :=
    Nat.le_trans (length_signkeyNameFromType_le type) (by decide)
  rw [Signkey.keytypeRead, reads_bufGetstring.consumes ⟨rfl, short⟩ buf
    (wire.named.trans present), Except.ok_bind]
  dsimp only
  rw [signkeyTypeFromName_nameFromType]
  rfl

/-- The plain types are told by the name in front of the key. -/
theorem PubWire.plain_iff (wire : PubWire crypto type bytes key) {rest : Bytes}
    (present : bytes <+: rest) :
    key.Plain ↔ ∀ name ∈ [ascii "sk-ecdsa-sha2-nistp256@openssh.com",
      ascii "sk-ssh-ed25519@openssh.com"], ¬ wireString name <+: rest := by
  have named := wire.named.trans present
  have other : type ≠ .skEcdsaNistp256 → type ≠ .skEd25519 →
      ∀ name ∈ [ascii "sk-ecdsa-sha2-nistp256@openssh.com", ascii "sk-ssh-ed25519@openssh.com"],
        ¬ wireString name <+: rest := by
    have short : ∀ name ∈ [ascii "sk-ecdsa-sha2-nistp256@openssh.com",
        ascii "sk-ssh-ed25519@openssh.com"], name.length ≤ maxStringLen := by decide
    intro notEcdsa notEd25519 name listed front
    have same := eq_of_wireString_prefix (Nat.le_trans (length_signkeyNameFromType_le type)
      (by decide)) (short name listed) named front
    have known := signkeyTypeFromName_nameFromType type
    rw [same] at known
    simp only [List.mem_cons, List.not_mem_nil, or_false] at listed
    rcases listed with rfl | rfl
    · exact notEcdsa (Option.some_inj.1 (known.symm.trans (by decide)))
    · exact notEd25519 (Option.some_inj.1 (known.symm.trans (by decide)))
  cases wire with
  | rsa wire => exact iff_of_true trivial (other (by simp) (by simp))
  | @ecdsa curve x y point =>
    exact iff_of_true trivial (other (by cases curve <;> simp [Curve.signkeyType])
      (by cases curve <;> simp [Curve.signkeyType]))
  | skEcdsa short isCurve point short' =>
    exact iff_of_false id fun none => none _ (List.mem_cons_self ..) named
  | ed25519 length => exact iff_of_true trivial (other (by simp) (by simp))
  | skEd25519 length short =>
    exact iff_of_false id fun none => none _ (List.mem_cons_of_mem _ (List.mem_cons_self ..)) named

/-- The integers of an RSA key are those that its blob begins with. -/
theorem PubWire.fits_iff (wire : PubWire crypto type bytes key) {rest : Bytes}
    (present : bytes <+: rest) :
    (∀ e n, key = .rsa e n → mpintLen e + mpintLen n ≤ 581) ↔
      ∀ e n, MpintBody e → MpintBody n →
        wireString (ascii "ssh-rsa") ++ (wireString e ++ wireString n) <+: rest →
          mpintLen (ofBe e) + mpintLen (ofBe n) ≤ 581 := by
  have bodyShort : ∀ {body : Bytes}, MpintBody body → body.length ≤ maxStringLen := fun valid =>
    Nat.le_trans valid.short (by decide)
  constructor
  · intro fits e n valid valid' front
    -- the name is that of RSA, so the key is an RSA key
    have named := wire.named.trans present
    have isRsa := eq_of_wireString_prefix (Nat.le_trans (length_signkeyNameFromType_le type)
      (by decide)) (by decide) named ((List.prefix_append _ _).trans front)
    cases wire with
    | rsa wire =>
      obtain ⟨⟨eBody, nBody, eValid, nValid, rfl, rfl, rfl⟩, _, _⟩ := wire
      obtain ⟨tail, rfl⟩ := front
      have behind := present
      rw [List.append_assoc, List.prefix_append_right_inj, List.append_assoc] at behind
      have sameE := eq_of_wireString_prefix (bodyShort eValid) (bodyShort valid)
        ((List.prefix_append _ _).trans behind) (List.prefix_append _ _)
      subst sameE
      rw [List.prefix_append_right_inj] at behind
      have sameN := eq_of_wireString_prefix (bodyShort nValid) (bodyShort valid') behind
        (List.prefix_append _ _)
      subst sameN
      exact fits _ _ rfl
    | @ecdsa curve x y point => cases curve <;> exact absurd isRsa (by decide)
    | skEcdsa short isCurve point short' => exact absurd isRsa (by decide)
    | ed25519 length => exact absurd isRsa (by decide)
    | skEd25519 length short => exact absurd isRsa (by decide)
  · rintro fits e n rfl
    cases wire with
    | rsa wire =>
      obtain ⟨⟨eBody, nBody, eValid, nValid, rfl, rfl, rfl⟩, _, _⟩ := wire
      exact fits eBody nBody eValid nValid present

theorem wireString_injective {str str' : Bytes} (short : str.length < 2 ^ 32)
    (short' : str'.length < 2 ^ 32) (same : wireString str = wireString str') : str = str' := by
  have count := congrArg (fun bytes => ofBe (bytes.take 4)) same
  simp only [wireString] at count
  rw [List.take_append_of_le_length (by simp), List.take_append_of_le_length (by simp),
    List.take_of_length_le (by simp), List.take_of_length_le (by simp), ofBe_be32 short,
    ofBe_be32 short'] at count
  exact (List.append_inj' same count).2

/-- A security key is written as a plain key. -/
theorem PubWire.keytypeRead_of_not_plain (wire : PubWire crypto type bytes key)
    (sk : ¬ key.Plain) {again : Buffer} (written : again.rest = Signkey.pubBlob key) :
    Signkey.keytypeRead again ≠ .ok (some type) := by
  have other : ∀ (type' : SignkeyType) {key' : PubKey}, type' ≠ type →
      PubWire crypto type' (Signkey.pubBlob key) key' →
        Signkey.keytypeRead again ≠ .ok (some type) := by
    intro type' key' different wire' read
    rw [wire'.keytypeRead ⟨[], by rw [written, List.append_nil]⟩] at read
    exact different (Option.some_inj.1 (Except.ok.inj read))
  cases wire with
  | rsa wire => exact absurd trivial sk
  | ecdsa point => exact absurd trivial sk
  | @skEcdsa identifier skApp x y short named point short' =>
    have plain : PubWire crypto .ecdsaNistp256
        (Signkey.pubBlob (.skEcdsa .nistp256 x y skApp)) (.ecdsa .nistp256 x y) :=
      .ecdsa point
    exact other .ecdsaNistp256 (by decide) plain
  | ed25519 length => exact absurd trivial sk
  | @skEd25519 pub skApp length short => exact other .ed25519 (by decide) (.ed25519 length)

theorem Buffer.exists_holds {str : Bytes} (small : str.length ≤ bufMaxSize) :
    ∃ buf : Buffer, buf.Holds str :=
  ⟨⟨str, str.length, 0, Nat.zero_le _, Nat.le_refl _, small⟩, rfl, rfl, rfl⟩

/-- A key that is written back is a plain one, and fits. -/
theorem WritesBack.plain_and_fits {buf behind : Buffer} {blob : Bytes}
    (wire : PubWire crypto type bytes key) (back : WritesBack crypto buf behind type key blob) :
    key.Plain ∧ (Signkey.pubBlob key).length ≤ maxPubkeySize := by
  obtain ⟨dest, made, data, len, pos⟩ := exists_bufNew (4 + maxPubkeySize) (by decide)
  have size : dest.data.length = 4 + maxPubkeySize := by rw [data, List.length_replicate]
  obtain ⟨written, put, appended⟩ := back.puts dest (by omega) (by omega)
  have fits := wire.fits_of_bufPutPubKey put
  refine ⟨?_, fits⟩
  by_contra sk
  have room : dest.len + (wireString (Signkey.pubBlob key)).length ≤ dest.data.length := by
    rw [length_wireString]
    omega
  obtain ⟨written', put', appended'⟩ := wire.bufPutPubKey_appends fits dest (by omega) room
  obtain rfl := Except.ok.inj (put.symm.trans put')
  have strings := List.append_cancel_left (appended.contents.symm.trans appended'.contents)
  have length := congrArg List.length strings
  rw [length_wireString, length_wireString] at length
  have most : maxPubkeySize < 2 ^ 32 := by decide
  have same := wireString_injective (by omega) (by omega) strings
  have small : blob.length ≤ bufMaxSize := by
    have : maxPubkeySize ≤ bufMaxSize := by decide
    omega
  obtain ⟨again, holds⟩ := Buffer.exists_holds small
  exact wire.keytypeRead_of_not_plain sk (holds.rest.trans same) (back.reads again holds.rest).1

/-- The request to sign with a key that fits. -/
theorem PubWire.exists_agentSignRequest (wire : PubWire crypto type bytes key)
    (fits : (Signkey.pubBlob key).length ≤ maxPubkeySize) (dataBuf : Buffer)
    (sigtype : SignatureType) (small : maxPubkeySize + dataBuf.len + 12 ≤ bufMaxSize) :
    ∃ requestData, agentSignRequest key type dataBuf sigtype = .ok requestData ∧
      requestData.contents = wireString (Signkey.pubBlob key) ++
        (wireString dataBuf.contents ++ be32 (signFlags sigtype)) := by
  obtain ⟨new, made, data, len, pos⟩ := exists_bufNew _ small
  have size : new.data.length = maxPubkeySize + dataBuf.len + 12 := by
    rw [data, List.length_replicate]
  have put := (wire.bufPutPubKey_appends fits).bind ((appends_bufPutstring dataBuf.contents).bind
    (appends_bufPutint (signFlags sigtype)))
  obtain ⟨requestData, wrote, appended⟩ := put new (by omega) (by
    simp only [List.length_append, length_wireString, length_be32, Buffer.length_contents]
    omega)
  refine ⟨requestData, ?_, ?_⟩
  · rw [agentSignRequest, made, Except.ok_bind]
    exact wrote
  · rw [appended.contents, Buffer.contents, len, List.take_zero, List.nil_append]

/-- A plain key that fits is written back. -/
theorem PubWire.writesBack (wire : PubWire crypto type bytes key) (plain : key.Plain)
    (fits : (Signkey.pubBlob key).length ≤ maxPubkeySize) {buf : Buffer}
    (present : bytes <+: buf.rest) :
    WritesBack crypto buf (buf.skip bytes.length) type key (Signkey.pubBlob key) := by
  have same : Canonical buf.rest (buf.skip bytes.length) → Signkey.pubBlob key = buf.rest := by
    rintro ⟨ends, minimal⟩
    obtain ⟨tail, whole⟩ := present
    rw [Buffer.rest_skip, ← whole, List.drop_left] at ends
    rw [ends, List.append_nil] at whole
    rw [← whole] at minimal ⊢
    exact wire.pubBlob_eq plain minimal
  constructor
  · intro dest atEnd room
    refine wire.bufPutPubKey_appends fits dest atEnd ?_
    rw [length_wireString]
    omega
  · intro again written
    have front : Signkey.pubBlob key <+: again.rest := ⟨[], by rw [written, List.append_nil]⟩
    have wire' := wire.pubBlob plain
    exact ⟨wire'.keytypeRead front, _,
      (parses_bufGetPubKey none).consumes ⟨type, Or.inl rfl, wire'⟩ again front⟩
  · exact same
  · intro canonical dataBuf sigtype small
    rw [← same canonical]
    exact wire.exists_agentSignRequest fits dataBuf sigtype small

theorem writesBack_of_writable {type : Option SignkeyType} {buf behind : Buffer}
    (read : bufGetPubKey crypto type buf = .ok (some key, behind)) (writable : Writable buf.rest) :
    ∃ keytype, keytypeRead buf = .ok (some keytype) ∧
      WritesBack crypto buf behind keytype key (Signkey.pubBlob key) := by
  obtain ⟨bytes, ⟨keytype, _, wire⟩, present, rfl⟩ := (parses_bufGetPubKey type).consumed read
  exact ⟨keytype, wire.keytypeRead present,
    wire.writesBack ((wire.plain_iff present).2 writable.plain)
      (wire.pubBlob_fits_iff.2 ((wire.fits_iff present).2 writable.fits)) present⟩

/-- **A public key is written back exactly if it is of a plain type and fits into
the staging buffer.** -/
theorem roundTrips_iff (crypto : Crypto) (type : Option SignkeyType) (buf : Buffer) :
    RoundTrips crypto type buf ↔
      ((∃ key behind, bufGetPubKey crypto type buf = .ok (some key, behind)) →
        Writable buf.rest) := by
  constructor
  · rintro trips ⟨key, behind, read⟩
    obtain ⟨bytes, ⟨keytype, _, wire⟩, present, rfl⟩ := (parses_bufGetPubKey type).consumed read
    obtain ⟨blob, back⟩ := trips key _ keytype read (wire.keytypeRead present)
    obtain ⟨plain, fits⟩ := back.plain_and_fits wire
    exact ⟨(wire.plain_iff present).1 plain,
      (wire.fits_iff present).1 (wire.pubBlob_fits_iff.1 fits)⟩
  · intro writable key behind keytype read named
    obtain ⟨keytype', named', back⟩ := writesBack_of_writable read (writable ⟨key, _, read⟩)
    rw [named] at named'
    cases named'
    exact ⟨_, back⟩

/-- A crypto library without points. -/
def noPoints : Crypto where
  eccIsPoint _ _ _ := false
  verify _ _ _ _ _ := .ok false

/-- A security key as an agent lists it. -/
def skBlob : Bytes :=
  wireString (ascii "sk-ssh-ed25519@openssh.com") ++ wireString (List.replicate 32 7) ++
    wireString (ascii "ssh:")

def skBuffer : Buffer where
  data := skBlob
  len := 74
  pos := 0
  pos_le_len := by decide
  len_le_size := by decide
  size_le_max := by decide

theorem not_roundTrips_skBuffer : ¬ RoundTrips noPoints none skBuffer := by
  intro trips
  have wire : PubWire noPoints .skEd25519 skBlob (.skEd25519 (List.replicate 32 7) (ascii "ssh:")) :=
    .skEd25519 (by decide) (by decide)
  have present : skBlob <+: skBuffer.rest := by decide
  have read := (parses_bufGetPubKey none).consumes ⟨_, Or.inl rfl, wire⟩ skBuffer present
  obtain ⟨blob, back⟩ := trips _ _ _ read (wire.keytypeRead present)
  exact (back.plain_and_fits wire).1

/-! ## The keys that an agent lists -/

/-- What is behind some bytes is an end of what was there. -/
theorem Buffer.rest_skip_suffix (buf : Buffer) (n : Nat) : (buf.skip n).rest <:+ buf.rest := by
  rw [Buffer.rest_skip]
  exact List.drop_suffix n _

/-- Every key in the list is one that has been read from a blob of the answer. -/
theorem listed_of_agentGetKeys {num : Nat} {inbuf : Buffer} {keys : List (SignkeyType × PubKey)}
    (returned : agentGetKeys crypto num inbuf = .ok keys) {type : SignkeyType} {key : PubKey}
    (listed : (type, key) ∈ keys) :
    ∃ blob keyBuf behind, keyBuf.Holds blob ∧ wireString blob <:+: inbuf.rest ∧
      keytypeRead keyBuf = .ok (some type) ∧
        bufGetPubKey crypto none keyBuf = .ok (some key, behind) := by
  induction num generalizing inbuf keys with
  | zero =>
    cases returned
    cases listed
  | succ num ih =>
    obtain ⟨⟨keyBuf, afterKey⟩, string, returned⟩ := Except.bind_eq_ok.1 returned
    obtain ⟨_, ⟨blob, holds, rfl, _⟩, present, rfl⟩ := reads_bufGetstringbuf.consumed string
    obtain ⟨keytype, named, returned⟩ := Except.bind_eq_ok.1 returned
    obtain ⟨⟨answer, behind⟩, read, returned⟩ := Except.bind_eq_ok.1 returned
    obtain ⟨afterComment, eaten, returned⟩ := Except.bind_eq_ok.1 returned
    obtain ⟨others, rest, returned⟩ := Except.bind_eq_ok.1 returned
    have behindComment : afterComment.rest <:+ inbuf.rest := by
      obtain ⟨⟨len, mid⟩, counted, moved⟩ := Except.bind_eq_ok.1 eaten
      obtain ⟨_, _, _, rfl⟩ := reads_bufGetint.consumed counted
      obtain ⟨_, rfl⟩ := eq_skip_of_bufIncrpos moved
      exact (Buffer.rest_skip_suffix _ _).trans
        ((Buffer.rest_skip_suffix _ _).trans (Buffer.rest_skip_suffix _ _))
    have further : (type, key) ∈ others → ∃ blob keyBuf behind, keyBuf.Holds blob ∧
        wireString blob <:+: inbuf.rest ∧ keytypeRead keyBuf = .ok (some type) ∧
          bufGetPubKey crypto none keyBuf = .ok (some key, behind) := by
      intro among
      obtain ⟨blob', keyBuf', behind', holds', inside, found⟩ := ih rest among
      exact ⟨blob', keyBuf', behind', holds', inside.trans behindComment.isInfix, found⟩
    split at returned
    · cases returned
      cases listed with
      | head => exact ⟨blob, keyBuf, behind, holds, present.isInfix, named, read⟩
      | tail _ among => exact further among
    · cases returned
      exact further listed

/-- **An agent is asked to sign with the blob that it listed**, if this is a
canonical one that can be written back. -/
theorem request_of_agentGetKeyList {reply : Buffer} {keys : List (SignkeyType × PubKey)}
    (returned : agentGetKeyList crypto reply = .ok keys) {type : SignkeyType} {key : PubKey}
    (listed : (type, key) ∈ keys) :
    ∃ blob, wireString blob <:+: reply.rest ∧ ∃ keyBuf behind : Buffer, keyBuf.Holds blob ∧
      bufGetPubKey crypto none keyBuf = .ok (some key, behind) ∧
        (Canonical blob behind → Writable blob → ∀ (dataBuf : Buffer) (sigtype : SignatureType),
          maxPubkeySize + dataBuf.len + 12 ≤ bufMaxSize →
            ∃ requestData, agentSignRequest key type dataBuf sigtype = .ok requestData ∧
              wireString blob <+: requestData.contents) := by
  obtain ⟨⟨packetType, afterType⟩, first, returned⟩ := Except.bind_eq_ok.1 returned
  obtain ⟨_, _, _, rfl⟩ := reads_bufGetbyte.consumed first
  dsimp only at returned
  split at returned
  · cases returned
    cases listed
  · obtain ⟨⟨num, afterNum⟩, counted, returned⟩ := Except.bind_eq_ok.1 returned
    obtain ⟨_, _, _, rfl⟩ := reads_bufGetint.consumed counted
    obtain ⟨blob, keyBuf, behind, holds, inside, named, read⟩ :=
      listed_of_agentGetKeys returned listed
    refine ⟨blob, inside.trans ((Buffer.rest_skip_suffix _ _).trans
      (Buffer.rest_skip_suffix _ _)).isInfix, keyBuf, behind, holds, read, ?_⟩
    intro canonical writable dataBuf sigtype small
    rw [← holds.rest] at canonical writable
    obtain ⟨type', named', back⟩ := writesBack_of_writable read writable
    rw [named] at named'
    cases named'
    obtain ⟨requestData, made, contents⟩ := back.request canonical dataBuf sigtype small
    refine ⟨requestData, made, ?_⟩
    rw [contents, holds.rest]
    exact List.prefix_append _ _

/-- An agent's answer that lists one plain key. -/
def agentReply : Buffer :=
  .ofBytes (ssh2AgentIdentitiesAnswer :: be32 1 ++ wireString (wireString (ascii "ssh-ed25519") ++
    wireString (List.replicate 32 7)) ++ wireString []) (by decide)

theorem request_of_agentReply : ∃ blob, wireString blob <:+: agentReply.rest ∧
    ∃ keyBuf behind : Buffer, keyBuf.Holds blob ∧
      bufGetPubKey noPoints none keyBuf = .ok (some (.ed25519 (List.replicate 32 7)), behind) := by
  have listed : agentGetKeyList noPoints agentReply =
      .ok [(.ed25519, .ed25519 (List.replicate 32 7))] := by decide +kernel
  obtain ⟨blob, inside, keyBuf, behind, holds, read, _⟩ :=
    request_of_agentGetKeyList listed (List.mem_singleton_self _)
  exact ⟨blob, inside, keyBuf, behind, holds, read⟩

end Dropbear.Signkey
