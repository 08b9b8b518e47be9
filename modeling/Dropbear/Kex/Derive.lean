/-
# The derivation of the keys

`gen_new_keys` stretches the shared secret and the exchange hash to the cipher
keys, IVs and MAC keys of both directions.  `hashkeys` fills an array in place,
hashing in each round what it has filled so far.  The result is a prefix of the
sequence of blocks that the protocol defines.

A hash state is what has been hashed so far.  The ciphers are given by what they
make of an IV and a key.
-/

import Dropbear.Kex.Negotiate
import Dropbear.Program.Run
import Dropbear.Signkey.Mpint

namespace Dropbear.Kex

open Program Signkey

/-! ## Hashes -/

/-- `struct ltc_hash_descriptor`. -/
structure HashDesc where
  hashsize : Nat
  /-- `init`, `process` and `done` on all that is hashed. -/
  digest : Bytes → Bytes
  hashsize_pos : 0 < hashsize
  length_digest (message : Bytes) : (digest message).length = hashsize

/-- The loop of `hashkeys`.  Each round adds at least one byte, so `fuel` of the
length of the array is enough. -/
def hashkeysLoop (hashDesc : HashDesc) (hs : Bytes) : Nat → Nat → Bytes → Bytes
  | 0, _, out => out
  | fuel + 1, offset, out =>
    if offset < out.length then
      let tmpout := hashDesc.digest (hs ++ out.take offset)
      hashkeysLoop hashDesc hs fuel (offset + hashDesc.hashsize)
        (overwrite out offset (tmpout.take (min (out.length - offset) hashDesc.hashsize)))
    else out

/-- Fill `out` by the letter `x`.  The state `hs` has processed the secret and the
exchange hash. -/
def hashkeys (hashDesc : HashDesc) (sessionId : Bytes) (out : Bytes) (hs : Bytes) (x : UInt8) :
    Bytes :=
  let tmpout := hashDesc.digest (hs ++ [x] ++ sessionId)
  hashkeysLoop hashDesc hs out.length hashDesc.hashsize
    (overwrite out 0 (tmpout.take (min hashDesc.hashsize out.length)))

/-- The first `n + 1` blocks `K1 || K2 || ...` of the protocol. -/
def keyBlocks (hashDesc : HashDesc) (secret h : Bytes) (x : UInt8) (sessionId : Bytes) : Nat → Bytes
  | 0 => hashDesc.digest (secret ++ h ++ [x] ++ sessionId)
  | n + 1 =>
    keyBlocks hashDesc secret h x sessionId n ++
      hashDesc.digest (secret ++ h ++ keyBlocks hashDesc secret h x sessionId n)

section Blocks

variable (hashDesc : HashDesc) (secret h : Bytes) (x : UInt8) (sessionId : Bytes)

theorem length_keyBlocks (n : Nat) :
    (keyBlocks hashDesc secret h x sessionId n).length = (n + 1) * hashDesc.hashsize := by
  induction n with
  | zero => rw [keyBlocks, hashDesc.length_digest, Nat.zero_add, Nat.one_mul]
  | succ n ih => rw [keyBlocks, List.length_append, ih, hashDesc.length_digest, ← Nat.succ_mul]

theorem keyBlocks_prefix {m n : Nat} (le : m ≤ n) :
    keyBlocks hashDesc secret h x sessionId m <+: keyBlocks hashDesc secret h x sessionId n := by
  induction le with
  | refl => exact List.prefix_refl _
  | step le ih => exact ih.trans (List.prefix_append _ _)

/-- Any number of blocks that suffices gives the same prefix. -/
theorem take_keyBlocks {m n len : Nat} (enough : len ≤ (m + 1) * hashDesc.hashsize)
    (enough' : len ≤ (n + 1) * hashDesc.hashsize) :
    (keyBlocks hashDesc secret h x sessionId m).take len =
      (keyBlocks hashDesc secret h x sessionId n).take len := by
  have shorter : ∀ {m n : Nat}, m ≤ n → len ≤ (m + 1) * hashDesc.hashsize →
      (keyBlocks hashDesc secret h x sessionId m).take len =
        (keyBlocks hashDesc secret h x sessionId n).take len := by
    intro m n le enough
    obtain ⟨tail, whole⟩ := keyBlocks_prefix hashDesc secret h x sessionId le
    rw [← whole, List.take_append_of_le_length (by rwa [length_keyBlocks])]
  rcases Nat.le_total m n with le | le
  · exact shorter le enough
  · exact (shorter le enough').symm

/-- One round: the blocks filled so far, and as much of the next one as fits. -/
theorem take_overwrite_block {n : Nat} {out : Bytes}
    (fits : (n + 1) * hashDesc.hashsize < out.length)
    (filled : out.take ((n + 1) * hashDesc.hashsize) = keyBlocks hashDesc secret h x sessionId n)
    {block : Bytes}
    (next : block = hashDesc.digest (secret ++ h ++ keyBlocks hashDesc secret h x sessionId n)) :
    (overwrite out ((n + 1) * hashDesc.hashsize)
        (block.take (min (out.length - (n + 1) * hashDesc.hashsize) hashDesc.hashsize))).take
          ((n + 2) * hashDesc.hashsize) =
      (keyBlocks hashDesc secret h x sessionId (n + 1)).take out.length := by
  have blockLength : block.length = hashDesc.hashsize := by rw [next, hashDesc.length_digest]
  have blocksLength := length_keyBlocks hashDesc secret h x sessionId n
  have twoMore : (n + 2) * hashDesc.hashsize = (n + 1) * hashDesc.hashsize + hashDesc.hashsize :=
    Nat.succ_mul _ _
  generalize offset : (n + 1) * hashDesc.hashsize = start at *
  have partLength : (block.take (min (out.length - start) hashDesc.hashsize)).length =
      min (out.length - start) hashDesc.hashsize := by
    rw [List.length_take]
    omega
  have inside : start + (block.take (min (out.length - start) hashDesc.hashsize)).length ≤
      out.length := by omega
  have expected : (keyBlocks hashDesc secret h x sessionId (n + 1)).take out.length =
      out.take start ++ block.take (min (out.length - start) hashDesc.hashsize) := by
    rw [keyBlocks, ← next, ← filled, List.take_append, List.take_take, List.length_take,
      Nat.min_eq_left (by omega : start ≤ out.length), Nat.min_eq_right (by omega)]
    exact congrArg _ (List.take_eq_take_iff.2 (by omega))
  rw [expected, ← take_overwrite_end inside]
  exact List.take_eq_take_iff.2 (by rw [length_overwrite inside]; omega)

theorem hashkeysLoop_eq (fuel n : Nat) {out : Bytes}
    (enough : out.length ≤ (n + 1) * hashDesc.hashsize + fuel)
    (filled : out.take ((n + 1) * hashDesc.hashsize) =
      (keyBlocks hashDesc secret h x sessionId n).take out.length)
    {m : Nat} (blocks : out.length ≤ (m + 1) * hashDesc.hashsize) :
    hashkeysLoop hashDesc (secret ++ h) fuel ((n + 1) * hashDesc.hashsize) out =
      (keyBlocks hashDesc secret h x sessionId m).take out.length := by
  -- once all of `out` is filled, it is the prefix whatever the number of blocks
  have done : ∀ {n : Nat} {out : Bytes}, out.length ≤ (n + 1) * hashDesc.hashsize →
      out.length ≤ (m + 1) * hashDesc.hashsize →
      out.take ((n + 1) * hashDesc.hashsize) =
        (keyBlocks hashDesc secret h x sessionId n).take out.length →
      out = (keyBlocks hashDesc secret h x sessionId m).take out.length := by
    intro n out full blocks filled
    rw [List.take_of_length_le full] at filled
    exact filled.trans (take_keyBlocks hashDesc secret h x sessionId full blocks)
  induction fuel generalizing n out with
  | zero => exact done enough blocks filled
  | succ fuel ih =>
    rw [hashkeysLoop]
    split
    · rename_i fits
      have whole : out.take ((n + 1) * hashDesc.hashsize) =
          keyBlocks hashDesc secret h x sessionId n := by
        rw [filled, List.take_of_length_le (by rw [length_keyBlocks]; omega)]
      have step := take_overwrite_block hashDesc secret h x sessionId fits whole rfl
      have pos := hashDesc.hashsize_pos
      have kept : (overwrite out ((n + 1) * hashDesc.hashsize)
          ((hashDesc.digest (secret ++ h ++ keyBlocks hashDesc secret h x sessionId n)).take
            (min (out.length - (n + 1) * hashDesc.hashsize) hashDesc.hashsize))).length =
          out.length := by
        apply length_overwrite
        rw [List.length_take]
        omega
      rw [whole, ← Nat.succ_mul]
      have next := ih (n + 1) (by rw [kept, Nat.succ_mul]; omega) (by rw [kept]; exact step)
        (by rwa [kept])
      rwa [kept] at next
    · rename_i full
      exact done (Nat.le_of_not_lt full) blocks filled

/-- **`hashkeys` fills the array with the prefix of the blocks.** -/
theorem hashkeys_eq (out : Bytes) {m : Nat}
    (blocks : out.length ≤ (m + 1) * hashDesc.hashsize) :
    hashkeys hashDesc sessionId out (secret ++ h) x =
      (keyBlocks hashDesc secret h x sessionId m).take out.length := by
  have first : (hashDesc.digest (secret ++ h ++ [x] ++ sessionId)).length = hashDesc.hashsize :=
    hashDesc.length_digest _
  have inside : 0 + ((hashDesc.digest (secret ++ h ++ [x] ++ sessionId)).take
      (min hashDesc.hashsize out.length)).length ≤ out.length := by
    rw [List.length_take]
    omega
  have kept := length_overwrite inside
  have filled : (overwrite out 0 ((hashDesc.digest (secret ++ h ++ [x] ++ sessionId)).take
        (min hashDesc.hashsize out.length))).take ((0 + 1) * hashDesc.hashsize) =
      (keyBlocks hashDesc secret h x sessionId 0).take out.length := by
    calc
      _ = (overwrite out 0 ((hashDesc.digest (secret ++ h ++ [x] ++ sessionId)).take
            (min hashDesc.hashsize out.length))).take (0 + ((hashDesc.digest
              (secret ++ h ++ [x] ++ sessionId)).take (min hashDesc.hashsize out.length)).length) :=
        List.take_eq_take_iff.2 (by rw [kept, List.length_take]; omega)
      _ = (hashDesc.digest (secret ++ h ++ [x] ++ sessionId)).take
            (min hashDesc.hashsize out.length) := by
        rw [take_overwrite_end inside, List.take_zero, List.nil_append]
      _ = _ := List.take_eq_take_iff.2 (by omega)
  have ran := hashkeysLoop_eq hashDesc secret h x sessionId out.length 0 (by rw [kept]; omega)
    (by rw [kept]; exact filled) (by rwa [kept])
  rw [kept, Nat.zero_add, Nat.one_mul] at ran
  exact ran

end Blocks

/-! ## The keys of both directions -/

def maxIvLen : Nat := 20
def maxKeyLen : Nat := 64


/-- `struct key_context_directional`.  The algorithms are null until they are
negotiated, and the cipher state is empty until a cipher is started. -/
structure DirKeys (σ : Type) where
  algos : Option DirAlgos
  cipherState : Option σ
  /-- The part of the array that is used. -/
  mackey : Bytes
  /-- The descriptor that `find_hash` looks up. -/
  hashIndex : Option Nat
  valid : Bool
  deriving DecidableEq

/-- `struct key_context`. -/
structure KeyContext (σ : Type) where
  recv : DirKeys σ
  trans : DirKeys σ
  algoKex : Option DropbearKex
  algoSignature : Option SignatureType
  deriving DecidableEq

/-- Hashes by their number, and how a cipher mode starts a cipher with an IV, a key
and the length of the key.  It may fail, or the cipher may not be found. -/
structure Primitives (σ : Type) where
  hash : Nat → HashDesc
  start : CipherMode → Nat → Bytes → Bytes → Nat → Option σ

/-- What the exchanges leave in the session for the derivation. -/
structure KexSecrets where
  sessionId : Option Bytes
  hash : Option Bytes
  dhK : Option Nat
  dhKBytes : Option Bytes
  deriving DecidableEq, Repr

/-- Follow a pointer. -/
def deref {α : Type} : Option α → Except Exit α
  | none => .error .nullDeref
  | some value => .ok value

variable {σ : Type}

/-- The exchange hash, which is the session id the first time. -/
def finishKexhashbuf (hashDesc : HashDesc) (kexhashbuf : Bytes) (secrets : KexSecrets) :
    KexSecrets :=
  { secrets with
    hash := some (hashDesc.digest kexhashbuf)
    sessionId := secrets.sessionId <|> some (hashDesc.digest kexhashbuf) }

/-- Start the cipher of one direction, if it has one. -/
def startCipher (crypto : Primitives σ) (dir : DirKeys σ) (algos : DirAlgos) (iv key : Bytes) :
    Except Exit (DirKeys σ) :=
  match algos.algoCrypt.cipherdesc with
  | none => .ok dir
  | some desc =>
    match crypto.start algos.cryptMode desc iv key algos.algoCrypt.keysize with
    | none => .error (.exit "Crypto error")
    | some state => .ok { dir with cipherState := some state }

/-- Derive the MAC key of one direction, if its MAC has one. -/
def deriveMac (hashDesc : HashDesc) (sessionId hs : Bytes) (dir : DirKeys σ) (algos : DirAlgos)
    (letter : UInt8) : DirKeys σ :=
  match algos.algoMac.hashDesc with
  | none => dir
  | some desc =>
    { dir with
      mackey := hashkeys hashDesc sessionId (List.replicate algos.algoMac.keysize 0) hs letter
      hashIndex := some desc }

/-- The start of all hashes: the secret, which is in one of two forms. -/
def KexSecrets.secret (secrets : KexSecrets) : Bytes :=
  (secrets.dhK.map wireMpint).getD [] ++ secrets.dhKBytes.getD []

/-- `gen_new_keys`.  The arrays on the stack have some content before they are
filled. -/
def genNewKeys (crypto : Primitives σ) (role : Role) (newkeys : KeyContext σ) (secrets : KexSecrets) :
    Except Exit (KeyContext σ × KexSecrets) := do
  let algoKex ← deref newkeys.algoKex
  let hash ← deref secrets.hash
  let sessionId ← deref secrets.sessionId
  let recvAlgos ← deref newkeys.recv.algos
  let transAlgos ← deref newkeys.trans.algos
  let hashDesc := crypto.hash algoKex.hashDesc
  let hs := secrets.secret ++ hash
  let c2sIv := hashkeys hashDesc sessionId (List.replicate maxIvLen 0) hs 'A'.toUInt8
  let s2cIv := hashkeys hashDesc sessionId (List.replicate maxIvLen 0) hs 'B'.toUInt8
  let c2sKey := hashkeys hashDesc sessionId (List.replicate maxKeyLen 0) hs 'C'.toUInt8
  let s2cKey := hashkeys hashDesc sessionId (List.replicate maxKeyLen 0) hs 'D'.toUInt8
  let (transIv, transKey, mactransletter) := match role with
    | .client => (c2sIv, c2sKey, 'E'.toUInt8)
    | .server => (s2cIv, s2cKey, 'F'.toUInt8)
  let (recvIv, recvKey, macrecvletter) := match role with
    | .client => (s2cIv, s2cKey, 'F'.toUInt8)
    | .server => (c2sIv, c2sKey, 'E'.toUInt8)
  let recv ← startCipher crypto newkeys.recv recvAlgos recvIv recvKey
  let trans ← startCipher crypto newkeys.trans transAlgos transIv transKey
  let trans := deriveMac hashDesc sessionId hs trans transAlgos mactransletter
  let recv := deriveMac hashDesc sessionId hs recv recvAlgos macrecvletter
  pure
    ({ newkeys with
        trans := { trans with valid := true }
        recv := { recv with valid := true } },
      { secrets with hash := none, dhK := none, dhKBytes := none })

/-! ## The keys that the protocol defines -/

/-- `len` bytes of key material. -/
def keyMaterial (hashDesc : HashDesc) (secret h : Bytes) (x : UInt8) (sessionId : Bytes)
    (len : Nat) : Bytes :=
  (keyBlocks hashDesc secret h x sessionId len).take len

theorem hashkeys_replicate (hashDesc : HashDesc) (secret h : Bytes) (x : UInt8)
    (sessionId : Bytes) (len : Nat) :
    hashkeys hashDesc sessionId (List.replicate len 0) (secret ++ h) x =
      keyMaterial hashDesc secret h x sessionId len := by
  have enough : len ≤ (len + 1) * hashDesc.hashsize := by
    have := Nat.mul_le_mul_left (len + 1) hashDesc.hashsize_pos
    omega
  rw [hashkeys_eq hashDesc secret h x sessionId _ (by rwa [List.length_replicate]),
    List.length_replicate, keyMaterial]

/-- One direction after `read_kex_algos`, which clears the context. -/
def DirKeys.negotiated (algos : DirAlgos) : DirKeys σ where
  algos := some algos
  cipherState := none
  mackey := []
  hashIndex := none
  valid := false

/-- One direction of an exchange by its three letters, if its cipher starts. -/
def directionKeys (crypto : Primitives σ) (hashDesc : HashDesc) (secret h sessionId : Bytes)
    (ivLetter keyLetter macLetter : UInt8) (algos : DirAlgos) : Option (DirKeys σ) :=
  let part := fun x len => keyMaterial hashDesc secret h x sessionId len
  let cipherState := match algos.algoCrypt.cipherdesc with
    | none => some none
    | some desc =>
      (crypto.start algos.cryptMode desc (part ivLetter maxIvLen) (part keyLetter maxKeyLen)
        algos.algoCrypt.keysize).map some
  cipherState.map fun cipherState =>
    { algos := some algos
      cipherState := cipherState
      mackey := match algos.algoMac.hashDesc with
        | none => []
        | some _ => part macLetter algos.algoMac.keysize
      hashIndex := algos.algoMac.hashDesc
      valid := true }

/-- The MAC key is derived whatever became of the cipher. -/
theorem deriveMac_negotiated (hashDesc : HashDesc) (secret h sessionId : Bytes)
    (macLetter : UInt8) (algos : DirAlgos) (state : Option σ) :
    { deriveMac hashDesc sessionId (secret ++ h)
        { (DirKeys.negotiated algos : DirKeys σ) with cipherState := state } algos macLetter with
      valid := true } =
    { algos := some algos
      cipherState := state
      mackey := match algos.algoMac.hashDesc with
        | none => []
        | some _ => keyMaterial hashDesc secret h macLetter sessionId algos.algoMac.keysize
      hashIndex := algos.algoMac.hashDesc
      valid := true } := by
  rw [deriveMac]
  cases algos.algoMac.hashDesc with
  | none => rfl
  | some desc => simp only [DirKeys.negotiated, hashkeys_replicate]

/-- `gen_new_keys` on one direction: the cipher does not start, or the keys are
those of the protocol. -/
theorem startCipher_cases (crypto : Primitives σ) (hashDesc : HashDesc) (secret h sessionId : Bytes)
    (ivLetter keyLetter macLetter : UInt8) (algos : DirAlgos) :
    (startCipher crypto (.negotiated algos) algos
          (keyMaterial hashDesc secret h ivLetter sessionId maxIvLen)
          (keyMaterial hashDesc secret h keyLetter sessionId maxKeyLen) =
        .error (.exit "Crypto error") ∧
      directionKeys crypto hashDesc secret h sessionId ivLetter keyLetter macLetter algos = none) ∨
    ∃ dir, startCipher crypto (.negotiated algos) algos
          (keyMaterial hashDesc secret h ivLetter sessionId maxIvLen)
          (keyMaterial hashDesc secret h keyLetter sessionId maxKeyLen) = .ok dir ∧
      directionKeys crypto hashDesc secret h sessionId ivLetter keyLetter macLetter algos =
        some { deriveMac hashDesc sessionId (secret ++ h) dir algos macLetter with
          valid := true } := by
  have mac := fun state : Option σ =>
    deriveMac_negotiated hashDesc secret h sessionId macLetter algos state
  rw [startCipher, directionKeys]
  cases algos.algoCrypt.cipherdesc with
  | none => exact .inr ⟨_, rfl, congrArg some (mac none).symm⟩
  | some desc =>
    dsimp only
    cases crypto.start algos.cryptMode desc
        (keyMaterial hashDesc secret h ivLetter sessionId maxIvLen)
        (keyMaterial hashDesc secret h keyLetter sessionId maxKeyLen)
        algos.algoCrypt.keysize with
    | none => exact .inl ⟨rfl, rfl⟩
    | some state => exact .inr ⟨_, rfl, congrArg some (mac (some state)).symm⟩

/-! ## Whole exchanges -/

/-- What one exchange contributes to the derivation, the same on both sides. -/
structure Exchange where
  /-- The bytes that are hashed to the exchange hash. -/
  kexhashbuf : Bytes
  algoKex : DropbearKex
  algoSignature : SignatureType
  c2s : DirAlgos
  s2c : DirAlgos
  dhK : Option Nat
  dhKBytes : Option Bytes

/-- The part of the session that the derivation works on. -/
structure Derivation (σ : Type) where
  secrets : KexSecrets
  newkeys : Option (KeyContext σ)

/-- A context with the two directions seen from one side. -/
def KeyContext.ofDirections (role : Role) (exchange : Exchange) (c2s s2c : DirKeys σ) :
    KeyContext σ where
  recv := match role with
    | .client => s2c
    | .server => c2s
  trans := match role with
    | .client => c2s
    | .server => s2c
  algoKex := some exchange.algoKex
  algoSignature := some exchange.algoSignature

/-- The secrets once the shared secret is known and hashed. -/
def Exchange.finished (crypto : Primitives σ) (exchange : Exchange) (secrets : KexSecrets) :
    KexSecrets :=
  finishKexhashbuf (crypto.hash exchange.algoKex.hashDesc) exchange.kexhashbuf
    { secrets with dhK := exchange.dhK, dhKBytes := exchange.dhKBytes }

/-- One exchange, from the negotiated algorithms to the new keys. -/
def runExchange (crypto : Primitives σ) (role : Role) (exchange : Exchange) :
    EStateM Exit (Derivation σ) Unit := do
  let state ← get
  match genNewKeys crypto role
      (.ofDirections role exchange (.negotiated exchange.c2s) (.negotiated exchange.s2c))
      (exchange.finished crypto state.secrets) with
  | .error failure => throw failure
  | .ok (newkeys, secrets) => set { secrets := secrets, newkeys := some newkeys : Derivation σ }

namespace Exchange

/-- The exchange hash. -/
def hash (crypto : Primitives σ) (exchange : Exchange) : Bytes :=
  (crypto.hash exchange.algoKex.hashDesc).digest exchange.kexhashbuf

/-- The secret as it is hashed. -/
def secret (exchange : Exchange) : Bytes :=
  (exchange.dhK.map wireMpint).getD [] ++ exchange.dhKBytes.getD []

/-- The keys from the client to the server. -/
def c2sKeys (crypto : Primitives σ) (exchange : Exchange) (sessionId : Bytes) : Option (DirKeys σ) :=
  directionKeys crypto (crypto.hash exchange.algoKex.hashDesc) exchange.secret
    (exchange.hash crypto) sessionId 'A'.toUInt8 'C'.toUInt8 'E'.toUInt8 exchange.c2s

/-- The keys from the server to the client. -/
def s2cKeys (crypto : Primitives σ) (exchange : Exchange) (sessionId : Bytes) : Option (DirKeys σ) :=
  directionKeys crypto (crypto.hash exchange.algoKex.hashDesc) exchange.secret
    (exchange.hash crypto) sessionId 'B'.toUInt8 'D'.toUInt8 'F'.toUInt8 exchange.s2c

end Exchange

/-- `gen_new_keys` gives each side its view of the keys of the protocol. -/
theorem genNewKeys_eq (crypto : Primitives σ) (role : Role) (exchange : Exchange)
    (secrets : KexSecrets) {secret h sessionId : Bytes} (shared : secrets.secret = secret)
    (hashed : secrets.hash = some h) (identified : secrets.sessionId = some sessionId) :
    genNewKeys crypto role
        (.ofDirections role exchange (.negotiated exchange.c2s) (.negotiated exchange.s2c))
        secrets =
      match
        directionKeys crypto (crypto.hash exchange.algoKex.hashDesc) secret h sessionId
          'A'.toUInt8 'C'.toUInt8 'E'.toUInt8 exchange.c2s,
        directionKeys crypto (crypto.hash exchange.algoKex.hashDesc) secret h sessionId
          'B'.toUInt8 'D'.toUInt8 'F'.toUInt8 exchange.s2c with
      | some c2s, some s2c =>
        .ok (.ofDirections role exchange c2s s2c,
          { secrets with hash := none, dhK := none, dhKBytes := none })
      | _, _ => .error (.exit "Crypto error") := by
  have c2s := startCipher_cases crypto (crypto.hash exchange.algoKex.hashDesc) secret
    h sessionId 'A'.toUInt8 'C'.toUInt8 'E'.toUInt8 exchange.c2s
  have s2c := startCipher_cases crypto (crypto.hash exchange.algoKex.hashDesc) secret
    h sessionId 'B'.toUInt8 'D'.toUInt8 'F'.toUInt8 exchange.s2c
  have algos : ∀ algos : DirAlgos, (DirKeys.negotiated algos : DirKeys σ).algos = some algos :=
    fun _ => rfl
  cases role with
  | client =>
    simp only [genNewKeys, shared, hashed, identified, KeyContext.ofDirections, algos, deref,
      Except.ok_bind, hashkeys_replicate]
    rcases s2c with ⟨started, keys⟩ | ⟨s, started, keys⟩
    · rw [started, keys]
      cases directionKeys crypto (crypto.hash exchange.algoKex.hashDesc) secret h
        sessionId 'A'.toUInt8 'C'.toUInt8 'E'.toUInt8 exchange.c2s <;> rfl
    · rcases c2s with ⟨started', keys'⟩ | ⟨c, started', keys'⟩
      · rw [started, started', keys']
        rfl
      · rw [started, started', keys, keys']
        rfl
  | server =>
    simp only [genNewKeys, shared, hashed, identified, KeyContext.ofDirections, algos, deref,
      Except.ok_bind, hashkeys_replicate]
    rcases c2s with ⟨started, keys⟩ | ⟨c, started, keys⟩
    · rw [started, keys]
      rfl
    · rcases s2c with ⟨started', keys'⟩ | ⟨s, started', keys'⟩
      · rw [started, started', keys, keys']
        rfl
      · rw [started, started', keys, keys']
        rfl

/-- Both sides derive the keys of the protocol, or find that a cipher does not
start. -/
theorem runExchange_eq (crypto : Primitives σ) (role : Role) (exchange : Exchange)
    (state : Derivation σ) :
    runExchange crypto role exchange state =
      let sessionId := state.secrets.sessionId.getD (exchange.hash crypto)
      match exchange.c2sKeys crypto sessionId, exchange.s2cKeys crypto sessionId with
      | some c2s, some s2c =>
        .ok ()
          { secrets :=
              { sessionId := some sessionId
                hash := none
                dhK := none
                dhKBytes := none }
            newkeys := some (.ofDirections role exchange c2s s2c) }
      | _, _ => .error (.exit "Crypto error") state := by
  have identified : (exchange.finished crypto state.secrets).sessionId =
      some (state.secrets.sessionId.getD (exchange.hash crypto)) := by
    rw [Exchange.finished, finishKexhashbuf]
    cases state.secrets.sessionId <;> rfl
  have shared : (exchange.finished crypto state.secrets).secret = exchange.secret := rfl
  have hashed : (exchange.finished crypto state.secrets).hash = some (exchange.hash crypto) := rfl
  rw [runExchange, EStateM.get_bind_apply,
    genNewKeys_eq crypto role exchange _ shared hashed identified]
  dsimp only [Exchange.c2sKeys, Exchange.s2cKeys]
  split
  · rw [← identified]
    rfl
  · rfl

/-- Before the first exchange. -/
def Derivation.start : Derivation σ where
  secrets := { sessionId := none, hash := none, dhK := none, dhKBytes := none }
  newkeys := none

/-- After an exchange the two sides hold its keys, each from its own view. -/
structure Paired (crypto : Primitives σ) (sessionId : Bytes) (last : Exchange)
    (client server : Derivation σ) : Prop where
  clientId : client.secrets.sessionId = some sessionId
  serverId : server.secrets.sessionId = some sessionId
  keys : ∃ c2s s2c, last.c2sKeys crypto sessionId = some c2s ∧
    last.s2cKeys crypto sessionId = some s2c ∧
      client.newkeys = some (.ofDirections .client last c2s s2c) ∧
        server.newkeys = some (.ofDirections .server last c2s s2c)

/-- A direction of the exchange has a cipher that does not start. -/
def Exchange.Refused (crypto : Primitives σ) (sessionId : Bytes) (exchange : Exchange) : Prop :=
  exchange.c2sKeys crypto sessionId = none ∨ exchange.s2cKeys crypto sessionId = none

/-- One exchange of two sides with the same session id, or with none yet. -/
theorem runExchange_paired (crypto : Primitives σ) (exchange : Exchange) (client server : Derivation σ)
    (same : client.secrets.sessionId = server.secrets.sessionId) {sessionId : Bytes}
    (identified : client.secrets.sessionId.getD (exchange.hash crypto) = sessionId) :
    (∃ client' server', runExchange crypto .client exchange client = .ok () client' ∧
      runExchange crypto .server exchange server = .ok () server' ∧
        Paired crypto sessionId exchange client' server') ∨
    (exchange.Refused crypto sessionId ∧
      runExchange crypto .client exchange client = .error (.exit "Crypto error") client ∧
        runExchange crypto .server exchange server = .error (.exit "Crypto error") server) := by
  have identified' := same ▸ identified
  rw [runExchange_eq, runExchange_eq]
  dsimp only
  rw [identified, identified']
  cases c2s : exchange.c2sKeys crypto sessionId with
  | none => exact .inr ⟨.inl c2s, rfl, rfl⟩
  | some c =>
    cases s2c : exchange.s2cKeys crypto sessionId with
    | none => exact .inr ⟨.inr s2c, rfl, rfl⟩
    | some s => exact .inl ⟨_, _, rfl, rfl, rfl, rfl, c, s, c2s, s2c, rfl, rfl⟩

/-- The exchanges that follow keep the session id. -/
theorem runAll_paired (crypto : Primitives σ) {sessionId : Bytes} {last : Exchange}
    {client server : Derivation σ} (paired : Paired crypto sessionId last client server)
    (rest : List Exchange) :
    (∃ client' server', runAll (runExchange crypto .client) rest client = .ok () client' ∧
      runAll (runExchange crypto .server) rest server = .ok () server' ∧
        Paired crypto sessionId ((last :: rest).getLast (List.cons_ne_nil _ _)) client' server') ∨
    (∃ failed ∈ rest, failed.Refused crypto sessionId) ∧
      ∃ client' server',
        runAll (runExchange crypto .client) rest client = .error (.exit "Crypto error") client' ∧
          runAll (runExchange crypto .server) rest server =
            .error (.exit "Crypto error") server' := by
  induction rest generalizing last client server with
  | nil => exact .inl ⟨client, server, rfl, rfl, paired⟩
  | cons exchange rest ih =>
    have same := paired.clientId.trans paired.serverId.symm
    have identified : client.secrets.sessionId.getD (exchange.hash crypto) = sessionId := by
      rw [paired.clientId, Option.getD_some]
    rcases runExchange_paired crypto exchange client server same identified with
      ⟨client', server', ran, ran', paired'⟩ | ⟨refused, ran, ran'⟩
    · rw [runAll_cons_of_ok ran, runAll_cons_of_ok ran', List.getLast_cons_cons]
      rcases ih paired' with kept | ⟨⟨failed, there, refused⟩, ended⟩
      · exact .inl kept
      · exact .inr ⟨⟨failed, .tail _ there, refused⟩, ended⟩
    · rw [runAll_cons_of_error ran, runAll_cons_of_error ran']
      exact .inr ⟨⟨exchange, .head _, refused⟩, client, server, rfl, rfl⟩

/-- **The derived keys.**  `hashkeys` gives the prefix of the blocks of the protocol
for every length.  In every sequence of exchanges both sides derive the same keys
for each direction, from the secret and hash of the last exchange and the session
id of the first, unless a cipher does not start, which ends both. -/
theorem keyDerivation (crypto : Primitives σ) :
    (∀ (hashDesc : HashDesc) (secret h : Bytes) (x : UInt8) (sessionId out : Bytes) (more : Nat),
      hashkeys hashDesc sessionId out (secret ++ h) x =
        (keyBlocks hashDesc secret h x sessionId (out.length + more)).take out.length) ∧
    ∀ (first : Exchange) (rest : List Exchange),
      (∃ client server cnewkeys snewkeys,
        runAll (runExchange crypto .client) (first :: rest) .start = .ok () client ∧
          runAll (runExchange crypto .server) (first :: rest) .start = .ok () server ∧
            client.newkeys = some cnewkeys ∧ server.newkeys = some snewkeys ∧
              some cnewkeys.trans = ((first :: rest).getLast (List.cons_ne_nil _ _)).c2sKeys crypto
                (first.hash crypto) ∧
              some cnewkeys.recv = ((first :: rest).getLast (List.cons_ne_nil _ _)).s2cKeys crypto
                (first.hash crypto) ∧
              snewkeys.recv = cnewkeys.trans ∧ snewkeys.trans = cnewkeys.recv) ∨
      (∃ failed ∈ first :: rest, failed.Refused crypto (first.hash crypto)) ∧
        ∃ client server,
          runAll (runExchange crypto .client) (first :: rest) .start =
              .error (.exit "Crypto error") client ∧
            runAll (runExchange crypto .server) (first :: rest) .start =
              .error (.exit "Crypto error") server := by
  constructor
  · intro hashDesc secret h x sessionId out more
    apply hashkeys_eq
    have := Nat.mul_le_mul_left (out.length + more + 1) hashDesc.hashsize_pos
    omega
  · intro first rest
    rcases runExchange_paired crypto first .start .start rfl rfl with
      ⟨client, server, ran, ran', paired⟩ | ⟨refused, ran, ran'⟩
    · rw [runAll_cons_of_ok ran, runAll_cons_of_ok ran']
      rcases runAll_paired crypto paired rest with
        ⟨client', server', kept, kept', paired'⟩ | ⟨⟨failed, there, refused⟩, ended⟩
      · obtain ⟨c2s, s2c, ckeys, skeys, cnew, snew⟩ := paired'.keys
        exact .inl ⟨client', server', _, _, kept, kept', cnew, snew, ckeys.symm, skeys.symm, rfl,
          rfl⟩
      · exact .inr ⟨⟨failed, .tail _ there, refused⟩, ended⟩
    · rw [runAll_cons_of_error ran, runAll_cons_of_error ran']
      exact .inr ⟨⟨first, .head _, refused⟩, _, _, rfl, rfl⟩

end Dropbear.Kex
