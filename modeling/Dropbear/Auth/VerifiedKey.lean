/-
# The key a signature is checked with

The blob of a public key request is delimited twice: by its length, when it is
compared with the authorized_keys file, and by the key parser, when the key is
taken from the packet.  This module determines when the two agree.  They do if
and only if the authorized blob is by itself the encoding of a public key of its
type.  Otherwise the parser runs on into the bytes behind the blob, which the
client chooses.
-/

import Dropbear.Auth.AcceptedLine
import Dropbear.Auth.Answer
import Dropbear.Signkey.Wire

namespace Dropbear.Auth

open Program Signkey

/-! ## The data that was signed -/

/-- The bytes of the packet from `beginning` up to `stop`. -/
def packetUpTo (payload : Buffer) (beginning stop : Nat) : Bytes :=
  (payload.contents.take stop).drop beginning

theorem signedData_eq {sessionId : Bytes} {beginning : Nat} {payload signature : Buffer}
    {signed : Bytes}
    (returned : signedData sessionId beginning payload = .ok (signed, signature)) :
    signed = be32 sessionId.length ++ sessionId ++ packetUpTo payload beginning payload.pos := by
  rw [signedData] at returned
  by_cases ahead : beginning > payload.pos
  · rw [if_pos ahead] at returned
    cases returned
  · rw [if_neg ahead] at returned
    obtain ⟨new, made, returned⟩ := Except.bind_eq_ok.1 returned
    obtain ⟨named, putId, returned⟩ := Except.bind_eq_ok.1 returned
    obtain ⟨start, moved, returned⟩ := Except.bind_eq_ok.1 returned
    obtain ⟨ptr, pointed, returned⟩ := Except.bind_eq_ok.1 returned
    obtain ⟨bytes, read, returned⟩ := Except.bind_eq_ok.1 returned
    obtain ⟨whole, putBytes, returned⟩ := Except.bind_eq_ok.1 returned
    obtain ⟨_, _, returned⟩ := Except.bind_eq_ok.1 returned
    obtain ⟨signbuf, rewound, same⟩ := Except.bind_eq_ok.1 returned
    obtain ⟨_, data, len, pos⟩ := bufNew_eq_ok.1 made
    have size : new.data.length = payload.pos + 4 + sessionId.length := by
      rw [data, List.length_replicate]
    -- the identifier, as a string
    obtain ⟨head, putHead, putId⟩ := Except.bind_eq_ok.1 putId
    obtain ⟨_, same₁, contents₁, end₁, len₁, size₁⟩ :=
      exists_bufPutbytes_append new (be32 sessionId.length) (by omega) (by rw [length_be32]; omega)
    cases putHead.symm.trans same₁
    rw [length_be32] at len₁
    obtain ⟨_, same₂, contents₂, end₂, len₂, size₂⟩ :=
      exists_bufPutbytes_append head sessionId end₁ (by omega)
    cases putId.symm.trans same₂
    -- the packet up to the position
    obtain ⟨_, startData, startLen, startPos⟩ := bufSetpos_eq_ok.1 moved
    obtain ⟨⟨_, used⟩, rfl⟩ := bufGetptr_eq_ok.1 pointed
    obtain ⟨_, rfl⟩ := Buffer.peek_eq_ok.1 read
    have packet : (start.data.drop start.pos).take (payload.pos - beginning) =
        packetUpTo payload beginning payload.pos := by
      rw [startData, startPos, packetUpTo, Buffer.contents, List.take_take,
        Nat.min_eq_left payload.pos_le_len, List.drop_take]
    rw [packet] at putBytes
    have bounded : (packetUpTo payload beginning payload.pos).length ≤ payload.pos := by
      rw [packetUpTo, List.length_drop, List.length_take]
      omega
    obtain ⟨_, same₃, contents₃, _, _, _⟩ :=
      exists_bufPutbytes_append named (packetUpTo payload beginning payload.pos) end₂ (by omega)
    cases putBytes.symm.trans same₃
    obtain ⟨_, dataEnd, lenEnd, _⟩ := bufSetpos_eq_ok.1 rewound
    have empty : new.contents = [] := List.eq_nil_of_length_eq_zero (by rw [new.length_contents, len])
    cases same
    rw [Buffer.contents, dataEnd, lenEnd]
    change whole.contents = _
    rw [contents₃, contents₂, contents₁, empty, List.nil_append]

/-! ## The blob -/

/-- `blob` is by itself the encoding of `key`: read from a buffer that holds
nothing else, it gives the key and nothing is left. -/
def ReadsAs (crypto : Crypto) (keytype : SignkeyType) (blob : Bytes) (key : PubKey) : Prop :=
  ∃ buf after, buf.Holds blob ∧ bufGetPubKey crypto (some keytype) buf = .ok (some key, after) ∧
    after.rest = []

/-- Where a complete encoding stands at the position, its key is read, whatever
follows. -/
theorem ReadsAs.bufGetPubKey {crypto : Crypto} {keytype : SignkeyType} {blob : Bytes}
    {key : PubKey} (reads : ReadsAs crypto keytype blob key) {buf : Buffer}
    (present : blob <+: buf.rest) :
    Signkey.bufGetPubKey crypto (some keytype) buf = .ok (some key, buf.skip blob.length) := by
  obtain ⟨alone, after, holds, returned, nothing⟩ := reads
  obtain ⟨bytes, wire, here, rfl⟩ := (parses_bufGetPubKey _).consumed returned
  rw [holds.rest] at here
  rw [Buffer.rest_skip, holds.rest, List.drop_eq_nil_iff] at nothing
  obtain rfl := here.eq_of_length_le nothing
  exact (parses_bufGetPubKey _).consumes wire buf present

/-- Reading a public key request leaves the position at the start of the blob. -/
theorem of_readKeyRequest {payload blob : Buffer} {testkey : Bool} {sigalgo keyblob : Bytes}
    (returned : readKeyRequest payload = .ok (testkey, sigalgo, keyblob, blob)) :
    blob.contents = payload.contents ∧ keyblob <+: blob.rest := by
  obtain ⟨⟨attempt, buf₁⟩, flagged, returned⟩ := Except.bind_eq_ok.1 returned
  obtain ⟨⟨sigalgo, buf₂⟩, named, returned⟩ := Except.bind_eq_ok.1 returned
  obtain ⟨⟨keybloblen, buf₃⟩, counted, returned⟩ := Except.bind_eq_ok.1 returned
  obtain ⟨ptr, pointed, returned⟩ := Except.bind_eq_ok.1 returned
  obtain ⟨bytes, read, same⟩ := Except.bind_eq_ok.1 returned
  cases same
  obtain ⟨present, _, _⟩ := prefix_of_bufGetptr_peek pointed read
  refine ⟨?_, present⟩
  obtain ⟨⟨byte, _⟩, got, same⟩ := Except.bind_eq_ok.1 flagged
  cases same
  obtain ⟨_, _, data, len, _⟩ := bufGetbyte_eq_ok.1 got
  obtain ⟨_, _, _, rfl⟩ := consumed_of_bufGetstring named
  obtain ⟨_, _, _, _, rfl⟩ := consumed_of_bufGetint counted
  rw [Buffer.contents, Buffer.contents, ← data, ← len]
  rfl

/-! ## The verified key -/

/-- The blob of a verified request is authorized for the user of the session: it
stands in the packet, and some line of the user's file decodes to it. -/
def AuthorizedBlob (ctx : Context) (payload : Buffer) (auth : AuthState) (use : KeyUse) : Prop :=
  use.keyblob <:+ payload.contents.take use.keyblobEnd ∧
    ∃ pw file options line text, auth.pw = some pw ∧
      ctx.system.authorizedKeys pw = .ok (some file) ∧
        checkpubkey ctx.parseOptions (signkeyNameFromType use.keytype) use.keyblob file =
          .ok (some options) ∧
          checkpubkeyLine ctx.parseOptions line (signkeyNameFromType use.keytype) use.keyblob =
            .ok (some options) ∧
            text <:+: line.contents ∧ base64Decode text (text.length * 2) = some use.keyblob

/-- The verification was about the authorized blob and nothing else: the key is
the one the blob encodes, its parser stopped at the end of the blob, and the
signed data are the session identifier and the packet up to there. -/
def VerifiedByBlob (ctx : Context) (beginning : Nat) (payload : Buffer) (use : KeyUse) : Prop :=
  ReadsAs ctx.crypto use.keytype use.keyblob use.key ∧ use.keyEnd = use.keyblobEnd ∧
    ∃ sessionId, ctx.sessionId = some sessionId ∧
      use.signed = be32 sessionId.length ++ sessionId ++ packetUpTo payload beginning use.keyblobEnd

section

variable {ctx : Context} {beginning : Nat} {payload : Buffer} {auth : AuthState}
  {options : PubKeyOptions} {use : KeyUse}

theorem Verified.authorizedBlob (verified : Verified ctx beginning payload auth options use) :
    AuthorizedBlob ctx payload auth use := by
  obtain ⟨sigalgo, blob, sigtype, fields, _, found, checked⟩ := verified
  obtain ⟨_, type, stop, _⟩ := of_verifyRequest checked
  obtain ⟨contents, present⟩ := of_readKeyRequest fields
  rw [← type] at found
  refine ⟨?_, ?_⟩
  · rw [stop, ← contents]
    have length := present.length_le
    have taken : blob.contents.take (blob.pos + use.keyblob.length) =
        blob.contents.take blob.pos ++ use.keyblob := by
      rw [List.take_add]
      congr 1
      exact (List.prefix_iff_eq_take.1 present).symm
    rw [taken]
    exact List.suffix_append _ _
  · obtain ⟨pw, file, account, opened, found⟩ := exists_file_of_lookupKey found
    obtain ⟨line, accepted⟩ := exists_line_of_checkpubkey found
    obtain ⟨text, inside, decoded⟩ := exists_text_of_checkpubkeyLine accepted
    exact ⟨pw, file, options, line, text, account, opened, found, accepted, inside, decoded⟩

/-- Only a verified signature is marked as one. -/
theorem exists_verified_of_answer {validUser ended : Bool} {auth' : AuthState}
    {username : Option Bytes}
    (marked : auth'.accepted = auth.accepted ++ [.signatureVerified username use])
    (answer : Answer ctx validUser beginning payload auth ended auth') :
    ∃ options, Verified ctx beginning payload auth options use := by
  cases answer with
  | unchanged => simp at marked
  | abandoned => simp at marked
  | failed incrfail => simp at marked
  | rejected => simp at marked
  | refused => simp at marked
  | pkOk sigalgo keyblob => simp at marked
  | password pw password valid account allowed notBlank correct => simp at marked
  | key options use' valid verified =>
    have same : (auth.noted [.found]).username = username ∧ use' = use := by simpa using marked
    exact ⟨options, same.2 ▸ verified⟩
  | blank valid allowed => simp at marked

/-- A complete encoding of a key is all the parser takes. -/
theorem Verified.verifiedByBlob_iff (verified : Verified ctx beginning payload auth options use) :
    VerifiedByBlob ctx beginning payload use ↔
      ∃ key, ReadsAs ctx.crypto use.keytype use.keyblob key := by
  refine ⟨fun bound => ⟨use.key, bound.1⟩, ?_⟩
  rintro ⟨key, reads⟩
  obtain ⟨sigalgo, blob, sigtype, fields, _, _, checked⟩ := verified
  obtain ⟨_, _, stop, behind, sessionId, signature, parsed, keyEnd, identified, built, _⟩ :=
    of_verifyRequest checked
  obtain ⟨contents, present⟩ := of_readKeyRequest fields
  have complete := reads.bufGetPubKey present
  rw [parsed] at complete
  cases complete
  have ended : use.keyEnd = use.keyblobEnd := by
    rw [keyEnd, stop, Buffer.pos_skip blob present.length_le]
  refine ⟨reads, ended, sessionId, identified, ?_⟩
  rw [signedData_eq built, ← ended, keyEnd, packetUpTo, packetUpTo, ← contents]
  rfl

end

/-- **The key of a verified request is the authorized key exactly if the
authorized blob is a complete public key.**  Whenever a request gets as far as
success or partial success, its blob is the decoded text of a line of the user's
file.  The key that verified the signature and the end of the signed data come
from that blob alone if and only if the blob is by itself the encoding of a key. -/
theorem svrAuthPubkey_verifiedByBlob_iff {ctx : Context} {validUser : Bool} {beginning : Nat}
    {payload : Buffer} {auth : AuthState} {username : Option Bytes} {use : KeyUse}
    (verified : (finalState (svrAuthPubkey ctx validUser beginning payload auth)).accepted =
      auth.accepted ++ [.signatureVerified username use]) :
    AuthorizedBlob ctx payload auth use ∧
      (VerifiedByBlob ctx beginning payload use ↔
        ∃ key, ReadsAs ctx.crypto use.keytype use.keyblob key) := by
  obtain ⟨options, found⟩ := exists_verified_of_answer verified svrAuthPubkey_answer
  exact ⟨found.authorizedBlob, found.verifiedByBlob_iff⟩

/-! ## Two requests

An account whose file has one line, and a client that signs with the key
`clientKey`.  The line is either complete or breaks off after the key type. -/

def clientKey : Bytes := List.replicate 32 7

def someone : Passwd := userAccount (ascii "!")

/-- A server that finds `file` for every user, and accepts signatures made with
the client's key. -/
def keyContext (file : Bytes) : Context :=
  { plainContext fun _ => some someone with
    system.authorizedKeys := fun _ => .ok (some file)
    crypto.verify := fun key _ _ _ _ => .ok (key = .ed25519 clientKey)
    parseOptions := fun _ => some {}
    sessionId := some [1, 2, 3, 4] }

/-- The state after the user of the session was found. -/
def loginState : AuthState :=
  { svrAuthinitialise (keyContext []).opts none with
    username := some (ascii "user")
    pw := some someone }

/-- A request up to the method name. -/
def requestHead : Bytes :=
  msgUserauthRequest.toUInt8 :: wireString (ascii "user") ++ wireString (ascii "ssh-connection") ++
    wireString (ascii "publickey")

/-- A signed request for `keyblob`, with `behind` between the blob and the
signature. -/
def keyRequest (keyblob behind : Bytes) : Bytes :=
  requestHead ++ [1] ++ wireString (ascii "ssh-ed25519") ++ wireString keyblob ++ behind ++
    wireString (wireString (ascii "ssh-ed25519") ++ wireString [])

/-- The request in a buffer, at the position behind the method name. -/
def requestBuffer (bytes : Bytes) (head : requestHead.length ≤ bytes.length)
    (size : bytes.length ≤ bufMaxSize) : Buffer := .ofBytesAt requestHead.length bytes head size

/-- The encoding of the client's key. -/
def completeBlob : Bytes := wireString (ascii "ssh-ed25519") ++ wireString clientKey

def completeLine : Bytes :=
  ascii "ssh-ed25519 AAAAC3NzaC1lZDI1NTE5AAAAIAcHBwcHBwcHBwcHBwcHBwcHBwcHBwcHBwcHBwcHBwcH"

def completeRequest : Buffer :=
  requestBuffer (keyRequest completeBlob []) (by decide +kernel) (by decide +kernel)

def completeUse : KeyUse where
  keytype := .ed25519
  keyblob := completeBlob
  keyblobEnd := requestHead.length + 71
  key := .ed25519 clientKey
  keyEnd := requestHead.length + 71
  signed := wireString [1, 2, 3, 4] ++ (keyRequest completeBlob []).take (requestHead.length + 71)

theorem completeBlob_readsAs :
    ReadsAs (keyContext completeLine).crypto .ed25519 completeBlob (.ed25519 clientKey) := by
  let alone := Buffer.ofBytes completeBlob (by decide +kernel)
  refine ⟨alone, alone.skip completeBlob.length, ⟨rfl, rfl, rfl⟩, ?_, ?_⟩
  · decide +kernel
  · decide +kernel

/-- A complete line: the request is verified by the blob. -/
theorem svrAuthPubkey_verifiedByBlob_completeLine :
    (finalState (svrAuthPubkey (keyContext completeLine) true 0 completeRequest
        loginState)).accepted = [.signatureVerified (some (ascii "user")) completeUse] ∧
      AuthorizedBlob (keyContext completeLine) completeRequest loginState completeUse ∧
        VerifiedByBlob (keyContext completeLine) 0 completeRequest completeUse := by
  have verified : (finalState (svrAuthPubkey (keyContext completeLine) true 0 completeRequest
      loginState)).accepted = [.signatureVerified (some (ascii "user")) completeUse] := by
    decide +kernel
  obtain ⟨authorized, iff⟩ := svrAuthPubkey_verifiedByBlob_iff verified
  exact ⟨verified, authorized, iff.2 ⟨_, completeBlob_readsAs⟩⟩

/-- A blob that breaks off after the key type. -/
def truncatedBlob : Bytes := wireString (ascii "ssh-ed25519")

def truncatedLine : Bytes := ascii "ssh-ed25519 AAAAC3NzaC1lZDI1NTE5"

theorem continuedRequest_le :
    (keyRequest truncatedBlob (wireString clientKey)).length ≤ bufMaxSize := by
  decide +kernel

/-- The client continues the blob with a key of its own. -/
def continuedRequest : Buffer :=
  requestBuffer (keyRequest truncatedBlob (wireString clientKey)) (by decide +kernel)
    continuedRequest_le

def continuedUse : KeyUse where
  keytype := .ed25519
  keyblob := truncatedBlob
  keyblobEnd := requestHead.length + 35
  key := .ed25519 clientKey
  keyEnd := requestHead.length + 71
  signed := wireString [1, 2, 3, 4] ++
    (keyRequest truncatedBlob (wireString clientKey)).take (requestHead.length + 71)

/-- A truncated line authorizes every key that the client appends to it: the user
is logged in with a key that the file does not contain. -/
theorem svrAuthPubkey_truncatedLine :
    (finalState (svrAuthPubkey (keyContext truncatedLine) true 0 continuedRequest
        loginState)).authdone ∧
      .signatureVerified (some (ascii "user")) continuedUse ∈
          (finalState (svrAuthPubkey (keyContext truncatedLine) true 0 continuedRequest
            loginState)).accepted ∧
        ¬ VerifiedByBlob (keyContext truncatedLine) 0 continuedRequest continuedUse := by
  refine ⟨by decide +kernel, by decide +kernel, ?_⟩
  rintro ⟨_, ended, _⟩
  exact absurd ended (by decide +kernel)

end Dropbear.Auth
