/-
# The options in force

Over a whole session the options in force are those that the file gave for the
first key whose signature was verified, and the same options said what a security
key had to attest.  Options of keys that were only asked about, or whose signature
was bad, are freed by the request that found them.

That these are the options on a line of the file with that key on it takes more: the
line must be read whole, and what stands on it must be a whole key.
-/

import Dropbear.Auth.Lines
import Dropbear.Auth.Request
import Dropbear.Auth.VerifiedKey
import Dropbear.Program.Spec

namespace Dropbear.Auth

open Program Signkey

/-! ## The keys of a session -/

/-- The key of a mark. -/
def Event.keyUse : Event → Option KeyUse
  | .signatureVerified _ use => some use
  | _ => none

/-- The verified signatures so far, in order. -/
def AuthState.keyUses (auth : AuthState) : List KeyUse := auth.accepted.filterMap Event.keyUse

/-- A request of the session's user was verified with these options. -/
def VerifiedUnder (ctx : Context) (auth : AuthState) (options : PubKeyOptions) (use : KeyUse) :
    Prop :=
  ∃ beginning payload, Verified ctx beginning payload auth options use

/-- What became of the options that were found, in order: the request that found them
freed them, or the session took them.  That happens once. -/
inductive Disposed : Bool → List BlockEvent → Prop where
  | nil : Disposed false []
  | freed {taken : Bool} {blocks : List BlockEvent} (before : Disposed taken blocks) :
      Disposed taken (blocks ++ [.found, .freed])
  | taken {blocks : List BlockEvent} (before : Disposed false blocks) :
      Disposed true (blocks ++ [.found, .taken])

/-- All options that were found are freed, except those in force.  A process that ends
may hold the ones of its last request. -/
def FreedOnce (ended : Bool) (auth : AuthState) : Prop :=
  ∃ blocks, Disposed auth.pubkeyOptions.isSome blocks ∧
    (auth.blocks = blocks ∨ ended ∧ auth.blocks = blocks ++ [.found])

/-- Before a user is named no key is verified.  Every verified key has its options, and
those of the first are in force. -/
structure OptionsBound (ctx : Context) (ended : Bool) (auth : AuthState) : Prop where
  nobody : auth.username = none → auth.keyUses = []
  bound : ∀ use ∈ auth.keyUses, ∃ options, VerifiedUnder ctx auth options use
  unset : auth.keyUses = [] → auth.pubkeyOptions = none
  first : ∀ use more, auth.keyUses = use :: more →
    ∃ options, VerifiedUnder ctx auth options use ∧ auth.pubkeyOptions = some options
  freed : FreedOnce ended auth

section

variable {ctx : Context} {ended : Bool} {auth auth' : AuthState} {options : PubKeyOptions}
  {use : KeyUse}

theorem VerifiedUnder.congr (verified : VerifiedUnder ctx auth options use)
    (pw : auth'.pw = auth.pw) : VerifiedUnder ctx auth' options use := by
  obtain ⟨beginning, payload, sigalgo, blob, sigtype, fields, known, found, checked⟩ := verified
  rw [← pw] at found
  exact ⟨beginning, payload, sigalgo, blob, sigtype, fields, known, found, checked⟩

theorem FreedOnce.disposed (freed : FreedOnce false auth) :
    Disposed auth.pubkeyOptions.isSome auth.blocks := by
  obtain ⟨blocks, disposed, here | ⟨ended, _⟩⟩ := freed
  · exact here ▸ disposed
  · cases ended

theorem optionsBound_svrAuthinitialise (banner : Option Bytes) :
    OptionsBound ctx false (svrAuthinitialise ctx.opts banner) where
  nobody _ := rfl
  bound _ there := nomatch there
  unset _ := rfl
  first _ _ some := nomatch some
  freed := ⟨[], .nil, .inl rfl⟩

theorem AuthState.keyUses_congr (accepted : auth'.accepted = auth.accepted) :
    auth'.keyUses = auth.keyUses := by
  rw [keyUses, accepted, keyUses]

/-- The invariant depends on the user, the options and the verified keys. -/
theorem OptionsBound.congr {ended' : Bool} (sound : OptionsBound ctx ended auth)
    (username : auth'.username = auth.username) (pw : auth'.pw = auth.pw)
    (options : auth'.pubkeyOptions = auth.pubkeyOptions) (uses : auth'.keyUses = auth.keyUses)
    (freed : FreedOnce ended' auth') : OptionsBound ctx ended' auth' where
  nobody := by
    rw [username, uses]
    exact sound.nobody
  bound use there := by
    obtain ⟨found, verified⟩ := sound.bound use (uses ▸ there)
    exact ⟨found, verified.congr pw⟩
  unset := by
    rw [options, uses]
    exact sound.unset
  first use more some := by
    obtain ⟨found, verified, stored⟩ := sound.first use more (uses ▸ some)
    exact ⟨found, verified.congr pw, options.trans stored⟩
  freed := freed

theorem OptionsBound.bannered (sound : OptionsBound ctx ended auth) :
    OptionsBound ctx ended auth.bannered := by
  rw [AuthState.bannered]
  cases auth.banner with
  | none => exact sound
  | some banner =>
    exact sound.congr rfl rfl rfl (AuthState.keyUses_congr (auth.accepted_emitted_packet _))
      sound.freed

theorem OptionsBound.ends (sound : OptionsBound ctx false auth) : OptionsBound ctx ended auth :=
  sound.congr rfl rfl rfl rfl ⟨_, sound.freed.disposed, .inl rfl⟩

theorem OptionsBound.userChecked {validUser : Bool} (sound : OptionsBound ctx ended auth)
    (checked : UserChecked ctx auth auth' validUser) : OptionsBound ctx ended auth' := by
  have uses : auth'.keyUses = auth.keyUses := by
    rw [checked.others]
    rfl
  have options : auth'.pubkeyOptions = auth.pubkeyOptions := by rw [checked.others]
  have freed : FreedOnce ended auth' := by
    rw [checked.others]
    exact sound.freed
  rcases checked.user with ⟨username, pw⟩ | ⟨name, unset, _, _⟩
  · exact sound.congr username pw options uses freed
  · -- the user is named only now, so there are no keys yet
    have none := uses.trans (sound.nobody unset)
    refine ⟨fun _ => none, fun use there => ?_, fun _ => options.trans (sound.unset ?_),
      fun use more some => ?_, freed⟩
    · rw [none] at there
      cases there
    · exact sound.nobody unset
    · rw [none] at some
      cases some

/-- A verified key comes behind those before it, and its options are taken if there
were none. -/
theorem OptionsBound.keyOk (sound : OptionsBound ctx false auth) (user : auth.username ≠ none)
    (verified : VerifiedUnder ctx auth options use) :
    OptionsBound ctx ended
      (((auth.noted [.found]).keyOk ctx.opts options use).noted
        (if ended ∨ auth.pubkeyOptions.isNone then [] else [.freed])) := by
  obtain ⟨username, pw, _, stored, blocks⟩ :=
    (auth.noted [.found]).keyOk_kept ctx.opts options use
  generalize after_eq : (auth.noted [.found]).keyOk ctx.opts options use = after at *
  have uses : after.keyUses = auth.keyUses ++ [use] := by
    rw [← after_eq, AuthState.keyUses, AuthState.accepted_keyOk, List.filterMap_append]
    rfl
  have disposed := sound.freed.disposed
  change after.username = auth.username at username
  change after.pw = auth.pw at pw
  change after.pubkeyOptions = (auth.pubkeyOptions <|> some options) at stored
  refine ⟨fun none => absurd (username ▸ none) user, ?_, ?_, ?_, ?_⟩
  · intro other there
    change other ∈ after.keyUses at there
    rw [uses, List.mem_append, List.mem_singleton] at there
    rcases there with there | rfl
    · obtain ⟨found, other⟩ := sound.bound other there
      exact ⟨found, other.congr pw⟩
    · exact ⟨options, verified.congr pw⟩
  · intro none
    change after.keyUses = [] at none
    rw [uses] at none
    exact absurd none (by simp)
  · intro other more some
    change after.keyUses = other :: more at some
    change ∃ found, VerifiedUnder ctx _ found other ∧ after.pubkeyOptions = _
    rw [uses] at some
    rw [stored]
    cases before : auth.keyUses with
    | nil =>
      rw [before] at some
      cases some
      rw [sound.unset before]
      exact ⟨options, verified.congr pw, rfl⟩
    | cons earliest rest =>
      rw [before] at some
      cases some
      obtain ⟨found, other, kept⟩ := sound.first _ _ before
      rw [kept]
      exact ⟨found, other.congr pw, rfl⟩
  · rw [FreedOnce]
    change ∃ found, Disposed after.pubkeyOptions.isSome found ∧
      (after.blocks ++ _ = _ ∨ _ ∧ after.blocks ++ _ = _)
    rw [stored, blocks]
    cases kept : auth.pubkeyOptions with
    | none =>
      rw [kept] at disposed
      exact ⟨_, .taken disposed, .inl (by simp [AuthState.tookOptions, AuthState.noted, kept])⟩
    | some inForce =>
      rw [kept] at disposed
      cases ended with
      | false =>
        exact ⟨_, .freed disposed, .inl (by simp [AuthState.tookOptions, AuthState.noted, kept])⟩
      | true =>
        exact ⟨_, disposed, .inr ⟨rfl, by simp [AuthState.tookOptions, AuthState.noted, kept]⟩⟩

/-- The answer to a request keeps the invariant. -/
theorem OptionsBound.answer {validUser : Bool} {beginning : Nat} {payload : Buffer}
    (sound : OptionsBound ctx false auth) (user : validUser → auth.username ≠ none)
    (answer : Answer ctx validUser beginning payload auth ended auth') :
    OptionsBound ctx ended auth' := by
  have disposed := sound.freed.disposed
  have kept : FreedOnce ended auth := ⟨_, disposed, .inl rfl⟩
  cases answer with
  | unchanged => exact sound.ends
  | abandoned => exact sound.congr rfl rfl rfl rfl ⟨_, disposed, .inr ⟨rfl, rfl⟩⟩
  | failed incrfail =>
    exact sound.congr rfl rfl rfl (AuthState.keyUses_congr (auth.accepted_failed _ _)) kept
  | rejected =>
    refine sound.congr rfl rfl rfl (AuthState.keyUses_congr (auth.accepted_failed _ _)) ?_
    cases ended with
    | false => exact ⟨_, .freed disposed, .inl (List.append_assoc _ _ _)⟩
    | true => exact ⟨_, disposed, .inr ⟨rfl, List.append_nil _⟩⟩
  | refused => exact sound.congr rfl rfl rfl (AuthState.keyUses_congr auth.accepted_keyRefused) kept
  | pkOk sigalgo keyblob =>
    exact sound.congr rfl rfl rfl (AuthState.keyUses_congr (auth.accepted_emitted_packet _))
      ⟨_, .freed disposed, .inl (List.append_assoc _ _ _)⟩
  | password pw password valid account allowed notBlank correct =>
    have uses : (auth.passwordOk ctx.opts).keyUses = auth.keyUses := by
      rw [AuthState.keyUses, AuthState.accepted_passwordOk, List.filterMap_append]
      exact List.append_nil _
    rw [AuthState.passwordOk] at uses ⊢
    split at uses <;> rename_i more
    · rw [if_pos more]
      exact sound.congr rfl rfl rfl uses kept
    · rw [if_neg more]
      exact sound.congr rfl rfl rfl uses kept
  | key options use valid verified => exact sound.keyOk (user valid) ⟨beginning, payload, verified⟩
  | blank valid allowed =>
    have uses : auth.blankOk.keyUses = auth.keyUses := by
      rw [AuthState.keyUses, AuthState.accepted_blankOk, List.filterMap_append]
      exact List.append_nil _
    exact sound.congr rfl rfl rfl uses kept

theorem OptionsBound.requested {beginning : Nat} (sound : OptionsBound ctx false auth)
    (requested : Requested ctx beginning auth ended auth') : OptionsBound ctx ended auth' := by
  cases requested with
  | ignored done => exact sound
  | ended notYet => exact sound.bannered.ends
  | answered notYet checked answer =>
    refine (sound.bannered.userChecked checked).answer (fun valid none => ?_) answer
    obtain ⟨username, _, _, _, named, _⟩ := checked.valid valid
    exact absurd (named.symm.trans none) (Option.some_ne_none _)

variable (ctx) in
/-- Over a whole session the options in force are those of the first verified key. -/
theorem optionsBound_runAll (banner : Option Bytes) (requests : List (Nat × Buffer)) :
    let ran := runAll (handle ctx) requests (svrAuthinitialise ctx.opts banner)
    OptionsBound ctx (hasFailed ran) (finalState ran) := by
  intro ran
  have ends : Ends (fun _ => OptionsBound ctx false) (fun _ => OptionsBound ctx true) ran := by
    refine ends_runAll (fun _ _ => True) (fun request before _ sound => ?_)
      (allMeet_of_forall (fun _ _ _ => trivial) _) (optionsBound_svrAuthinitialise banner)
    have requested := sound.requested (recvMsgUserauthRequest_requested request.1 request.2)
    change Ends _ _ (recvMsgUserauthRequest ctx request.1 request.2 before)
    cases result : recvMsgUserauthRequest ctx request.1 request.2 before <;>
      rw [result] at requested <;> exact requested
  cases result : ran <;> rw [result] at ends <;> exact ends

end

/-! ## The line of the key -/

/-- The options are those of a line with this key: the file of the user gives them for
the blob, they stand on one of its lines before the blob, the blob encodes the key, and
the key's signature was checked with the flags they demand. -/
def OptionsOfLine (ctx : Context) (auth : AuthState) (options : PubKeyOptions) (use : KeyUse) :
    Prop :=
  ∃ pw file text, auth.pw = some pw ∧ ctx.system.authorizedKeys pw = .ok (some file) ∧
    checkpubkey ctx.parseOptions (signkeyNameFromType use.keytype) use.keyblob file =
        .ok (some options) ∧
      text ∈ physicalLines file ∧
        AcceptsLine ctx.parseOptions (signkeyNameFromType use.keytype) use.keyblob text options ∧
          ReadsAs ctx.crypto use.keytype use.keyblob use.key ∧
            ∃ sigtype signature, signkeyTypeFromSignature sigtype = use.keytype ∧
              bufVerify ctx.crypto signature use.key sigtype (skFlagsMask options) use.signed =
                .ok true

/-- The blob is a whole key, and the options that the file gives for it are all that
stand before it on a line. -/
def TakenWhole (ctx : Context) (auth : AuthState) (use : KeyUse) : Prop :=
  (∃ key, ReadsAs ctx.crypto use.keytype use.keyblob key) ∧
    ∀ pw file options, auth.pw = some pw → ctx.system.authorizedKeys pw = .ok (some file) →
      checkpubkey ctx.parseOptions (signkeyNameFromType use.keytype) use.keyblob file =
          .ok (some options) →
        ∃ text ∈ physicalLines file,
          AcceptsLine ctx.parseOptions (signkeyNameFromType use.keytype) use.keyblob text options

/-- What is asked of a session: every verified key has its line, no options are in
force without a key and those of the first key otherwise, and the others were freed. -/
structure OptionsInForce (ctx : Context) (ran : EStateM.Result Exit AuthState Unit) : Prop where
  verified : ∀ use ∈ (finalState ran).keyUses,
    ∃ options, OptionsOfLine ctx (finalState ran) options use
  unset : (finalState ran).keyUses = [] → (finalState ran).pubkeyOptions = none
  first : ∀ use more, (finalState ran).keyUses = use :: more →
    ∃ options, OptionsOfLine ctx (finalState ran) options use ∧
      (finalState ran).pubkeyOptions = some options ∧
        Enforced (finalState ran).pubkeyOptions options
  freed : FreedOnce (hasFailed ran) (finalState ran)

section

variable {ctx : Context} {auth : AuthState} {options : PubKeyOptions} {use : KeyUse}

theorem OptionsOfLine.takenWhole (ofLine : OptionsOfLine ctx auth options use) :
    TakenWhole ctx auth use := by
  obtain ⟨pw, file, text, account, opened, given, isLine, accepts, reads, _⟩ := ofLine
  refine ⟨⟨use.key, reads⟩, fun pw' file' options' account' opened' given' => ?_⟩
  cases account.symm.trans account'
  cases opened.symm.trans opened'
  cases given.symm.trans given'
  exact ⟨text, isLine, accepts⟩

/-- Where blob and line were taken whole, the options a key was verified with are those
of a line with it. -/
theorem VerifiedUnder.optionsOfLine (verified : VerifiedUnder ctx auth options use)
    (whole : TakenWhole ctx auth use) : OptionsOfLine ctx auth options use := by
  obtain ⟨beginning, payload, verified⟩ := verified
  have reads := (verified.verifiedByBlob_iff.2 whole.1).1
  obtain ⟨sigalgo, blob, sigtype, _, _, found, checked⟩ := verified
  obtain ⟨_, type, _, _, _, signature, _, _, _, _, good⟩ := of_verifyRequest checked
  rw [← type] at found
  obtain ⟨pw, file, account, opened, given⟩ := exists_file_of_lookupKey found
  obtain ⟨text, isLine, accepts⟩ := whole.2 pw file options account opened given
  exact ⟨pw, file, text, account, opened, given, isLine, accepts, reads, sigtype, signature,
    type.symm, good⟩

end

/-- **The options in force belong to the line of the first key that was verified,
exactly if lines and keys were taken whole.**  That is so for every sequence of requests
if no line of a file is too long and the blobs that were verified are whole keys. -/
theorem optionsInForce_iff (ctx : Context) (banner : Option Bytes) (requests : List (Nat × Buffer)) :
    let ran := runAll (handle ctx) requests (svrAuthinitialise ctx.opts banner)
    (OptionsInForce ctx ran ↔
        ∀ use ∈ (finalState ran).keyUses, TakenWhole ctx (finalState ran) use) ∧
      ((∀ pw file, ctx.system.authorizedKeys pw = .ok (some file) →
          ∀ text ∈ physicalLines file, text.length < maxAuthkeysLine) →
        (∀ use ∈ (finalState ran).keyUses,
          ∃ key, ReadsAs ctx.crypto use.keytype use.keyblob key) →
          OptionsInForce ctx ran) := by
  intro ran
  have bound : OptionsBound ctx (hasFailed ran) (finalState ran) :=
    optionsBound_runAll ctx banner requests
  have inForce : OptionsInForce ctx ran ↔
      ∀ use ∈ (finalState ran).keyUses, TakenWhole ctx (finalState ran) use := by
    constructor
    · intro inForce use there
      obtain ⟨options, ofLine⟩ := inForce.verified use there
      exact ofLine.takenWhole
    · intro whole
      refine ⟨fun use there => ?_, bound.unset, fun use more uses => ?_, bound.freed⟩
      · obtain ⟨options, verified⟩ := bound.bound use there
        exact ⟨options, verified.optionsOfLine (whole use there)⟩
      · obtain ⟨options, verified, stored⟩ := bound.first use more uses
        refine ⟨options, verified.optionsOfLine (whole use (uses ▸ .head _)), stored, ?_⟩
        rw [stored]
        exact enforced_some options
  refine ⟨inForce, fun allShort complete => inForce.2 fun use there => ⟨complete use there, ?_⟩⟩
  exact fun pw file options _ opened given =>
    exists_physicalLine_of_checkpubkey (allShort pw file opened) given

/-! ## A line without a key -/

/-- The client continues the blob of the truncated line with a key of its own. -/
def continuedLogin : Nat × Buffer where
  fst := 0
  snd := .ofBytesAt 1 (keyRequest truncatedBlob (wireString clientKey)) (by decide +kernel)
    continuedRequest_le

/-- The client gets in with that key, and in force are the options of a line that does not
have it. -/
theorem optionsInForce_truncatedLine :
    let ctx := keyContext truncatedLine
    let ran := runAll (handle ctx) [continuedLogin] (svrAuthinitialise ctx.opts none)
    (finalState ran).authdone ∧ (finalState ran).keyUses = [continuedUse] ∧
      (finalState ran).pubkeyOptions = some {} ∧ ¬ OptionsInForce ctx ran := by
  have uses : (finalState (runAll (handle (keyContext truncatedLine)) [continuedLogin]
      (svrAuthinitialise (keyContext truncatedLine).opts none))).keyUses = [continuedUse] := by
    decide +kernel
  refine ⟨by decide +kernel, uses, by decide +kernel, fun inForce => ?_⟩
  obtain ⟨options, ofLine⟩ := inForce.verified continuedUse (uses ▸ .head _)
  obtain ⟨⟨key, reads⟩, _⟩ := ofLine.takenWhole
  -- read by itself the blob ends too soon
  have fails : (bufGetPubKey (keyContext truncatedLine).crypto (some continuedUse.keytype)
      (.ofBytes truncatedBlob (by decide +kernel))).isOk = false := by decide +kernel
  have here : truncatedBlob <+: (Buffer.ofBytes truncatedBlob (by decide +kernel)).rest :=
    ⟨[], (List.append_nil _).trans (Buffer.rest_ofBytesAt 0 _ _ _).symm⟩
  rw [reads.bufGetPubKey here] at fails
  cases fails

end Dropbear.Auth
