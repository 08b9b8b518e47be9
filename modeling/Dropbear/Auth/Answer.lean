/-
# What a userauth request can do

One statement for all later results: the ways in which the answer to a request
can change the authentication state, with the conditions under which each is
taken.  In particular the three ways to accept a credential are listed with
everything that was checked for them.
-/

import Dropbear.Auth.Server

namespace Dropbear.Auth

open Program Signkey

/-! ## The changes -/

/-- Whether an event marks an accepted credential. -/
def Event.isMark : Event → Bool
  | .packet _ => false
  | .delay => false
  | .passwordAccepted _ => true
  | .signatureVerified _ _ => true
  | .blankAccepted _ => true

namespace AuthState

/-- After an event. -/
def emitted (auth : AuthState) (event : Event) : AuthState :=
  { auth with events := auth.events ++ [event] }

/-- After the options of a key were found or changed hands. -/
def noted (auth : AuthState) (events : List BlockEvent) : AuthState :=
  { auth with blocks := auth.blocks ++ events }

/-- After a failure message, delayed and counted if it is to be. -/
def failed (auth : AuthState) (isPartial incrfail : Bool) : AuthState :=
  { auth with
    failcount := if incrfail then u32 (auth.failcount + 1) else auth.failcount
    events := auth.events ++ .packet (userauthFailure auth.authtypes isPartial) ::
      if incrfail then [.delay] else [] }

/-- After a success message. -/
def succeeded (auth : AuthState) : AuthState :=
  { auth.emitted (.packet [msgUserauthSuccess.toUInt8]) with authdone := true }

/-- After the password of the account was presented. -/
def passwordOk (auth : AuthState) (opts : SvrOpts) : AuthState :=
  let marked := auth.emitted (.passwordAccepted auth.username)
  if opts.multiauthmethod ∧ auth.authtypes.pubkey then
    { marked with authtypes := { auth.authtypes with password := false } }.failed true false
  else marked.succeeded

/-- After the session took the options, if it had none. -/
def tookOptions (auth : AuthState) (options : PubKeyOptions) : AuthState :=
  { auth with
    pubkeyOptions := auth.pubkeyOptions <|> some options
    blocks := auth.blocks ++ if auth.pubkeyOptions.isNone then [BlockEvent.taken] else [] }

/-- After a signature by an authorized key was verified. -/
def keyOk (auth : AuthState) (opts : SvrOpts) (options : PubKeyOptions) (use : KeyUse) :
    AuthState :=
  let marked := (auth.emitted (.signatureVerified auth.username use)).tookOptions options
  if opts.multiauthmethod ∧ auth.authtypes.password then
    { marked with authtypes := { auth.authtypes with pubkey := false } }.failed true false
  else marked.succeeded

/-- After a user with a blank password was let in. -/
def blankOk (auth : AuthState) : AuthState :=
  (auth.emitted (.blankAccepted auth.username)).succeeded

/-- After a key was refused. -/
def keyRefused (auth : AuthState) : AuthState :=
  { auth.failed false (auth.servPubkeyQueryCount > 0) with
    servPubkeyQueryCount := u32 (auth.servPubkeyQueryCount + 1) }

/-- The marks among the events: the credentials accepted so far. -/
def accepted (auth : AuthState) : List Event := auth.events.filter Event.isMark

@[simp]
theorem accepted_failed (auth : AuthState) (isPartial incrfail : Bool) :
    (auth.failed isPartial incrfail).accepted = auth.accepted := by
  cases incrfail <;> simp [accepted, failed, Event.isMark]

@[simp]
theorem accepted_emitted_packet (auth : AuthState) (payload : Bytes) :
    (auth.emitted (.packet payload)).accepted = auth.accepted := by
  simp [accepted, emitted, Event.isMark]

@[simp]
theorem accepted_noted (auth : AuthState) (events : List BlockEvent) :
    (auth.noted events).accepted = auth.accepted := rfl

@[simp]
theorem accepted_succeeded (auth : AuthState) : auth.succeeded.accepted = auth.accepted := by
  simp [accepted, succeeded, emitted, Event.isMark]

@[simp]
theorem accepted_keyRefused (auth : AuthState) : auth.keyRefused.accepted = auth.accepted :=
  auth.accepted_failed _ _

@[simp]
theorem accepted_passwordOk (auth : AuthState) (opts : SvrOpts) :
    (auth.passwordOk opts).accepted = auth.accepted ++ [.passwordAccepted auth.username] := by
  have marked : (auth.emitted (.passwordAccepted auth.username)).accepted =
      auth.accepted ++ [.passwordAccepted auth.username] := by simp [accepted, emitted, Event.isMark]
  unfold passwordOk
  split
  · rw [accepted_failed]
    exact marked
  · rw [accepted_succeeded]
    exact marked

@[simp]
theorem accepted_keyOk (auth : AuthState) (opts : SvrOpts) (options : PubKeyOptions)
    (use : KeyUse) :
    (auth.keyOk opts options use).accepted = auth.accepted ++ [.signatureVerified auth.username use] := by
  have marked : (auth.emitted (.signatureVerified auth.username use)).accepted =
      auth.accepted ++ [.signatureVerified auth.username use] := by simp [accepted, emitted, Event.isMark]
  unfold keyOk
  split
  · rw [accepted_failed]
    exact marked
  · rw [accepted_succeeded]
    exact marked

/-- A verified key leaves the user alone. -/
theorem keyOk_kept (auth : AuthState) (opts : SvrOpts) (options : PubKeyOptions) (use : KeyUse) :
    (auth.keyOk opts options use).username = auth.username ∧
      (auth.keyOk opts options use).pw = auth.pw ∧
      (auth.keyOk opts options use).checkusernameFailed = auth.checkusernameFailed ∧
      (auth.keyOk opts options use).pubkeyOptions = (auth.pubkeyOptions <|> some options) ∧
      (auth.keyOk opts options use).blocks = (auth.tookOptions options).blocks := by
  unfold keyOk
  split <;> exact ⟨rfl, rfl, rfl, rfl, rfl⟩

@[simp]
theorem accepted_blankOk (auth : AuthState) :
    auth.blankOk.accepted = auth.accepted ++ [.blankAccepted auth.username] := by
  rw [blankOk, accepted_succeeded]
  simp [accepted, emitted, Event.isMark]

end AuthState

/-! ## Running the answers -/

variable {α : Type}

@[simp]
theorem fromBuffer_ok (value : α) (auth : AuthState) :
    fromBuffer (.ok value) auth = .ok value auth := rfl

/-- A failure message is sent, and counted if it is to be.  The session ends if
there were too many. -/
theorem sendMsgUserauthFailure_apply (opts : SvrOpts) (isPartial incrfail : Bool)
    (auth : AuthState) :
    sendMsgUserauthFailure opts isPartial incrfail auth =
      if (auth.failed isPartial incrfail).failcount > opts.maxauthtries then
        .error (.exit "Max auth tries reached - user '%s'") (auth.failed isPartial incrfail)
      else .ok () (auth.failed isPartial incrfail) := by
  have sent : sendMsgUserauthFailure opts isPartial incrfail auth =
      checkFailcount opts (auth.failed isPartial incrfail) := by
    cases incrfail with
    | false => rfl
    | true =>
      have events : auth.events ++ [Event.packet (userauthFailure auth.authtypes isPartial),
          .delay] = auth.events ++ [.packet (userauthFailure auth.authtypes isPartial)] ++
            [.delay] := by simp
      simp only [AuthState.failed, if_true, events]
      rfl
  rw [sent, checkFailcount, EStateM.get_bind_apply]
  split <;> rfl

theorem finalState_sendMsgUserauthFailure (opts : SvrOpts) (isPartial incrfail : Bool)
    (auth : AuthState) :
    finalState (sendMsgUserauthFailure opts isPartial incrfail auth) =
      auth.failed isPartial incrfail := by
  rw [sendMsgUserauthFailure_apply]
  split <;> rfl

theorem finalState_acceptPassword (opts : SvrOpts) (auth : AuthState) :
    finalState (acceptPassword opts auth) = auth.passwordOk opts := by
  change finalState ((if opts.multiauthmethod ∧ auth.authtypes.pubkey then _ else _ : AuthM Unit)
    (auth.emitted (.passwordAccepted auth.username))) = _
  by_cases more : opts.multiauthmethod ∧ auth.authtypes.pubkey
  · rw [if_pos more, AuthState.passwordOk, if_pos more]
    exact finalState_sendMsgUserauthFailure opts true false _
  · rw [if_neg more, AuthState.passwordOk, if_neg more]
    rfl

/-- What a request does at the label `out`, if it gets there. -/
theorem bind_out (run : AuthM Unit) (kept : Option PubKeyOptions) (auth : AuthState) :
    hasFailed ((run >>= fun _ => out kept) auth) = hasFailed (run auth) ∧
      finalState ((run >>= fun _ => out kept) auth) = (finalState (run auth)).noted
        (if hasFailed (run auth) ∨ kept.isNone then [] else [.freed]) := by
  cases ran : run auth with
  | ok value after =>
    rw [EStateM.bind_of_ok ran]
    cases kept with
    | none =>
      rw [Option.isNone_none, if_pos (.inr rfl), AuthState.noted, List.append_nil]
      exact ⟨rfl, rfl⟩
    | some options => exact ⟨rfl, rfl⟩
  | error failure after =>
    rw [EStateM.bind_of_error ran]
    simp [hasFailed, AuthState.noted]

theorem takeOptions_apply (options : PubKeyOptions) (auth : AuthState) :
    takeOptions options auth = .ok (if auth.pubkeyOptions.isNone then none else some options)
      (auth.tookOptions options) := by
  rw [takeOptions, EStateM.get_bind_apply]
  obtain ⟨_, _, _, _, _, _, _, pubkeyOptions, _, _, _⟩ := auth
  cases pubkeyOptions with
  | none => rfl
  | some _ =>
    simp only [AuthState.tookOptions, Option.isNone_some, Bool.false_eq_true, if_false,
      List.append_nil]
    rfl

theorem acceptKey_spec (opts : SvrOpts) (options : PubKeyOptions) (use : KeyUse)
    (auth : AuthState) :
    finalState (acceptKey opts options use auth) = (auth.keyOk opts options use).noted
      (if hasFailed (acceptKey opts options use auth) ∨ auth.pubkeyOptions.isNone then []
        else [.freed]) := by
  have started : acceptKey opts options use auth =
      (keyAccepted opts >>= fun _ =>
        out (if auth.pubkeyOptions.isNone then none else some options))
        ((auth.emitted (.signatureVerified auth.username use)).tookOptions options) := by
    change (takeOptions options >>= fun kept => keyAccepted opts >>= fun _ => out kept)
      (auth.emitted (.signatureVerified auth.username use)) = _
    rw [EStateM.bind_of_ok (takeOptions_apply _ _)]
    rfl
  have answered : ∀ marked : AuthState, finalState (keyAccepted opts marked) =
      if opts.multiauthmethod ∧ marked.authtypes.password then
        { marked with authtypes := { marked.authtypes with pubkey := false } }.failed true false
      else marked.succeeded := by
    intro marked
    rw [keyAccepted, EStateM.get_bind_apply]
    split
    · exact finalState_sendMsgUserauthFailure opts true false _
    · rfl
  obtain ⟨failed, final⟩ := bind_out (keyAccepted opts)
    (if auth.pubkeyOptions.isNone then none else some options)
    ((auth.emitted (.signatureVerified auth.username use)).tookOptions options)
  rw [started, final, failed, answered, AuthState.keyOk]
  cases auth.pubkeyOptions <;> rfl

/-- A refused key is counted, unless the session ends with the answer. -/
theorem refuseKey_apply (opts : SvrOpts) (auth : AuthState) :
    refuseKey opts auth =
      if (auth.failed false (auth.servPubkeyQueryCount > 0)).failcount > opts.maxauthtries then
        .error (.exit "Max auth tries reached - user '%s'")
          (auth.failed false (auth.servPubkeyQueryCount > 0))
      else .ok () auth.keyRefused := by
  have sent := sendMsgUserauthFailure_apply opts false (auth.servPubkeyQueryCount > 0) auth
  by_cases many :
      (auth.failed false (auth.servPubkeyQueryCount > 0)).failcount > opts.maxauthtries
  · rw [if_pos many] at sent ⊢
    exact EStateM.bind_of_error sent _
  · rw [if_neg many] at sent ⊢
    exact EStateM.bind_of_ok sent _

/-- A valid user's key that is not authorized is refused. -/
theorem checkKey_refused {ctx : Context} {auth : AuthState} {testkey : Bool}
    {sigalgo keyblob : Bytes} {sigtype : SignatureType} {beginning : Nat} {payload : Buffer}
    (unauthorized : lookupKey ctx (signkeyTypeFromSignature sigtype) keyblob auth.pw = .ok none) :
    checkKey ctx testkey sigalgo sigtype keyblob beginning payload auth =
      refuseKey ctx.opts auth := by
  rw [checkKey, EStateM.get_bind_apply, unauthorized]
  rfl

/-- A key that is found stands in the file of the account. -/
theorem exists_file_of_lookupKey {ctx : Context} {keytype : SignkeyType} {keyblob : Bytes}
    {account : Option Passwd} {options : PubKeyOptions}
    (found : lookupKey ctx keytype keyblob account = .ok (some options)) :
    ∃ pw file, account = some pw ∧ ctx.system.authorizedKeys pw = .ok (some file) ∧
      checkpubkey ctx.parseOptions (signkeyNameFromType keytype) keyblob file =
        .ok (some options) := by
  cases account with
  | none => cases found
  | some pw =>
    obtain ⟨content, opened, found⟩ := Except.bind_eq_ok.1 found
    cases content with
    | none => cases found
    | some file => exact ⟨pw, file, rfl, opened, found⟩

/-- The look into the user's file may end the process. -/
theorem checkKey_ended {ctx : Context} {auth : AuthState} {testkey : Bool}
    {sigalgo keyblob : Bytes} {sigtype : SignatureType} {beginning : Nat} {payload : Buffer}
    {failure : Exit}
    (looked : lookupKey ctx (signkeyTypeFromSignature sigtype) keyblob auth.pw = .error failure) :
    checkKey ctx testkey sigalgo sigtype keyblob beginning payload auth = .error failure auth := by
  rw [checkKey, EStateM.get_bind_apply, looked]
  rfl

/-! ## The ways to answer -/

/-- A signature was verified with all that precedes it: the request is an attempt
and not a query, its signature type is known, the file of the user's account
authorizes its blob, and the signature check succeeded with the key read from
the packet. -/
def Verified (ctx : Context) (beginning : Nat) (payload : Buffer) (auth : AuthState)
    (options : PubKeyOptions) (use : KeyUse) : Prop :=
  ∃ sigalgo blob sigtype, readKeyRequest payload = .ok (false, sigalgo, use.keyblob, blob) ∧
    signatureTypeFromName sigalgo = some sigtype ∧
      lookupKey ctx (signkeyTypeFromSignature sigtype) use.keyblob auth.pw = .ok (some options) ∧
        verifyRequest ctx options sigtype use.keyblob beginning blob = .ok (some (use, true))

/-- The ways in which a request can change the state, once its user has been
checked with verdict `validUser`, and whether the process ends. -/
inductive Answer (ctx : Context) (validUser : Bool) (beginning : Nat) (payload : Buffer)
    (auth : AuthState) : Bool → AuthState → Prop
  /-- The process ends on a malformed request. -/
  | unchanged : Answer ctx validUser beginning payload auth true auth
  /-- The process ends while the signature of an authorized key is read. -/
  | abandoned : Answer ctx validUser beginning payload auth true (auth.noted [.found])
  | failed (incrfail : Bool) {ended : Bool} :
      Answer ctx validUser beginning payload auth ended (auth.failed false incrfail)
  /-- An authorized key, but not its signature. -/
  | rejected {ended : Bool} :
      Answer ctx validUser beginning payload auth ended
        (((auth.noted [.found]).failed false true).noted (if ended then [] else [.freed]))
  | refused : Answer ctx validUser beginning payload auth false auth.keyRefused
  | pkOk (sigalgo keyblob : Bytes) :
      Answer ctx validUser beginning payload auth false
        (((auth.noted [.found]).emitted (.packet (userauthPkOk sigalgo keyblob))).noted [.freed])
  | password {ended : Bool} (pw : Passwd) (password : Bytes) (valid : validUser) (account : auth.pw = some pw)
      (allowed : passwordAllowed ctx.opts auth) (notBlank : pw.pwPasswd ≠ [])
      (correct : ctx.system.crypt (cString password) pw.pwPasswd = some pw.pwPasswd) :
      Answer ctx validUser beginning payload auth ended (auth.passwordOk ctx.opts)
  | key {ended : Bool} (options : PubKeyOptions) (use : KeyUse) (valid : validUser)
      (verified : Verified ctx beginning payload auth options use) :
      Answer ctx validUser beginning payload auth ended
        (((auth.noted [.found]).keyOk ctx.opts options use).noted
          (if ended ∨ auth.pubkeyOptions.isNone then [] else [.freed]))
  | blank (valid : validUser) (allowed : blankAllowed ctx.opts auth) :
      Answer ctx validUser beginning payload auth false auth.blankOk

/-- An answer leaves the user alone. -/
theorem Answer.user_kept {ctx : Context} {validUser : Bool} {beginning : Nat} {payload : Buffer}
    {auth auth' : AuthState} {ended : Bool}
    (answer : Answer ctx validUser beginning payload auth ended auth') :
    auth'.username = auth.username ∧ auth'.pw = auth.pw ∧
      auth'.checkusernameFailed = auth.checkusernameFailed := by
  cases answer with
  | unchanged => exact ⟨rfl, rfl, rfl⟩
  | abandoned => exact ⟨rfl, rfl, rfl⟩
  | failed incrfail => exact ⟨rfl, rfl, rfl⟩
  | rejected => exact ⟨rfl, rfl, rfl⟩
  | refused => exact ⟨rfl, rfl, rfl⟩
  | pkOk sigalgo keyblob => exact ⟨rfl, rfl, rfl⟩
  | password pw password =>
    rw [AuthState.passwordOk]
    split <;> exact ⟨rfl, rfl, rfl⟩
  | key options use =>
    obtain ⟨username, pw, failed, _⟩ := (auth.noted [.found]).keyOk_kept ctx.opts options use
    exact ⟨username, pw, failed⟩
  | blank => exact ⟨rfl, rfl, rfl⟩

section

variable {ctx : Context} {validUser : Bool} {beginning : Nat} {payload : Buffer} {auth : AuthState}

theorem Answer.of_failure (isPartial incrfail : Bool) (whole : isPartial = false) :
    Answer ctx validUser beginning payload auth
      (hasFailed (sendMsgUserauthFailure ctx.opts isPartial incrfail auth))
      (finalState (sendMsgUserauthFailure ctx.opts isPartial incrfail auth)) := by
  subst whole
  rw [finalState_sendMsgUserauthFailure]
  exact .failed incrfail

/-- The final state of a buffer read followed by more. -/
theorem Answer.of_read {α : Type} {read : Except Exit α} {next : α → AuthM Unit}
    (rest : ∀ value, read = .ok value →
      Answer ctx validUser beginning payload auth (hasFailed (next value auth))
        (finalState (next value auth))) :
    Answer ctx validUser beginning payload auth (hasFailed ((fromBuffer read >>= next) auth))
      (finalState ((fromBuffer read >>= next) auth)) := by
  cases result : read with
  | ok value => exact rest value result
  | error failure => exact .unchanged

theorem checkPassword_answer (valid : validUser) (allowed : passwordAllowed ctx.opts auth)
    (password : Bytes) :
    Answer ctx validUser beginning payload auth (hasFailed (checkPassword ctx password auth))
      (finalState (checkPassword ctx password auth)) := by
  rw [checkPassword, EStateM.get_bind_apply]
  cases account : auth.pw with
  | none => exact .unchanged
  | some pw =>
    dsimp only
    cases hashed : ctx.system.crypt (cString password) pw.pwPasswd with
    | none => exact .of_failure false true rfl
    | some testcrypt =>
      dsimp only
      by_cases isBlank : pw.pwPasswd = []
      · rw [if_pos isBlank]
        exact .of_failure false true rfl
      · rw [if_neg isBlank]
        by_cases same : testcrypt = pw.pwPasswd
        · rw [if_pos same, finalState_acceptPassword]
          subst same
          exact .password pw password valid account allowed isBlank hashed
        · rw [if_neg same]
          exact .of_failure false true rfl

theorem svrAuthPassword_answer (allowed : passwordAllowed ctx.opts auth) :
    Answer ctx validUser beginning payload auth
      (hasFailed (svrAuthPassword ctx validUser payload auth))
      (finalState (svrAuthPassword ctx validUser payload auth)) := by
  refine .of_read fun offered _ => ?_
  cases offered with
  | none => exact .of_failure false true rfl
  | some password =>
    cases validUser with
    | false => exact .of_failure false true rfl
    | true =>
      by_cases long : password.length > dropbearMaxPasswordLen
      · simp only [not_true_eq_false, if_false, long, if_true]
        exact .of_failure false true rfl
      · simp only [not_true_eq_false, if_false, long]
        exact checkPassword_answer rfl allowed password

/-- What a completed signature check has read. -/
theorem of_verifyRequest {options : PubKeyOptions} {sigtype : SignatureType} {keyblob : Bytes}
    {blob : Buffer} {use : KeyUse} {good : Bool}
    (returned : verifyRequest ctx options sigtype keyblob beginning blob = .ok (some (use, good))) :
    use.keyblob = keyblob ∧ use.keytype = signkeyTypeFromSignature sigtype ∧
      use.keyblobEnd = blob.pos + keyblob.length ∧ ∃ behind sessionId signature,
        bufGetPubKey ctx.crypto (some use.keytype) blob = .ok (some use.key, behind) ∧
          use.keyEnd = behind.pos ∧ ctx.sessionId = some sessionId ∧
            signedData sessionId beginning behind = .ok (use.signed, signature) ∧
              bufVerify ctx.crypto signature use.key sigtype (skFlagsMask options) use.signed =
                .ok good := by
  obtain ⟨⟨key, behind⟩, parsed, returned⟩ := Except.bind_eq_ok.1 returned
  cases key with
  | none => cases returned
  | some key =>
    cases identified : ctx.sessionId with
    | none =>
      simp only [identified] at returned
      cases returned
    | some sessionId =>
      simp only [identified] at returned
      obtain ⟨⟨signed, signature⟩, built, returned⟩ := Except.bind_eq_ok.1 returned
      obtain ⟨_, checked, same⟩ := Except.bind_eq_ok.1 returned
      cases same
      exact ⟨rfl, rfl, rfl, behind, sessionId, signature, parsed, rfl, rfl, built, checked⟩

theorem svrAuthPubkey_answer :
    Answer ctx validUser beginning payload auth
      (hasFailed (svrAuthPubkey ctx validUser beginning payload auth))
      (finalState (svrAuthPubkey ctx validUser beginning payload auth)) := by
  refine .of_read fun request fields => ?_
  obtain ⟨testkey, sigalgo, keyblob, blob⟩ := request
  cases validUser with
  | false => exact .of_failure false false rfl
  | true =>
    simp only [not_true_eq_false, if_false]
    cases known : signatureTypeFromName sigalgo with
    | none => exact .of_failure false false rfl
    | some sigtype =>
      dsimp only
      rw [checkKey, EStateM.get_bind_apply]
      refine .of_read fun answer found => ?_
      cases answer with
      | none =>
        dsimp only
        rw [refuseKey_apply]
        split
        · exact .failed _
        · exact .refused
      | some options =>
        cases testkey with
        | true => exact .pkOk sigalgo keyblob
        | false =>
          change Answer ctx true beginning payload auth
            (hasFailed (tryKey ctx options sigtype keyblob beginning blob (auth.noted [.found])))
            (finalState (tryKey ctx options sigtype keyblob beginning blob (auth.noted [.found])))
          have bad : ∀ run : AuthM Unit, run = (do
              sendMsgUserauthFailure ctx.opts false true
              out (some options)) → Answer ctx true beginning payload auth
                (hasFailed (run (auth.noted [.found]))) (finalState (run (auth.noted [.found]))) := by
            rintro _ rfl
            obtain ⟨failed, final⟩ := bind_out (sendMsgUserauthFailure ctx.opts false true)
              (some options) (auth.noted [.found])
            rw [failed, final, finalState_sendMsgUserauthFailure]
            simp only [Option.isNone_some, Bool.false_eq_true, or_false]
            exact .rejected
          rw [tryKey]
          cases verified : verifyRequest ctx options sigtype keyblob beginning blob with
          | error failure => exact .abandoned
          | ok checked =>
            rcases checked with _ | ⟨use, _ | _⟩
            · exact bad _ rfl
            · exact bad _ rfl
            · rw [EStateM.bind_of_ok (fromBuffer_ok _ _)]
              dsimp only
              rw [acceptKey_spec]
              obtain rfl := (of_verifyRequest verified).1
              exact .key options use rfl
                ⟨sigalgo, blob, sigtype, fields, known, found, verified⟩

theorem noneRequest_answer :
    Answer ctx validUser beginning payload auth (hasFailed (noneRequest ctx.opts validUser auth))
      (finalState (noneRequest ctx.opts validUser auth)) := by
  rw [noneRequest, EStateM.get_bind_apply]
  by_cases accept : validUser ∧ blankAllowed ctx.opts auth
  · rw [if_pos accept]
    exact .blank accept.1 accept.2
  · rw [if_neg accept]
    exact .of_failure false false rfl

/-- Every request is answered in one of these ways. -/
theorem dispatchMethod_answer (methodname : Bytes) :
    Answer ctx validUser beginning payload auth
      (hasFailed (dispatchMethod ctx validUser methodname beginning payload auth))
      (finalState (dispatchMethod ctx validUser methodname beginning payload auth)) := by
  rw [dispatchMethod, EStateM.get_bind_apply]
  by_cases isNone : methodname = ascii "none"
  · rw [if_pos isNone]
    exact noneRequest_answer
  · rw [if_neg isNone]
    by_cases isPassword : passwordAllowed ctx.opts auth ∧ methodname = ascii "password"
    · rw [if_pos isPassword]
      exact svrAuthPassword_answer isPassword.1
    · rw [if_neg isPassword]
      by_cases isPubkey : methodname = ascii "publickey"
      · rw [if_pos isPubkey]
        exact svrAuthPubkey_answer
      · rw [if_neg isPubkey]
        exact .of_failure false true rfl

end

end Dropbear.Auth
