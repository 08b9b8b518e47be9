/-
# User enumeration

Two servers get the same requests.  They differ only in the entry of one user in
the account database: one has an account that `checkusername` accepts, the other
has none or one that it refuses.  No offered password is the account's, and no
offered key is authorized.  What the client then sees is the failure messages,
their delays and the end of the connection.

Every request is answered by one of three replies, which are compared for the
two servers.  The replies differ in three situations, and the servers look the same
over a whole session if and only if it avoids them.
-/

import Dropbear.Auth.Request
import Dropbear.Buffer.Consume

namespace Dropbear.Auth

open Program Signkey

/-! ## Replies to credentials that are not accepted -/

/-- How a request without an accepted credential is answered. -/
inductive Reply where
  /-- The process ends while the request is read. -/
  | ended (failure : Exit)
  | failed (incrfail : Bool)
  /-- A key that is not authorized for an account that exists. -/
  | refused
  deriving DecidableEq, Repr

def Reply.run (opts : SvrOpts) : Reply → AuthM Unit
  | .ended failure => throw failure
  | .failed incrfail => sendMsgUserauthFailure opts false incrfail
  | .refused => refuseKey opts

/-- The exit of `checkpubkey` for the key of a request, if it comes to that. -/
def keyExit (ctx : Context) (account : Option Passwd) (payload : Buffer) : Option Exit :=
  match readKeyRequest payload with
  | .error _ => none
  | .ok (_, sigalgo, keyblob, _) =>
    match signatureTypeFromName sigalgo with
    | none => none
    | some sigtype =>
      match lookupKey ctx (signkeyTypeFromSignature sigtype) keyblob account with
      | .error failure => some failure
      | .ok _ => none

/-- The reply to a method.  `allowed` says whether passwords are taken, and `exit` how the
look for the key ends the process. -/
def reply (allowed validUser : Bool) (exit : Option Exit) (methodname : Bytes)
    (payload : Buffer) : Reply :=
  if methodname = ascii "none" then .failed false
  else if allowed ∧ methodname = ascii "password" then
    match readPassword payload with
    | .error failure => .ended failure
    | .ok _ => .failed true
  else if methodname = ascii "publickey" then
    match readKeyRequest payload with
    | .error failure => .ended failure
    | .ok (_, sigalgo, _, _) =>
      if validUser ∧ (signatureTypeFromName sigalgo).isSome then exit.elim .refused .ended
      else .failed false
  else .failed true

theorem reply_password (allowed validUser : Bool) (exit : Option Exit) (payload : Buffer) :
    reply allowed validUser exit (ascii "password") payload =
      if allowed then
        match readPassword payload with
        | .error failure => .ended failure
        | .ok _ => .failed true
      else .failed true := by
  cases allowed with
  | false => rfl
  | true => rfl

theorem reply_publickey (allowed validUser : Bool) (exit : Option Exit) (payload : Buffer) :
    reply allowed validUser exit (ascii "publickey") payload =
      match readKeyRequest payload with
      | .error failure => .ended failure
      | .ok (_, sigalgo, _, _) =>
        if validUser ∧ (signatureTypeFromName sigalgo).isSome then exit.elim .refused .ended
        else .failed false := by
  cases allowed with
  | false => rfl
  | true => rfl

variable {methodname : Bytes}

/-- The other methods look neither at the account nor at the rest of the request. -/
theorem reply_other (notPassword : methodname ≠ ascii "password")
    (notKey : methodname ≠ ascii "publickey") (allowed validUser : Bool) (exit : Option Exit)
    (payload : Buffer) : reply allowed validUser exit methodname payload = .failed (methodname ≠ ascii "none") := by
  by_cases isNone : methodname = ascii "none"
  · simp [reply, isNone]
  · simp [reply, isNone, notPassword, notKey]

/-- The credential in a request is not the account's: the password does not match, and the
key is not found, be it that the look for it ends the process. -/
structure Unaccepted (ctx : Context) (pw : Passwd) (methodname : Bytes) (payload : Buffer) :
    Prop where
  password : methodname = ascii "password" → ∀ password,
    readPassword payload = .ok (some password) →
      ctx.system.crypt (cString password) pw.pwPasswd ≠ some pw.pwPasswd
  key : methodname = ascii "publickey" → ∀ testkey sigalgo keyblob behind sigtype options,
    readKeyRequest payload = .ok (testkey, sigalgo, keyblob, behind) →
      signatureTypeFromName sigalgo = some sigtype →
        lookupKey ctx (signkeyTypeFromSignature sigtype) keyblob (some pw) ≠ .ok (some options)

section

variable {ctx : Context} {auth : AuthState} {payload : Buffer} {validUser : Bool} {pw : Passwd}

theorem checkPassword_wrong {password : Bytes} (account : auth.pw = some pw)
    (wrong : ctx.system.crypt (cString password) pw.pwPasswd ≠ some pw.pwPasswd) :
    checkPassword ctx password auth = sendMsgUserauthFailure ctx.opts false true auth := by
  rw [checkPassword, EStateM.get_bind_apply, account]
  dsimp only
  cases made : ctx.system.crypt (cString password) pw.pwPasswd with
  | none => rfl
  | some testcrypt =>
    dsimp only
    by_cases blank : pw.pwPasswd = []
    · rw [if_pos blank]
    · have differs : testcrypt ≠ pw.pwPasswd := by
        intro same
        rw [made, same] at wrong
        exact wrong rfl
      rw [if_neg blank, if_neg differs]

theorem svrAuthPassword_ended {failure : Exit} (malformed : readPassword payload = .error failure) :
    svrAuthPassword ctx validUser payload auth = .error failure auth := by
  rw [svrAuthPassword, malformed]
  rfl

theorem svrAuthPassword_wrong {offered : Option Bytes} (read : readPassword payload = .ok offered)
    (wrong : validUser → ∃ pw, auth.pw = some pw ∧ ∀ password, offered = some password →
      ctx.system.crypt (cString password) pw.pwPasswd ≠ some pw.pwPasswd) :
    svrAuthPassword ctx validUser payload auth =
      sendMsgUserauthFailure ctx.opts false true auth := by
  rw [svrAuthPassword, read, EStateM.bind_of_ok (fromBuffer_ok _ _)]
  cases offered with
  | none => rfl
  | some password =>
    cases validUser with
    | false => rfl
    | true =>
      simp only [not_true_eq_false, if_false]
      split
      · rfl
      · obtain ⟨pw, account, wrong⟩ := wrong rfl
        exact checkPassword_wrong account (wrong password rfl)

theorem noneRequest_failed
    (nonblank : validUser → ∃ pw, auth.pw = some pw ∧ pw.pwPasswd ≠ []) :
    noneRequest ctx.opts validUser auth = sendMsgUserauthFailure ctx.opts false false auth := by
  rw [noneRequest, EStateM.get_bind_apply]
  have refused : ¬ (validUser ∧ blankAllowed ctx.opts auth) := by
    rintro ⟨valid, blank⟩
    obtain ⟨pw, account, nonblank⟩ := nonblank valid
    rw [blankAllowed, account] at blank
    simp [nonblank] at blank
  rw [if_neg refused]

/-- A request without an accepted credential gets its reply. -/
theorem dispatchMethod_reply {beginning : Nat}
    (fruitless : validUser → ∃ pw, auth.pw = some pw ∧ pw.pwPasswd ≠ [] ∧
      Unaccepted ctx pw methodname payload) :
    dispatchMethod ctx validUser methodname beginning payload auth =
      (reply (passwordAllowed ctx.opts auth) validUser (keyExit ctx auth.pw payload) methodname
        payload).run ctx.opts auth := by
  rw [dispatchMethod, EStateM.get_bind_apply, reply]
  by_cases isNone : methodname = ascii "none"
  · rw [if_pos isNone, if_pos isNone]
    apply noneRequest_failed
    intro valid
    obtain ⟨pw, account, nonblank, _⟩ := fruitless valid
    exact ⟨pw, account, nonblank⟩
  · rw [if_neg isNone, if_neg isNone]
    by_cases isPassword : passwordAllowed ctx.opts auth ∧ methodname = ascii "password"
    · rw [if_pos isPassword, if_pos isPassword]
      cases read : readPassword payload with
      | error failure => exact svrAuthPassword_ended read
      | ok offered =>
        apply svrAuthPassword_wrong read
        intro valid
        obtain ⟨pw, account, _, unaccepted⟩ := fruitless valid
        refine ⟨pw, account, ?_⟩
        rintro password rfl
        exact unaccepted.password isPassword.2 password read
    · rw [if_neg isPassword, if_neg isPassword]
      by_cases isKey : methodname = ascii "publickey"
      · rw [if_pos isKey, if_pos isKey, svrAuthPubkey, keyExit]
        cases read : readKeyRequest payload with
        | error failure => rfl
        | ok fields =>
          obtain ⟨testkey, sigalgo, keyblob, behind⟩ := fields
          rw [EStateM.bind_of_ok (fromBuffer_ok _ _)]
          cases validUser with
          | false => rfl
          | true =>
            cases known : signatureTypeFromName sigalgo with
            | none =>
              simp only [known]
              rfl
            | some sigtype =>
              obtain ⟨pw, account, _, unaccepted⟩ := fruitless rfl
              simp only [known]
              cases looked : lookupKey ctx (signkeyTypeFromSignature sigtype) keyblob auth.pw with
              | error failure => exact checkKey_ended looked
              | ok found =>
                cases found with
                | none => exact checkKey_refused looked
                | some options =>
                  rw [account] at looked
                  exact absurd looked (unaccepted.key isKey _ _ _ _ _ _ read known)
      · rw [if_neg isKey, if_neg isKey]
        rfl

theorem dispatchMethod_unknown {beginning : Nat} :
    dispatchMethod ctx false methodname beginning payload auth =
      (reply (passwordAllowed ctx.opts auth) false (keyExit ctx auth.pw payload) methodname
        payload).run ctx.opts auth :=
  dispatchMethod_reply nofun

end

/-! ## Two servers -/

/-- The same server with another account database. -/
def Context.withAccounts (ctx : Context) (getpwnam : Bytes → Option Passwd) : Context :=
  { ctx with system := { ctx.system with getpwnam := getpwnam } }

/-- Two servers that differ only in the account of `user`: in one it is `pw`, which
is accepted and has a password, and in the other `checkusername` fails. -/
structure Twins (user : Bytes) (pw : Passwd) (valid invalid : Context) : Prop where
  alike : invalid = valid.withAccounts invalid.system.getpwnam
  others : ∀ username, username ≠ user →
    invalid.system.getpwnam username = valid.system.getpwnam username
  account : valid.system.getpwnam user = some pw
  okay : accountOkay valid pw
  nonblank : pw.pwPasswd ≠ []
  unknown : ¬ (invalid.system.getpwnam user).any (accountOkay invalid)

/-- What the client sees: the messages, and when they are delayed. -/
def AuthState.trace (auth : AuthState) : List Event := auth.events.filter (!·.isMark)

/-- The server without the account, once the user is fixed. -/
def AuthState.unknown (auth : AuthState) (account : Option Passwd) (count : Nat) : AuthState :=
  { auth with
    pw := account
    checkusernameFailed := true
    servPubkeyQueryCount := count }

@[simp]
theorem AuthState.failed_unknown (auth : AuthState) (account : Option Passwd) (count : Nat)
    (isPartial incrfail : Bool) :
    (auth.unknown account count).failed isPartial incrfail =
      (auth.failed isPartial incrfail).unknown account count := rfl

@[simp]
theorem AuthState.failcount_unknown (auth : AuthState) (account : Option Passwd) (count : Nat) :
    (auth.unknown account count).failcount = auth.failcount := rfl

/-- `user` is the user of a session that is not authenticated yet, and has the
account `pw`. -/
structure Settled (user : Bytes) (pw : Passwd) (auth : AuthState) : Prop where
  named : auth.username = some user
  account : auth.pw = some pw
  believed : auth.checkusernameFailed = false
  notYet : auth.authdone = false
  short : user.length ≤ maxUsernameLen
  plain : 0 ∉ user

/-- The states of the two servers: the same until `user` is fixed as the user of
the session, and alike but for the account from then on. -/
inductive Related (user : Bytes) (pw : Passwd) (invalid : Context) : AuthState → AuthState → Prop
  | same (auth : AuthState) (other : auth.username ≠ some user)
      (fresh : auth.username = none → auth.checkusernameFailed = false) :
      Related user pw invalid auth auth
  | twin (auth : AuthState) (count : Nat) (settled : Settled user pw auth) :
      Related user pw invalid auth (auth.unknown (invalid.system.getpwnam user) count)

/-- The uid of an account, which is zero where there is none. -/
def accountUid (account : Option Passwd) : Nat := (account.map (·.pwUid)).getD 0

/-- Passwords are taken from only one of the two users: root must not use one, and
an account that does not exist has root's uid. -/
def OneTaken (opts : SvrOpts) (account account' : Option Passwd) : Prop :=
  opts.noauthpass = false ∧ opts.norootpass ∧ ¬ (accountUid account = 0 ↔ accountUid account' = 0)

/-- A request for a key whose signature algorithm is known. -/
def KnownKey (payload : Buffer) : Prop :=
  ∃ testkey sigalgo keyblob behind,
    readKeyRequest payload = .ok (testkey, sigalgo, keyblob, behind) ∧
      (signatureTypeFromName sigalgo).isSome

/-- A method that is answered differently: a second key from a user who exists, a key for
which the look into their file ends the process, or a malformed password where only one of
the users may use one. -/
def RevealingMethod (opts : SvrOpts) (account account' : Option Passwd) (validUser : Bool)
    (exit : Option Exit) (methodname : Bytes) (payload : Buffer) (count : Nat) : Prop :=
  (validUser ∧ methodname = ascii "publickey" ∧ KnownKey payload ∧ (count > 0 ∨ exit.isSome)) ∨
    (methodname = ascii "password" ∧ OneTaken opts account account' ∧
      ∃ failure, readPassword payload = .error failure)

/-- The request is for `user`, and `checkusername` gets to look at the account. -/
def Names (user username : Bytes) (auth : AuthState) : Prop :=
  username = user ∧ user.length ≤ maxUsernameLen ∧ 0 ∉ user ∧
    (auth.username = none ∨ auth.username = some user)

/-- The request has a name that is too long, which `checkusername` refuses without
a look at the user of the session. -/
def Overlong (user username : Bytes) (auth : AuthState) : Prop :=
  username.length > maxUsernameLen ∧ auth.username = some user

/-- A request that tells the two servers apart, by what is known before it: the
request, the accounts, and the state of the server that has the account. -/
def Reveals (user : Bytes) (valid invalid : Context) (request : Nat × Buffer)
    (auth : AuthState) : Prop :=
  auth.authdone = false ∧ ∃ username methodname payload validUser,
    readRequest request.2 = .ok (username, ascii "ssh-connection", methodname, payload) ∧
      ((Names user username auth ∧ validUser = true) ∨
        (Overlong user username auth ∧ validUser = false)) ∧
      RevealingMethod valid.opts (valid.system.getpwnam user) (invalid.system.getpwnam user)
        validUser (keyExit valid (valid.system.getpwnam user) payload) methodname payload
        auth.servPubkeyQueryCount

/-- The credential in a whole request is not the account's. -/
def Fruitless (ctx : Context) (pw : Passwd) (request : Nat × Buffer) : Prop :=
  ∀ username servicename methodname payload,
    readRequest request.2 = .ok (username, servicename, methodname, payload) →
      Unaccepted ctx pw methodname payload

section

variable {user : Bytes} {pw : Passwd} {valid invalid : Context} {auth auth' : AuthState}

theorem Related.trace_eq (related : Related user pw invalid auth auth') :
    auth.trace = auth'.trace := by
  cases related with
  | same => rfl
  | twin => rfl

/-- A failure message looks the same from both servers. -/
theorem sendMsgUserauthFailure_alike (opts : SvrOpts) (incrfail : Bool) (count : Nat)
    (settled : Settled user pw auth) :
    StepsAlike AuthState.trace AuthState.trace (Related user pw invalid)
      (sendMsgUserauthFailure opts false incrfail auth)
      (sendMsgUserauthFailure opts false incrfail
        (auth.unknown (invalid.system.getpwnam user) count)) := by
  rw [sendMsgUserauthFailure_apply, sendMsgUserauthFailure_apply, AuthState.failed_unknown,
    AuthState.failcount_unknown]
  split
  · rfl
  · exact .twin (auth.failed false incrfail) count { settled with }

/-- The first key that is refused gets no delay, and looks like a failure. -/
theorem refuseKey_alike (opts : SvrOpts) (count : Nat) (settled : Settled user pw auth)
    (first : auth.servPubkeyQueryCount = 0) :
    StepsAlike AuthState.trace AuthState.trace (Related user pw invalid)
      (refuseKey opts auth)
      (sendMsgUserauthFailure opts false false
        (auth.unknown (invalid.system.getpwnam user) count)) := by
  have undelayed : decide (auth.servPubkeyQueryCount > 0) = false := by rw [first]; rfl
  rw [refuseKey_apply, sendMsgUserauthFailure_apply, AuthState.failed_unknown,
    AuthState.failcount_unknown, AuthState.keyRefused, undelayed]
  split
  · rfl
  · exact .twin { auth.failed false false with servPubkeyQueryCount := _ } count { settled with }

/-- A later one is delayed. -/
theorem refuseKey_apart (opts : SvrOpts) (account : Option Passwd) (count : Nat)
    (later : auth.servPubkeyQueryCount > 0) :
    visible AuthState.trace (refuseKey opts auth) ≠
      visible AuthState.trace
        (sendMsgUserauthFailure opts false false (auth.unknown account count)) := by
  have delayed : (finalState (refuseKey opts auth)).events = (auth.failed false true).events := by
    rw [refuseKey_apply, AuthState.keyRefused, decide_eq_true later]
    split <;> rfl
  apply visible_ne
  rw [finalState_sendMsgUserauthFailure, AuthState.trace, AuthState.trace, delayed]
  simp [AuthState.failed, AuthState.unknown, Event.isMark]

/-- The end of the process does not look like a failure message. -/
theorem failure_ne_ended (opts : SvrOpts) (incrfail : Bool) (failure : Exit)
    (same : auth.trace = auth'.trace) :
    visible AuthState.trace (EStateM.Result.error failure auth : EStateM.Result Exit _ Unit) ≠
      visible AuthState.trace (sendMsgUserauthFailure opts false incrfail auth') := by
  apply visible_ne
  rw [finalState_sendMsgUserauthFailure, finalState_error, same]
  simp [AuthState.trace, AuthState.failed, Event.isMark]

/-- Whether passwords are taken depends on the account's uid. -/
theorem oneTaken_iff {opts : SvrOpts} :
    OneTaken opts auth.pw auth'.pw ↔
      passwordAllowed opts auth ≠ passwordAllowed opts auth' := by
  change opts.noauthpass = false ∧ opts.norootpass ∧ ¬ (auth.pwUid = 0 ↔ auth'.pwUid = 0) ↔ _
  rw [passwordAllowed, passwordAllowed]
  cases opts.noauthpass <;> cases opts.norootpass <;>
    by_cases root : auth.pwUid = 0 <;> by_cases root' : auth'.pwUid = 0 <;> simp [root, root']

section

variable {opts : SvrOpts} {validUser : Bool} {exit exit' : Option Exit} {methodname : Bytes}
  {payload : Buffer} {count : Nat}

/-- A method that is not a revealing one gets the same reply from both servers. -/
theorem reply_alike (settled : Settled user pw auth)
    (silent : ¬ RevealingMethod opts (some pw) (invalid.system.getpwnam user) validUser exit
      methodname payload auth.servPubkeyQueryCount) :
    StepsAlike AuthState.trace AuthState.trace (Related user pw invalid)
      ((reply (passwordAllowed opts auth) validUser exit methodname payload).run opts auth)
      ((reply (passwordAllowed opts (auth.unknown (invalid.system.getpwnam user) count)) false
        exit' methodname payload).run opts (auth.unknown (invalid.system.getpwnam user) count)) := by
  by_cases isPassword : methodname = ascii "password"
  · subst isPassword
    rw [reply_password, reply_password]
    cases read : readPassword payload with
    | ok offered =>
      rw [ite_self, ite_self]
      exact sendMsgUserauthFailure_alike opts true count settled
    | error failure =>
      have same : passwordAllowed opts auth =
          passwordAllowed opts (auth.unknown (invalid.system.getpwnam user) count) := by
        by_contra differ
        have taken := oneTaken_iff.2 differ
        rw [settled.account] at taken
        exact silent (.inr ⟨rfl, taken, failure, read⟩)
      rw [← same]
      split
      · rfl
      · exact sendMsgUserauthFailure_alike opts true count settled
  · by_cases isKey : methodname = ascii "publickey"
    · subst isKey
      rw [reply_publickey, reply_publickey]
      cases read : readKeyRequest payload with
      | error failure => rfl
      | ok fields =>
        obtain ⟨testkey, sigalgo, keyblob, behind⟩ := fields
        have never : ¬ (false = true ∧ (signatureTypeFromName sigalgo).isSome) := nofun
        dsimp only
        rw [if_neg never]
        split
        · rename_i known
          have key : KnownKey payload := ⟨testkey, sigalgo, keyblob, behind, read, known.2⟩
          cases exit with
          | some failure => exact absurd (.inl ⟨known.1, rfl, key, .inr rfl⟩) silent
          | none =>
            refine refuseKey_alike opts count settled (Nat.eq_zero_of_not_pos fun later => ?_)
            exact silent (.inl ⟨known.1, rfl, key, .inl later⟩)
        · exact sendMsgUserauthFailure_alike opts false count settled
    · rw [reply_other isPassword isKey, reply_other isPassword isKey]
      exact sendMsgUserauthFailure_alike opts _ count settled

/-- A revealing method gets different replies. -/
theorem reply_apart (settled : Settled user pw auth)
    (revealing : RevealingMethod opts (some pw) (invalid.system.getpwnam user) validUser exit
      methodname payload auth.servPubkeyQueryCount) :
    visible AuthState.trace
        ((reply (passwordAllowed opts auth) validUser exit methodname payload).run opts auth) ≠
      visible AuthState.trace
        ((reply (passwordAllowed opts (auth.unknown (invalid.system.getpwnam user) count)) false
          exit' methodname payload).run opts (auth.unknown (invalid.system.getpwnam user) count)) := by
  rcases revealing with ⟨isValid, rfl, known, shows⟩ | ⟨rfl, taken, failure, malformed⟩
  · obtain ⟨testkey, sigalgo, keyblob, behind, read, known⟩ := known
    rw [reply_publickey, reply_publickey, read]
    have never : ¬ (false = true ∧ (signatureTypeFromName sigalgo).isSome) := nofun
    dsimp only
    rw [if_pos ⟨isValid, known⟩, if_neg never]
    cases exit with
    | some failure => exact failure_ne_ended opts false failure rfl
    | none => exact refuseKey_apart opts _ count (shows.resolve_right Bool.false_ne_true)
  · rw [← settled.account] at taken
    have differ : passwordAllowed opts auth ≠
        passwordAllowed opts (auth.unknown (invalid.system.getpwnam user) count) :=
      oneTaken_iff.1 taken
    rw [reply_password, reply_password, malformed]
    cases allowed : passwordAllowed opts auth with
    | true =>
      have refused : passwordAllowed opts
          (auth.unknown (invalid.system.getpwnam user) count) = false := by
        rw [allowed] at differ
        exact Bool.eq_false_iff.2 differ.symm
      rw [refused]
      exact failure_ne_ended opts true failure rfl
    | false =>
      have accepted : passwordAllowed opts
          (auth.unknown (invalid.system.getpwnam user) count) = true := by
        rw [allowed] at differ
        exact Bool.not_eq_false _ |>.mp differ.symm
      rw [accepted]
      exact (failure_ne_ended opts true failure rfl).symm

end

/-! ## One request -/

/-- The accounts are only looked at to enter the user. -/
theorem Twins.dispatchMethod_eq (twins : Twins user pw valid invalid) (validUser : Bool)
    (methodname : Bytes) (beginning : Nat) (payload : Buffer) :
    dispatchMethod invalid validUser methodname beginning payload =
      dispatchMethod valid validUser methodname beginning payload := by
  rw [twins.alike]
  rfl

theorem Twins.checkAccount_eq (twins : Twins user pw valid invalid) :
    checkAccount invalid = checkAccount valid := by
  rw [twins.alike]
  rfl

theorem Twins.opts_eq (twins : Twins user pw valid invalid) : invalid.opts = valid.opts := by
  rw [twins.alike]
  rfl

/-- How `checkusername` goes on the two servers. -/
inductive Checked (user : Bytes) (pw : Passwd) (valid invalid : Context) (username : Bytes)
    (auth auth' : AuthState) : Prop
  /-- Both end. -/
  | ended (failure : Exit) (ran : checkusername valid username auth = .error failure auth)
      (ran' : checkusername invalid username auth' = .error failure auth')
      (unnamed : ¬ Names user username auth) (short : ¬ Overlong user username auth)
  /-- Another user, or none yet. -/
  | same (validUser : Bool) (after : AuthState)
      (ran : checkusername valid username auth = .ok validUser after)
      (ran' : checkusername invalid username auth' = .ok validUser after)
      (other : after.username ≠ some user)
      (fresh : after.username = none → after.checkusernameFailed = false)
      (unnamed : ¬ Names user username auth) (short : ¬ Overlong user username auth)
  /-- The user whose account only one of them has. -/
  | settled (validUser : Bool) (after : AuthState) (count : Nat)
      (ran : checkusername valid username auth = .ok validUser after)
      (ran' : checkusername invalid username auth' =
        .ok false (after.unknown (invalid.system.getpwnam user) count))
      (settled : Settled user pw after)
      (counted : after.servPubkeyQueryCount = auth.servPubkeyQueryCount)
      (named : (Names user username auth ∧ validUser = true) ∨
        (Overlong user username auth ∧ validUser = false))

theorem names_unless {username : Bytes} {fixed : Bytes} (entered : auth.username = some fixed)
    (other : fixed ≠ user) : ¬ Names user username auth := by
  rintro ⟨_, _, _, nobody | named⟩
  · rw [entered] at nobody
    cases nobody
  · rw [entered] at named
    exact other (Option.some.inj named)

/-- As long as another user, or nobody, is the user of the session. -/
theorem checkusername_same (twins : Twins user pw valid invalid) (username : Bytes)
    (other : auth.username ≠ some user)
    (fresh : auth.username = none → auth.checkusernameFailed = false)
    (notYet : auth.authdone = false) :
    Checked user pw valid invalid username auth auth := by
  have unsettled : ¬ Overlong user username auth := fun overlong => other overlong.2
  by_cases long : username.length > maxUsernameLen
  · refine .same false auth (checkusername_long long) (checkusername_long long) other fresh ?_
      unsettled
    rintro ⟨rfl, short, _⟩
    exact absurd long (Nat.not_lt.2 short)
  · have short := Nat.le_of_not_lt long
    by_cases null : 0 ∈ username
    · refine .ended _ (checkusername_null short null) (checkusername_null short null) ?_ unsettled
      rintro ⟨rfl, _, plain, _⟩
      exact plain null
    · cases fixed : auth.username with
      | some name =>
        have stranger : name ≠ user := by
          rintro rfl
          exact other fixed
        have unnamed : ¬ Names user username auth := names_unless fixed stranger
        by_cases changed : username ≠ name
        · exact .ended _ (checkusername_changed short null fixed changed)
            (checkusername_changed short null fixed changed) unnamed unsettled
        · obtain rfl := not_not.1 changed
          obtain ⟨validUser, after, ran, others, _⟩ := checkAccount_spec valid short null fixed
          have kept : after.username = some username := by
            rw [others]
            exact fixed
          refine .same validUser after ?_ ?_ ?_ ?_ unnamed unsettled
          · rw [checkusername_again short null fixed, ran]
          · rw [checkusername_again short null fixed, twins.checkAccount_eq, ran]
          · rw [kept]
            exact fun same => stranger (Option.some.inj same)
          · rw [kept]
            nofun
      | none =>
        by_cases isUser : username = user
        · subst isUser
          have believed : checkAccount valid (auth.entered valid username) =
              .ok true (auth.entered valid username) := by
            rw [checkAccount_apply]
            simp [AuthState.entered, fresh fixed, twins.account, twins.okay]
          have refused : checkAccount invalid (auth.entered invalid username) =
              .ok false { auth.entered invalid username with checkusernameFailed := true } := by
            have unknown : ¬ (auth.entered invalid username).pw.any (accountOkay invalid) :=
              twins.unknown
            have unfailed : ¬ (auth.entered invalid username).checkusernameFailed := by
              simp [AuthState.entered, fresh fixed]
            rw [checkAccount_apply, if_neg unfailed, if_neg unknown]
          refine .settled true (auth.entered valid username) auth.servPubkeyQueryCount ?_ ?_ ?_
            rfl (.inl ⟨⟨rfl, short, null, .inl fixed⟩, rfl⟩)
          · rw [checkusername_first short null fixed, believed]
          · rw [checkusername_first short null fixed, refused]
            rfl
          · exact ⟨rfl, twins.account, fresh fixed, notYet, short, null⟩
        · obtain ⟨validUser, after, ran, others, _⟩ := checkAccount_spec valid short null
            (rfl : (auth.entered valid username).username = _)
          have kept : after.username = some username := by
            rw [others]
            rfl
          refine .same validUser after ?_ ?_ ?_ ?_ (fun named => isUser named.1) unsettled
          · rw [checkusername_first short null fixed, ran]
          · rw [checkusername_first short null fixed, twins.checkAccount_eq, AuthState.entered,
              twins.others username isUser]
            exact ran
          · rw [kept]
            exact fun same => isUser (Option.some.inj same)
          · rw [kept]
            nofun

/-- Once the user is settled. -/
theorem checkusername_settled (twins : Twins user pw valid invalid) (username : Bytes)
    (settled : Settled user pw auth) (count : Nat) :
    Checked user pw valid invalid username auth
      (auth.unknown (invalid.system.getpwnam user) count) := by
  by_cases long : username.length > maxUsernameLen
  · exact .settled false auth count (checkusername_long long) (checkusername_long long) settled rfl
      (.inr ⟨⟨long, settled.named⟩, rfl⟩)
  · have short := Nat.le_of_not_lt long
    have unsettled : ¬ Overlong user username auth := fun overlong => long overlong.1
    by_cases null : 0 ∈ username
    · refine .ended _ (checkusername_null short null) (checkusername_null short null) ?_ unsettled
      rintro ⟨rfl, _, plain, _⟩
      exact plain null
    · by_cases changed : username ≠ user
      · exact .ended _ (checkusername_changed short null settled.named changed)
          (checkusername_changed short null settled.named changed) (fun named => changed named.1)
          unsettled
      · obtain rfl := not_not.1 changed
        refine .settled true auth count ?_ ?_ settled rfl
          (.inl ⟨⟨rfl, short, null, .inr settled.named⟩, rfl⟩)
        · rw [checkusername_again short null settled.named, checkAccount_apply]
          simp [settled.believed, settled.account, twins.okay]
        · have named : (auth.unknown (invalid.system.getpwnam username) count).username =
              some username := settled.named
          rw [checkusername_again short null named, checkAccount_apply]
          rfl

/-- The banner changes nothing that `checkusername` looks at. -/
theorem exists_bannered (auth : AuthState) :
    ∃ events, auth.bannered = { auth with banner := none, events := events } := by
  obtain ⟨_, _, _, _, _, _, _, _, banner, _, _⟩ := auth
  cases banner with
  | none => exact ⟨_, rfl⟩
  | some banner => exact ⟨_, rfl⟩

theorem bannered_unknown (auth : AuthState) (account : Option Passwd) (count : Nat) :
    (auth.unknown account count).bannered = auth.bannered.unknown account count := by
  obtain ⟨_, _, _, _, _, _, _, _, banner, _, _⟩ := auth
  cases banner with
  | none => rfl
  | some banner => rfl

theorem checkusername_checked (twins : Twins user pw valid invalid) (username : Bytes)
    (related : Related user pw invalid auth auth') (notYet : auth.authdone = false) :
    Checked user pw valid invalid username auth.bannered auth'.bannered := by
  cases related with
  | same other fresh =>
    obtain ⟨events, same⟩ := exists_bannered auth
    rw [same]
    exact checkusername_same twins username other fresh notYet
  | twin count settled =>
    rw [bannered_unknown]
    obtain ⟨events, same⟩ := exists_bannered auth
    rw [same]
    refine checkusername_settled twins username ?_ count
    exact { settled with }

/-- The names in a request mean the same before and after the banner. -/
theorem reveals_iff (request : Nat × Buffer) {username methodname : Bytes} {payload : Buffer}
    (notYet : auth.authdone = false)
    (fields : readRequest request.2 = .ok (username, ascii "ssh-connection", methodname, payload)) :
    Reveals user valid invalid request auth ↔ ∃ validUser,
      ((Names user username auth.bannered ∧ validUser = true) ∨
        (Overlong user username auth.bannered ∧ validUser = false)) ∧
      RevealingMethod valid.opts (valid.system.getpwnam user) (invalid.system.getpwnam user)
        validUser (keyExit valid (valid.system.getpwnam user) payload) methodname payload
        auth.bannered.servPubkeyQueryCount := by
  obtain ⟨events, same⟩ := exists_bannered auth
  rw [same]
  constructor
  · rintro ⟨_, username', methodname', payload', validUser, fields', named, revealing⟩
    cases fields.symm.trans fields'
    exact ⟨validUser, named, revealing⟩
  · rintro ⟨validUser, named, revealing⟩
    exact ⟨notYet, username, methodname, payload, validUser, fields, named, revealing⟩

section

variable {request : Nat × Buffer}

/-- A request that reveals nothing is answered alike. -/
theorem handle_alike (twins : Twins user pw valid invalid) (fruitless : Fruitless valid pw request)
    (related : Related user pw invalid auth auth')
    (silent : ¬ Reveals user valid invalid request auth) :
    StepsAlike AuthState.trace AuthState.trace (Related user pw invalid)
      (handle valid request auth) (handle invalid request auth') := by
  have done_eq : auth'.authdone = auth.authdone := by
    cases related with
    | same => rfl
    | twin => rfl
  cases done : auth.authdone with
  | true =>
    rw [handle, handle, recvMsgUserauthRequest, recvMsgUserauthRequest, userauthRequest_done done,
      userauthRequest_done (done_eq.trans done)]
    exact related
  | false =>
    have shown : auth.bannered.trace = auth'.bannered.trace := by
      cases related with
      | same => rfl
      | twin =>
        rw [bannered_unknown]
        rfl
    rw [handle, handle, recvMsgUserauthRequest, recvMsgUserauthRequest, userauthRequest_apply done,
      userauthRequest_apply (done_eq.trans done)]
    cases fields : readRequest request.2 with
    | error failure => exact shown
    | ok read =>
      obtain ⟨username, servicename, methodname, payload⟩ := read
      dsimp only
      by_cases wrong : servicename ≠ ascii "ssh-connection"
      · rw [if_pos wrong, if_pos wrong]
        exact shown
      · rw [if_neg wrong, if_neg wrong]
        obtain rfl := not_not.1 wrong
        cases checkusername_checked twins username related done with
        | ended failure ran ran' =>
          rw [EStateM.bind_of_error ran, EStateM.bind_of_error ran']
          exact shown
        | same validUser after ran ran' other fresh =>
          rw [EStateM.bind_of_ok ran, EStateM.bind_of_ok ran', twins.dispatchMethod_eq]
          have answer : Answer valid validUser request.1 payload after _ _ :=
            dispatchMethod_answer methodname
          obtain ⟨username_eq, _, failed_eq⟩ := answer.user_kept
          apply stepsAlike_self
          refine .same _ ?_ ?_
          · rw [username_eq]
            exact other
          · rw [username_eq, failed_eq]
            exact fresh
        | settled validUser after count ran ran' settled counted named =>
          have unaccepted := fruitless _ _ _ _ fields
          rw [EStateM.bind_of_ok ran, EStateM.bind_of_ok ran',
            dispatchMethod_reply
              (fun _ => ⟨pw, settled.account, twins.nonblank, unaccepted⟩),
            dispatchMethod_unknown, twins.opts_eq]
          apply reply_alike settled
          intro revealing
          rw [settled.account, ← twins.account, counted] at revealing
          exact silent ((reveals_iff request done fields).2 ⟨validUser, named, revealing⟩)

/-- A revealing request is answered differently. -/
theorem handle_apart (twins : Twins user pw valid invalid) (fruitless : Fruitless valid pw request)
    (related : Related user pw invalid auth auth')
    (reveals : Reveals user valid invalid request auth) :
    visible AuthState.trace (handle valid request auth) ≠
      visible AuthState.trace (handle invalid request auth') := by
  have ⟨notYet, username, methodname, payload, _, fields, _⟩ := reveals
  obtain ⟨validUser, named, revealing⟩ := (reveals_iff request notYet fields).1 reveals
  have notYet' : auth'.authdone = false := by
    cases related with
    | same => exact notYet
    | twin => exact notYet
  rw [handle, handle, recvMsgUserauthRequest, recvMsgUserauthRequest, userauthRequest_apply notYet,
    userauthRequest_apply notYet', fields]
  dsimp only
  rw [if_neg (not_not.2 rfl), if_neg (not_not.2 rfl)]
  cases checkusername_checked twins username related notYet with
  | ended failure ran ran' unnamed short =>
    rcases named with ⟨named, _⟩ | ⟨overlong, _⟩
    · exact absurd named unnamed
    · exact absurd overlong short
  | same validUser' after ran ran' other fresh unnamed short =>
    rcases named with ⟨named, _⟩ | ⟨overlong, _⟩
    · exact absurd named unnamed
    · exact absurd overlong short
  | settled validUser' after count ran ran' settled counted named' =>
    have same : validUser' = validUser := by
      rcases named with ⟨named, rfl⟩ | ⟨overlong, rfl⟩
      · rcases named' with ⟨_, rfl⟩ | ⟨overlong, _⟩
        · rfl
        · obtain ⟨rfl, short, _⟩ := named
          exact absurd overlong.1 (Nat.not_lt.2 short)
      · rcases named' with ⟨named, _⟩ | ⟨_, rfl⟩
        · obtain ⟨rfl, short, _⟩ := named
          exact absurd overlong.1 (Nat.not_lt.2 short)
        · rfl
    subst same
    have unaccepted := fruitless _ _ _ _ fields
    rw [EStateM.bind_of_ok ran, EStateM.bind_of_ok ran',
      dispatchMethod_reply (fun _ => ⟨pw, settled.account, twins.nonblank, unaccepted⟩),
      dispatchMethod_unknown, twins.opts_eq]
    apply reply_apart settled
    rw [settled.account, ← twins.account, counted]
    exact revealing

end

/-! ## Whole sessions -/

/-- **The client sees the same of both servers, after every request, if and only if
no request of the session is a revealing one.** -/
theorem sameTrace_iff_unrevealing (twins : Twins user pw valid invalid) (banner : Option Bytes)
    {requests : List (Nat × Buffer)}
    (fruitless : ∀ request ∈ requests, Fruitless valid pw request) :
    (∀ n,
      visible AuthState.trace
          (runAll (handle valid) (requests.take n) (svrAuthinitialise valid.opts banner)) =
        visible AuthState.trace
          (runAll (handle invalid) (requests.take n) (svrAuthinitialise invalid.opts banner))) ↔
      AllMeet (handle valid) (fun request auth => ¬ Reveals user valid invalid request auth)
        requests (svrAuthinitialise valid.opts banner) := by
  rw [twins.opts_eq]
  refine runAll_visible_iff (Related user pw invalid) _
    (fun _ _ related => related.trace_eq) ?_ ?_ (.same _ nofun fun _ => rfl)
  · intro request offered auth auth' related silent
    exact handle_alike twins (fruitless request offered) related silent
  · intro request offered auth auth' related revealing
    exact handle_apart twins (fruitless request offered) related (not_not.1 revealing)

end

/-! ## Asking for a key

A client that asks for a key of its own is not delayed.  If it asks again, it is
delayed exactly if the user exists. -/

def existing : Passwd := userAccount (ascii "!")

/-- A server whose only user may have an account, without a password or a key that
would be accepted. -/
def lockedContext (account : Option Passwd) : Context :=
  plainContext fun username => if username = ascii "user" then account else none

theorem lockedContext_twins :
    Twins (ascii "user") existing (lockedContext (some existing)) (lockedContext none) where
  alike := rfl
  others username other := by simp [lockedContext, plainContext, other]
  account := rfl
  okay := by decide
  nonblank := by decide
  unknown := nofun

theorem lockedContext_fruitless (request : Nat × Buffer) :
    Fruitless (lockedContext (some existing)) existing request := by
  intro username servicename methodname payload _
  constructor
  · intro _ password _
    nofun
  · intro _ testkey sigalgo keyblob behind sigtype options _ _
    nofun

theorem keyExit_lockedContext (payload : Buffer) :
    keyExit (lockedContext (some existing)) (some existing) payload = none := by
  rw [keyExit]
  split
  · rfl
  · split <;> rfl

/-- A query whether a key would be accepted. -/
def keyQuery : Nat × Buffer where
  fst := 0
  snd := requestPayload (ascii "user") (ascii "publickey")
    (0 :: wireString (ascii "ssh-ed25519") ++ wireString [1]) (by decide)

/-- One query reveals nothing. -/
theorem sameTrace_one_query :
    Twins (ascii "user") existing (lockedContext (some existing)) (lockedContext none) ∧
      Fruitless (lockedContext (some existing)) existing keyQuery ∧
        visible AuthState.trace (runAll (handle (lockedContext (some existing))) [keyQuery]
            (svrAuthinitialise (lockedContext (some existing)).opts none)) =
          visible AuthState.trace (runAll (handle (lockedContext none)) [keyQuery]
            (svrAuthinitialise (lockedContext none).opts none)) := by
  have fruitless : ∀ request ∈ [keyQuery],
      Fruitless (lockedContext (some existing)) existing request :=
    fun request _ => lockedContext_fruitless request
  refine ⟨lockedContext_twins, lockedContext_fruitless keyQuery, ?_⟩
  apply (sameTrace_iff_unrevealing lockedContext_twins none fruitless).2 _ 1
  refine ⟨?_, fun _ _ => trivial⟩
  rintro ⟨_, _, _, _, _, _, _, revealing⟩
  rcases revealing with ⟨_, _, _, later | ended⟩ | ⟨_, taken, _⟩
  · exact absurd later (by decide)
  · rw [lockedContext_twins.account, keyExit_lockedContext] at ended
    cases ended
  · exact absurd taken.2.1 (by decide)

/-- The second query does. -/
theorem trace_differs_two_queries :
    Twins (ascii "user") existing (lockedContext (some existing)) (lockedContext none) ∧
      (∀ request ∈ [keyQuery, keyQuery],
        Fruitless (lockedContext (some existing)) existing request) ∧
        visible AuthState.trace
            (runAll (handle (lockedContext (some existing))) [keyQuery, keyQuery]
              (svrAuthinitialise (lockedContext (some existing)).opts none)) ≠
          visible AuthState.trace (runAll (handle (lockedContext none)) [keyQuery, keyQuery]
            (svrAuthinitialise (lockedContext none).opts none)) := by
  refine ⟨lockedContext_twins, fun request _ => lockedContext_fruitless request, ?_⟩
  decide +kernel

end Dropbear.Auth
