/-
# The number of attempts

Failures are counted, and the session ends with the failure that exceeds `maxauthtries`.
So at most `maxauthtries` wrong passwords are answered.  But one more is checked: a session
in which `maxauthtries` failures have been counted goes on, and the next password is
compared, and accepted if it is right.  Without a credential none is let in.
-/

import Dropbear.Auth.Enumeration
import Dropbear.Auth.Factors
import Dropbear.Auth.OptionsText
import Dropbear.Auth.Replies

namespace Dropbear.Auth

open Program

/-! ## Counting -/

/-- The account and the password that a request leads to a comparison of, if any. -/
def checkedPassword (ctx : Context) (request : Nat × Buffer) (auth : AuthState) :
    Option (Passwd × Bytes) :=
  if auth.authdone then none
  else
    match readRequest request.2 with
    | .error _ => none
    | .ok (username, servicename, methodname, payload) =>
      if servicename ≠ ascii "ssh-connection" then none
      else
        match checkusername ctx username auth.bannered with
        | .error _ _ => none
        | .ok validUser checked =>
          if validUser ∧ passwordAllowed ctx.opts checked ∧ methodname = ascii "password" then
            match checked.pw, readPassword payload with
            | some pw, .ok (some password) =>
              if password.length > dropbearMaxPasswordLen then none
              else some (pw, password)
            | _, _ => none
          else none

/-- The password is not that of the account. -/
def wrongPassword (ctx : Context) (pw : Passwd) (password : Bytes) : Bool :=
  pw.pwPasswd = [] || ctx.system.crypt (cString password) pw.pwPasswd ≠ some pw.pwPasswd

/-- A wrong password is compared. -/
def guessesWrong (ctx : Context) (request : Nat × Buffer) (auth : AuthState) : Bool :=
  (checkedPassword ctx request auth).any fun checked => wrongPassword ctx checked.1 checked.2

/-- The number of wrong passwords that are answered without ending the session. -/
def wrongAnswered (ctx : Context) : List (Nat × Buffer) → AuthState → Nat
  | [], _ => 0
  | request :: rest, auth =>
    match handle ctx request auth with
    | .ok _ after => (guessesWrong ctx request auth).toNat + wrongAnswered ctx rest after
    | .error _ _ => 0

/-- At most `maxauthtries` wrong passwords are answered, and none is compared once so many
failures have been counted. -/
structure AttemptsLimited (ctx : Context) (banner : Option Bytes) : Prop where
  answered : ∀ requests,
    wrongAnswered ctx requests (svrAuthinitialise ctx.opts banner) ≤ ctx.opts.maxauthtries
  unchecked : ∀ requests auth,
    runAll (handle ctx) requests (svrAuthinitialise ctx.opts banner) = .ok () auth →
      ctx.opts.maxauthtries ≤ auth.failcount → ∀ request, checkedPassword ctx request auth = none

/-- No account that passes `checkusername` may use a password. -/
def NoPasswordUser (ctx : Context) : Prop :=
  ∀ username pw, username.length ≤ maxUsernameLen → 0 ∉ username →
    ctx.system.getpwnam username = some pw → accountOkay ctx pw →
      ctx.opts.noauthpass ∨ (ctx.opts.norootpass ∧ pw.pwUid = 0)

section

variable {ctx : Context} {auth auth' : AuthState} {request : Nat × Buffer}

theorem svrAuthPassword_of_presented {payload : Buffer} {password : Bytes}
    (presented : readPassword payload = .ok (some password))
    (short : ¬ password.length > dropbearMaxPasswordLen) :
    svrAuthPassword ctx true payload auth = checkPassword ctx password auth := by
  rw [svrAuthPassword, presented, EStateM.bind_of_ok (fromBuffer_ok _ _)]
  dsimp only
  rw [if_neg (not_not.2 rfl), if_neg short]

variable {pw : Passwd}

/-- The comparison is where the request ends. -/
theorem handle_of_checkedPassword {password : Bytes}
    (checks : checkedPassword ctx request auth = some (pw, password)) :
    ∃ checked, Prepared auth checked ∧ checked.pw = some pw ∧
      handle ctx request auth = checkPassword ctx password checked := by
  rw [checkedPassword] at checks
  split at checks
  · cases checks
  case _ notDone =>
    have notYet := Bool.eq_false_iff.2 notDone
    split at checks
    · cases checks
    case _ username servicename methodname payload read =>
      split at checks
      · cases checks
      case _ service =>
        split at checks
        · cases checks
        case _ validUser checked ran =>
          split at checks
          case _ meets =>
            obtain ⟨valid, allowed, isPassword⟩ := meets
            split at checks
            case _ pw' password' account presented =>
              split at checks
              · cases checks
              case _ short =>
                cases checks
                refine ⟨checked, prepared_of_checkusername ran, account, ?_⟩
                rw [handle, recvMsgUserauthRequest, userauthRequest_apply notYet, read]
                dsimp only
                rw [if_neg service, EStateM.bind_of_ok ran, dispatchMethod,
                  EStateM.get_bind_apply, isPassword, if_neg (by decide),
                  if_pos ⟨allowed, rfl⟩, valid,
                  svrAuthPassword_of_presented presented short]
            · cases checks
          · cases checks

theorem replied_handle (notYet : auth.authdone = false) :
    Replied ctx.opts auth (handle ctx request auth) := by
  -- the library is not used in the default build, so what it would do is of no account
  have replied : Replied ctx.opts auth (recvBuilt defaultBuild ctx
      ⟨request.1, request.2, ⟨0, 0, 0, ⟨[], 0⟩, ⟨[], 0⟩⟩⟩ auth) :=
    replied_recvBuilt notYet nofun
  rwa [recvBuilt_defaultBuild] at replied

/-- A reply counts at most one failure, and not more than are allowed. -/
theorem Replied.failcount {result : EStateM.Result Exit AuthState Unit}
    (replied : Replied ctx.opts auth result) :
    Ends (fun _ auth' => auth'.failcount = auth.failcount ∨
      (auth'.failcount = u32 (auth.failcount + 1) ∧ auth'.failcount ≤ ctx.opts.maxauthtries))
      (fun _ _ => True) result := by
  induction replied with
  | ended failure after => trivial
  | @failed middle prepared isPartial incrfail =>
    rw [sendMsgUserauthFailure_apply]
    split
    · trivial
    case _ few =>
      cases incrfail with
      | false => exact .inl prepared.failcount
      | true =>
        rw [← prepared.failcount]
        exact .inr ⟨rfl, Nat.le_of_not_lt few⟩
  | @refused middle prepared =>
    rw [refuseKey_apply]
    split
    · trivial
    case _ few =>
      rw [← prepared.failcount]
      cases counted : decide (middle.servPubkeyQueryCount > 0) with
      | false => exact .inl (by rw [AuthState.keyRefused, counted]; rfl)
      | true =>
        rw [counted] at few
        exact .inr ⟨by rw [AuthState.keyRefused, counted]; rfl,
          Nat.le_of_not_lt (by rw [AuthState.keyRefused, counted]; exact few)⟩
  | succeeded prepared => exact .inl prepared.failcount
  | pkOk prepared sigalgo keyblob => exact .inl prepared.failcount
  | cleaned _ ih => exact ih

/-- A wrong password is counted. -/
theorem failcount_of_guessesWrong (guesses : guessesWrong ctx request auth)
    (ran : handle ctx request auth = .ok () auth') :
    auth'.failcount = u32 (auth.failcount + 1) := by
  obtain ⟨⟨pw, password⟩, checks, wrong⟩ := (Option.any_eq_true _ _).1 guesses
  obtain ⟨checked, prepared, account, ends⟩ := handle_of_checkedPassword checks
  have failed : checkPassword ctx password checked =
      sendMsgUserauthFailure ctx.opts false true checked := by
    rw [checkPassword, EStateM.get_bind_apply, account]
    dsimp only at wrong ⊢
    rw [wrongPassword, Bool.or_eq_true, decide_eq_true_iff, decide_eq_true_iff] at wrong
    cases hashed : ctx.system.crypt (cString password) pw.pwPasswd with
    | none => rfl
    | some testcrypt =>
      dsimp only
      split
      · rfl
      case _ something =>
        rw [if_neg]
        rintro rfl
        exact (wrong.resolve_left something) hashed
  rw [ends, failed, sendMsgUserauthFailure_apply] at ran
  split at ran
  · cases ran
  · cases ran
    rw [← prepared.failcount]
    rfl

/-- What one request that does not end the session does to the count. -/
theorem failcount_handle (below : ctx.opts.maxauthtries < uintMax)
    (few : auth.failcount ≤ ctx.opts.maxauthtries)
    (ran : handle ctx request auth = .ok () auth') :
    (guessesWrong ctx request auth).toNat + auth.failcount ≤ auth'.failcount ∧
      auth'.failcount ≤ ctx.opts.maxauthtries := by
  have exact : u32 (auth.failcount + 1) = auth.failcount + 1 := by
    rw [uintMax] at below
    exact u32_of_lt (by omega)
  cases done : auth.authdone with
  | true =>
    rw [handle, recvMsgUserauthRequest, userauthRequest_done done] at ran
    cases ran
    rw [guessesWrong, checkedPassword, if_pos done]
    exact ⟨Nat.le_of_eq (Nat.zero_add _), few⟩
  | false =>
    have replied : Replied ctx.opts auth (handle ctx request auth) := replied_handle done
    have counted := replied.failcount
    rw [ran] at counted
    cases guesses : guessesWrong ctx request auth with
    | true =>
      have wrong := failcount_of_guessesWrong guesses ran
      rw [exact] at wrong
      rcases counted with same | ⟨_, few'⟩
      · omega
      · rw [Bool.toNat_true]
        omega
    | false =>
      rw [Bool.toNat_false]
      rcases counted with same | ⟨more, few'⟩
      · omega
      · omega

/-- The wrong passwords that are still answered fit in what is left of the limit. -/
theorem wrongAnswered_add_le (below : ctx.opts.maxauthtries < uintMax)
    (requests : List (Nat × Buffer)) (few : auth.failcount ≤ ctx.opts.maxauthtries) :
    wrongAnswered ctx requests auth + auth.failcount ≤ ctx.opts.maxauthtries := by
  induction requests generalizing auth with
  | nil =>
    rw [wrongAnswered]
    omega
  | cons request rest ih =>
    rw [wrongAnswered]
    cases ran : handle ctx request auth with
    | error failure after =>
      dsimp only
      omega
    | ok value after =>
      dsimp only
      obtain ⟨counted, few'⟩ := failcount_handle below few ran
      have := ih few'
      omega

/-! ## Reaching the limit -/

theorem small_passwordPayload {username tail : Bytes} (short : username.length ≤ maxUsernameLen)
    (short' : tail.length ≤ 100) :
    username.length + (ascii "password").length + tail.length ≤ 1000 := by
  have : (ascii "password").length = 8 := by decide
  rw [maxUsernameLen] at short
  omega

/-- A password request of a user, with what follows the name of the method. -/
def passwordPayload (username tail : Bytes) (short : username.length ≤ maxUsernameLen)
    (short' : tail.length ≤ 100) : Buffer :=
  requestPayload username (ascii "password") tail (small_passwordPayload short short')

theorem readRequest_passwordPayload {username tail : Bytes}
    (short : username.length ≤ maxUsernameLen) (short' : tail.length ≤ 100) :
    ∃ behind, readRequest (passwordPayload username tail short short') =
        .ok (username, ascii "ssh-connection", ascii "password", behind) ∧ behind.rest = tail :=
  readRequest_requestPayload (small_passwordPayload short short')

theorem bufGetbool_of_rest {buf : Buffer} {c : UInt8} {tail : Bytes} (rest : buf.rest = c :: tail) :
    bufGetbool buf = .ok (c != 0, buf.skip 1) := by
  rw [bufGetbool, bufGetbyte_of_rest rest]
  rfl

/-- The account of the user may be entered, and `n` failures have been counted. -/
structure Waiting (username : Bytes) (pw : Passwd) (n : Nat) (auth : AuthState) : Prop where
  notYet : auth.authdone = false
  failcount : auth.failcount = n
  unfailed : auth.checkusernameFailed = false
  user : auth.username = none ∨ (auth.username = some username ∧ auth.pw = some pw)

theorem Waiting.bannered {username : Bytes} {n : Nat} (waiting : Waiting username pw n auth) :
    Waiting username pw n auth.bannered := by
  rw [AuthState.bannered]
  cases auth.banner with
  | none => exact waiting
  | some banner => exact ⟨waiting.notYet, waiting.failcount, waiting.unfailed, waiting.user⟩

/-- Checking the user enters the account, if that has not been done. -/
theorem Waiting.checkusername {username : Bytes} {n : Nat} (waiting : Waiting username pw n auth)
    (short : username.length ≤ maxUsernameLen) (plain : 0 ∉ username)
    (known : ctx.system.getpwnam username = some pw) (okay : accountOkay ctx pw) :
    ∃ checked, checkusername ctx username auth = .ok true checked ∧ checked.pw = some pw ∧
      Waiting username pw n checked := by
  rcases waiting.user with nobody | ⟨entered, account⟩
  · refine ⟨_, checkusername_first_okay short plain nobody waiting.unfailed known okay, rfl, ?_⟩
    exact ⟨waiting.notYet, waiting.failcount, waiting.unfailed, .inr ⟨rfl, rfl⟩⟩
  · refine ⟨auth, ?_, account, waiting⟩
    rw [checkusername_again short plain entered, checkAccount_apply,
      if_neg (by rw [waiting.unfailed]; nofun), if_pos (by rw [account]; exact okay)]

theorem passwordAllowed_iff {opts : SvrOpts} (account : auth.pw = some pw) :
    passwordAllowed opts auth ↔ ¬ (opts.noauthpass ∨ (opts.norootpass ∧ pw.pwUid = 0)) := by
  have uid : auth.pwUid = pw.pwUid := by
    rw [AuthState.pwUid, account]
    rfl
  rw [passwordAllowed, uid, not_or, Bool.and_eq_true, Bool.not_eq_true', Bool.not_eq_true',
    Bool.eq_false_iff, Bool.eq_false_iff, ne_eq, ne_eq, Bool.and_eq_true, decide_eq_true_iff]

section Account

variable {username : Bytes} {pw : Passwd} {n : Nat}

/-- A request to change the password is a failure that is counted. -/
theorem Waiting.changeRequest (waiting : Waiting username pw n auth)
    (short : username.length ≤ maxUsernameLen) (plain : 0 ∉ username)
    (known : ctx.system.getpwnam username = some pw) (okay : accountOkay ctx pw)
    (allowed : ¬ (ctx.opts.noauthpass ∨ (ctx.opts.norootpass ∧ pw.pwUid = 0)))
    (fits : n + 1 < 2 ^ 32) (few : n + 1 ≤ ctx.opts.maxauthtries) :
    ∃ auth', handle ctx (0, passwordPayload username [1] short (by decide)) auth = .ok () auth' ∧
      Waiting username pw (n + 1) auth' := by
  have tail : ([1] : Bytes).length ≤ 100 := by decide
  obtain ⟨behind, read, rest⟩ := readRequest_passwordPayload short tail
  obtain ⟨checked, ran, account, ready⟩ := waiting.bannered.checkusername short plain known okay
  have counted : (checked.failed false true).failcount = n + 1 := by
    change u32 (checked.failcount + 1) = n + 1
    rw [ready.failcount, u32_of_lt fits]
  refine ⟨checked.failed false true, ?_, ready.notYet, counted, ready.unfailed, ready.user⟩
  rw [handle, recvMsgUserauthRequest, userauthRequest_apply waiting.notYet, read]
  dsimp only
  rw [if_neg (not_not.2 rfl), EStateM.bind_of_ok ran, dispatchMethod, EStateM.get_bind_apply,
    if_neg (by decide), if_pos ⟨(passwordAllowed_iff account).2 allowed, rfl⟩, svrAuthPassword,
    readPassword, bufGetbool_of_rest rest]
  change sendMsgUserauthFailure ctx.opts false true checked = _
  rw [sendMsgUserauthFailure_apply, if_neg (by omega)]

/-- So many of them as are allowed do not end the session. -/
theorem Waiting.changeRequests {k : Nat} (waiting : Waiting username pw k auth)
    (short : username.length ≤ maxUsernameLen) (plain : 0 ∉ username)
    (known : ctx.system.getpwnam username = some pw) (okay : accountOkay ctx pw)
    (allowed : ¬ (ctx.opts.noauthpass ∨ (ctx.opts.norootpass ∧ pw.pwUid = 0)))
    (isUint : ctx.opts.maxauthtries ≤ uintMax) (few : k + n ≤ ctx.opts.maxauthtries) :
    ∃ auth', runAll (handle ctx)
        (List.replicate n (0, passwordPayload username [1] short (by decide))) auth =
          .ok () auth' ∧ Waiting username pw (k + n) auth' := by
  induction n generalizing k auth with
  | zero => exact ⟨auth, rfl, waiting⟩
  | succ n ih =>
    have fits : k + 1 < 2 ^ 32 := by
      rw [uintMax] at isUint
      omega
    obtain ⟨auth', ran, waiting'⟩ :=
      waiting.changeRequest short plain known okay allowed fits (by omega)
    obtain ⟨auth'', ran', waiting''⟩ := ih waiting' (by omega)
    refine ⟨auth'', ?_, ?_⟩
    · rw [List.replicate_succ, runAll_cons_of_ok ran, ran']
    · rwa [Nat.add_assoc, Nat.add_comm 1 n] at waiting''

/-- A password is compared as long as the session has not ended. -/
theorem Waiting.checkedPassword (waiting : Waiting username pw n auth)
    (short : username.length ≤ maxUsernameLen) (plain : 0 ∉ username)
    (known : ctx.system.getpwnam username = some pw) (okay : accountOkay ctx pw)
    (allowed : ¬ (ctx.opts.noauthpass ∨ (ctx.opts.norootpass ∧ pw.pwUid = 0))) :
    checkedPassword ctx (0, passwordPayload username (0 :: wireString []) short (by decide)) auth =
      some (pw, []) := by
  have tail : (0 :: wireString []).length ≤ 100 := by decide
  obtain ⟨behind, read, rest⟩ := readRequest_passwordPayload short tail
  obtain ⟨checked, ran, account, ready⟩ := waiting.bannered.checkusername short plain known okay
  have presented : readPassword behind = .ok (some []) := by
    have string : bufGetstring (behind.skip 1) = .ok ([], (behind.skip 1).skip 4) :=
      consumes_bufGetstring (isString_wireString (by decide)) _
        ⟨[], by rw [Buffer.rest_skip_one rest]; rfl⟩
    rw [readPassword, bufGetbool_of_rest rest, Except.ok_bind]
    change (bufGetstring (behind.skip 1) >>= fun read => pure (some read.1)) = _
    rw [string]
    rfl
  rw [Auth.checkedPassword, if_neg (by rw [waiting.notYet]; nofun), read]
  dsimp only
  rw [if_neg (not_not.2 rfl), ran]
  dsimp only
  rw [if_pos ⟨rfl, (passwordAllowed_iff account).2 allowed, rfl⟩, account, presented]
  rfl

end Account

theorem waiting_svrAuthinitialise (username : Bytes) (pw : Passwd) (opts : SvrOpts)
    (banner : Option Bytes) : Waiting username pw 0 (svrAuthinitialise opts banner) :=
  ⟨rfl, rfl, rfl, .inl rfl⟩

/-! ## The account -/

/-- The account is that of the user. -/
def OwnAccount (ctx : Context) (auth : AuthState) : Prop :=
  ∀ username, auth.username = some username → auth.pw = ctx.system.getpwnam username

theorem OwnAccount.bannered (own : OwnAccount ctx auth) : OwnAccount ctx auth.bannered := by
  rw [AuthState.bannered]
  cases auth.banner with
  | none => exact own
  | some banner => exact own

theorem OwnAccount.userChecked {validUser : Bool} (own : OwnAccount ctx auth)
    (checked : UserChecked ctx auth auth' validUser) : OwnAccount ctx auth' := by
  intro username named
  rcases checked.user with ⟨same, pw⟩ | ⟨name, _, entered, pw⟩
  · rw [pw]
    exact own username (same.symm.trans named)
  · rw [entered] at named
    cases named
    exact pw

theorem OwnAccount.requested {beginning : Nat} {ended : Bool} (own : OwnAccount ctx auth)
    (requested : Requested ctx beginning auth ended auth') : OwnAccount ctx auth' := by
  cases requested with
  | ignored done => exact own
  | ended notYet => exact own.bannered
  | answered notYet checked answer =>
    obtain ⟨username, pw, _⟩ := answer.user_kept
    intro name named
    rw [pw]
    exact (own.bannered.userChecked checked) name (username.symm.trans named)

theorem ownAccount_svrAuthinitialise (banner : Option Bytes) :
    OwnAccount ctx (svrAuthinitialise ctx.opts banner) := nofun

theorem ownAccount_run (banner : Option Bytes) (requests : List (Nat × Buffer)) :
    OwnAccount ctx
      (finalState (runAll (handle ctx) requests (svrAuthinitialise ctx.opts banner))) :=
  runAll_invariant
    (fun request _ own => own.requested (recvMsgUserauthRequest_requested request.1 request.2))
    requests (ownAccount_svrAuthinitialise banner)

/-! ## Without a credential -/

/-- If the account that the request names may be entered, it has a password, and the request
has neither that nor an authorized key. -/
def LockedOut (ctx : Context) (request : Nat × Buffer) : Prop :=
  ∀ username servicename methodname payload pw,
    readRequest request.2 = .ok (username, servicename, methodname, payload) →
      ctx.system.getpwnam username = some pw → accountOkay ctx pw →
        pw.pwPasswd ≠ [] ∧ Unaccepted ctx pw methodname payload

/-- A user that is found valid is the one that the request names. -/
theorem username_of_checkusername {username : Bytes}
    (ran : checkusername ctx username auth = .ok true auth') : auth'.username = some username := by
  rw [checkusername] at ran
  split_ifs at ran
  · cases ran
  · cases ran
  · obtain ⟨_, middle, entered, checked⟩ := EStateM.bind_eq_ok.1 ran
    rw [checkAccount_apply] at checked
    split_ifs at checked <;> cases checked
    rw [fixUsername, EStateM.get_bind_apply] at entered
    cases fixed : auth.username <;> simp only [fixed] at entered
    · cases entered
      rfl
    · split_ifs at entered with same <;> cases entered
      rw [fixed, not_not.1 same]

theorem authdone_handle (notYet : auth.authdone = false) (own : OwnAccount ctx auth)
    (locked : LockedOut ctx request) : (finalState (handle ctx request auth)).authdone = false := by
  have bannered : auth.bannered.authdone = false := by
    rw [AuthState.bannered]
    cases auth.banner <;> exact notYet
  rw [handle, recvMsgUserauthRequest, userauthRequest_apply notYet]
  cases read : readRequest request.2 with
  | error failure => exact bannered
  | ok fields =>
    dsimp only
    split
    · exact bannered
    · rcases checkusername_spec fields.1 with ⟨validUser, checked, ran, isChecked⟩ | ⟨failure, ran⟩
      · rw [EStateM.bind_of_ok ran, dispatchMethod_reply]
        · generalize reply _ _ _ _ _ = answer
          rw [isChecked.others]
          cases answer with
          | ended failure => exact bannered
          | failed incrfail =>
            rw [Reply.run, finalState_sendMsgUserauthFailure]
            exact bannered
          | refused =>
            rw [Reply.run, refuseKey_apply]
            split <;> exact bannered
        · intro valid
          rw [valid] at ran
          obtain ⟨_, pw, _, _, _, account, okay⟩ := isChecked.valid valid
          have known := own.bannered.userChecked isChecked _ (username_of_checkusername ran)
          exact ⟨pw, account, locked _ _ _ _ pw read (known.symm.trans account) okay⟩
      · rw [EStateM.bind_of_error ran]
        exact bannered

/-- **No session is authenticated without a credential**, whatever its requests are. -/
theorem not_authdone_run (ctx : Context) (banner : Option Bytes) {requests : List (Nat × Buffer)}
    (locked : ∀ request ∈ requests, LockedOut ctx request) :
    (finalState (runAll (handle ctx) requests (svrAuthinitialise ctx.opts banner))).authdone =
      false := by
  have keeps : ∀ request (auth : AuthState), LockedOut ctx request →
      auth.authdone = false ∧ OwnAccount ctx auth →
        (finalState (handle ctx request auth)).authdone = false ∧
          OwnAccount ctx (finalState (handle ctx request auth)) := by
    rintro request auth locked ⟨notYet, own⟩
    exact ⟨authdone_handle notYet own locked,
      own.requested (recvMsgUserauthRequest_requested request.1 request.2)⟩
  exact (runAll_keeps _ keeps (allMeet_of_forall (fun request listed _ => locked request listed) _)
    ⟨rfl, ownAccount_svrAuthinitialise banner⟩).1

theorem not_authdone_keyQuery :
    (finalState (runAll (handle (lockedContext (some existing))) [keyQuery, keyQuery]
      (svrAuthinitialise (lockedContext (some existing)).opts none))).authdone = false := by
  apply not_authdone_run
  intro request _ username _ _ _ pw read known _
  simp only [lockedContext, plainContext] at known
  split at known <;> cases known
  exact ⟨by decide, lockedContext_fruitless request _ _ _ _ read⟩

/-! ## Without passwords -/

/-- Without users that may use a password none is compared. -/
theorem checkedPassword_of_noPasswordUser (nobody : NoPasswordUser ctx)
    (own : OwnAccount ctx auth) : checkedPassword ctx request auth = none := by
  rw [checkedPassword]
  split
  · rfl
  · split
    · rfl
    case _ username servicename methodname payload read =>
      split
      · rfl
      · split
        · rfl
        case _ validUser checked ran =>
          refine if_neg ?_
          rintro ⟨valid, allowed, _⟩
          rcases checkusername_spec username with
            ⟨validUser', checked', ran', isChecked⟩ | ⟨failure, ran'⟩
          · rw [ran] at ran'
            cases ran'
            obtain ⟨name, pw, short, plain, named, account, okay⟩ := isChecked.valid valid
            have known := own.bannered.userChecked isChecked name named
            rw [account] at known
            exact (passwordAllowed_iff account).1 allowed
              (nobody name pw short plain known.symm okay)
          · rw [ran] at ran'
            cases ran'

theorem wrongAnswered_of_noPasswordUser (nobody : NoPasswordUser ctx)
    (requests : List (Nat × Buffer)) (own : OwnAccount ctx auth) :
    wrongAnswered ctx requests auth = 0 := by
  induction requests generalizing auth with
  | nil => rfl
  | cons request rest ih =>
    rw [wrongAnswered]
    cases ran : handle ctx request auth with
    | error failure after => rfl
    | ok value after =>
      have own' : OwnAccount ctx (finalState (handle ctx request auth)) :=
        own.requested (recvMsgUserauthRequest_requested request.1 request.2)
      rw [ran] at own'
      have nothing : wrongAnswered ctx rest after = 0 := ih own'
      dsimp only
      rw [nothing, guessesWrong, checkedPassword_of_noPasswordUser nobody own]
      rfl

/-- **The limit on attempts holds exactly where no password is ever compared.**  Apart from
that, at most `maxauthtries` wrong passwords are answered. -/
theorem attemptsLimited_iff (ctx : Context) (isUint : ctx.opts.maxauthtries ≤ uintMax)
    (banner : Option Bytes) :
    (AttemptsLimited ctx banner ↔ NoPasswordUser ctx) ∧
      (ctx.opts.maxauthtries < uintMax → ∀ requests,
        wrongAnswered ctx requests (svrAuthinitialise ctx.opts banner) ≤
          ctx.opts.maxauthtries) := by
  refine ⟨⟨?_, ?_⟩, fun below requests => ?_⟩
  · intro limited username pw short plain known okay
    by_contra allowed
    obtain ⟨auth, ran, waiting⟩ :=
      (waiting_svrAuthinitialise username pw ctx.opts banner).changeRequests short plain known okay
        allowed isUint (show 0 + ctx.opts.maxauthtries ≤ _ by omega)
    have none := limited.unchecked _ auth ran (by rw [waiting.failcount]; omega)
      (0, passwordPayload username (0 :: wireString []) short (by decide))
    rw [waiting.checkedPassword short plain known okay allowed] at none
    cases none
  · intro nobody
    refine ⟨fun requests => ?_, fun requests auth ran _ request => ?_⟩
    · rw [wrongAnswered_of_noPasswordUser nobody requests (ownAccount_svrAuthinitialise banner)]
      omega
    · have own : OwnAccount ctx (finalState (runAll (handle ctx) requests
          (svrAuthinitialise ctx.opts banner))) := ownAccount_run banner requests
      rw [ran] at own
      exact checkedPassword_of_noPasswordUser nobody own
  · have := wrongAnswered_add_le below requests
      (show (svrAuthinitialise ctx.opts banner).failcount ≤ _ from Nat.zero_le _)
    exact Nat.le_trans (Nat.le_add_right _ _) this

end

/-- A server that allows one attempt, with one account whose password is "right". -/
def guessContext (noauthpass : Bool) : Context :=
  { plainContext fun _ => some (userAccount (ascii "right")) with
    opts.noauthpass := noauthpass
    opts.maxauthtries := 1
    system.crypt := fun password _ => some password }

/-- With passwords switched off none is compared. -/
theorem attemptsLimited_without_passwords :
    (guessContext true).opts.maxauthtries ≤ uintMax ∧
      AttemptsLimited (guessContext true) none := by
  have isUint : (guessContext true).opts.maxauthtries ≤ uintMax := by decide
  exact ⟨isUint, (attemptsLimited_iff _ isUint none).1.2 fun _ _ _ _ _ _ => .inl rfl⟩

def guess (password : Bytes) (short : (0 :: wireString password).length ≤ 100) : Nat × Buffer :=
  (0, passwordPayload (ascii "user") (0 :: wireString password) (by decide) short)

/-- **One attempt is allowed, but a second password is compared and accepted.** -/
theorem attemptsLimited_second_guess :
    ∃ auth, runAll (handle (guessContext false)) [guess (ascii "wrong") (by decide)]
        (svrAuthinitialise (guessContext false).opts none) = .ok () auth ∧
      auth.failcount = (guessContext false).opts.maxauthtries ∧
      (checkedPassword (guessContext false) (guess (ascii "right") (by decide)) auth).isSome ∧
      (finalState (handle (guessContext false) (guess (ascii "right") (by decide)) auth)).authdone := by
  have second : (match runAll (handle (guessContext false)) [guess (ascii "wrong") (by decide)]
        (svrAuthinitialise (guessContext false).opts none) with
      | .ok _ auth =>
        decide (auth.failcount = (guessContext false).opts.maxauthtries ∧
          (checkedPassword (guessContext false) (guess (ascii "right") (by decide)) auth).isSome ∧
          (finalState
            (handle (guessContext false) (guess (ascii "right") (by decide)) auth)).authdone)
      | .error _ _ => false) = true := by decide +kernel
  split at second
  case _ auth ran => exact ⟨auth, ran, of_decide_eq_true second⟩
  case _ => cases second

end Dropbear.Auth
