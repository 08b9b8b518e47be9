/-
# A whole userauth request

A request first shows the banner, then fixes or compares the user of the
session, and is then answered.  This module says what each of these can change,
and what stays true of the user over a session: the name is set once, the
account is the one of that name, and no credential is accepted before.
-/

import Dropbear.Auth.Answer
import Dropbear.Buffer.Consume
import Dropbear.Program.Run

namespace Dropbear.Auth

open Program Signkey

/-- Handle a userauth request: where its payload begins, and the packet behind
the message type. -/
def handle (ctx : Context) (request : Nat × Buffer) : AuthM Unit :=
  recvMsgUserauthRequest ctx request.1 request.2

/-- After the banner has been shown. -/
def AuthState.bannered (auth : AuthState) : AuthState :=
  match auth.banner with
  | none => auth
  | some banner =>
    { auth.emitted (.packet (userauthBanner banner)) with
      banner := none }

/-- The user of the session has been checked with verdict `validUser`: at the
first request the name and its account are entered, and apart from them only a
failure is noted. -/
structure UserChecked (ctx : Context) (auth auth' : AuthState) (validUser : Bool) : Prop where
  others : auth' =
    { auth with
      username := auth'.username
      pw := auth'.pw
      checkusernameFailed := auth'.checkusernameFailed }
  user : (auth'.username = auth.username ∧ auth'.pw = auth.pw) ∨
    ∃ username, auth.username = none ∧ auth'.username = some username ∧
      auth'.pw = ctx.system.getpwnam username
  valid : validUser → ∃ username pw, username.length ≤ maxUsernameLen ∧ 0 ∉ username ∧
    auth'.username = some username ∧ auth'.pw = some pw ∧ accountOkay ctx pw

section

variable {ctx : Context} {auth : AuthState}

theorem sendBanner_apply : sendBanner auth = .ok () auth.bannered := by
  rw [sendBanner, EStateM.get_bind_apply, AuthState.bannered]
  cases auth.banner with
  | none => rfl
  | some banner => rfl

/-! ## Checking the user -/

theorem checkAccount_apply :
    checkAccount ctx auth =
      if auth.checkusernameFailed then .ok false auth
      else if auth.pw.any (accountOkay ctx) then .ok true auth
      else .ok false { auth with checkusernameFailed := true } := by
  rw [checkAccount, EStateM.get_bind_apply]
  split
  · rfl
  · split <;> rfl

section

variable {username : Bytes}

/-- A name that is too long is refused without a look at the session's user. -/
theorem checkusername_long (long : username.length > maxUsernameLen) :
    checkusername ctx username auth = .ok false auth := by
  rw [checkusername, if_pos long]
  rfl

theorem checkusername_null (short : username.length ≤ maxUsernameLen) (null : 0 ∈ username) :
    checkusername ctx username auth = .error (.exit "Attempted username with a null byte") auth := by
  rw [checkusername, if_neg (Nat.not_lt.2 short), if_pos null]
  rfl

theorem checkusername_changed (short : username.length ≤ maxUsernameLen) (plain : 0 ∉ username)
    {fixed : Bytes} (entered : auth.username = some fixed) (other : username ≠ fixed) :
    checkusername ctx username auth = .error (.exit "Client trying multiple usernames") auth := by
  have ended : fixUsername ctx username auth =
      .error (.exit "Client trying multiple usernames") auth := by
    rw [fixUsername, EStateM.get_bind_apply, entered]
    simp only [if_pos other]
    rfl
  rw [checkusername, if_neg (Nat.not_lt.2 short), if_neg plain]
  exact EStateM.bind_of_error ended _

theorem checkusername_again (short : username.length ≤ maxUsernameLen) (plain : 0 ∉ username)
    (entered : auth.username = some username) :
    checkusername ctx username auth = checkAccount ctx auth := by
  have kept : fixUsername ctx username auth = .ok () auth := by
    rw [fixUsername, EStateM.get_bind_apply, entered]
    simp only [ne_eq, not_true_eq_false, if_false]
    rfl
  rw [checkusername, if_neg (Nat.not_lt.2 short), if_neg plain, EStateM.bind_of_ok kept]

/-- The user of the session has been entered with the account of that name. -/
def AuthState.entered (auth : AuthState) (ctx : Context) (username : Bytes) : AuthState :=
  { auth with
    username := some username
    pw := ctx.system.getpwnam username }

theorem checkusername_first (short : username.length ≤ maxUsernameLen) (plain : 0 ∉ username)
    (nobody : auth.username = none) :
    checkusername ctx username auth = checkAccount ctx (auth.entered ctx username) := by
  have fixed : fixUsername ctx username auth = .ok () (auth.entered ctx username) := by
    rw [fixUsername, EStateM.get_bind_apply, nobody]
    rfl
  rw [checkusername, if_neg (Nat.not_lt.2 short), if_neg plain, EStateM.bind_of_ok fixed]

variable (ctx) in
/-- The verdict on the user as it is entered. -/
theorem checkAccount_spec (short : username.length ≤ maxUsernameLen) (plain : 0 ∉ username)
    (entered : auth.username = some username) :
    ∃ validUser auth', checkAccount ctx auth = .ok validUser auth' ∧
      auth' = { auth with checkusernameFailed := auth'.checkusernameFailed } ∧
        (validUser → ∃ username pw, username.length ≤ maxUsernameLen ∧ 0 ∉ username ∧
          auth'.username = some username ∧ auth'.pw = some pw ∧ accountOkay ctx pw) := by
  rw [checkAccount_apply]
  by_cases remembered : auth.checkusernameFailed
  · rw [if_pos remembered]
    exact ⟨false, auth, rfl, rfl, nofun⟩
  · rw [if_neg remembered]
    by_cases okay : auth.pw.any (accountOkay ctx)
    · rw [if_pos okay]
      obtain ⟨pw, account, okay⟩ := Option.any_eq_true _ _ |>.1 okay
      exact ⟨true, auth, rfl, rfl, fun _ => ⟨username, pw, short, plain, entered, account, okay⟩⟩
    · rw [if_neg okay]
      exact ⟨false, _, rfl, rfl, nofun⟩

end

/-- Checking the user either returns a verdict or ends the session, without a
change. -/
theorem checkusername_spec (username : Bytes) :
    (∃ validUser auth', checkusername ctx username auth = .ok validUser auth' ∧
        UserChecked ctx auth auth' validUser) ∨
      ∃ failure, checkusername ctx username auth = .error failure auth := by
  by_cases long : username.length > maxUsernameLen
  · exact .inl ⟨false, auth, checkusername_long long, rfl, .inl ⟨rfl, rfl⟩, nofun⟩
  · have short := Nat.le_of_not_lt long
    by_cases null : 0 ∈ username
    · exact .inr ⟨_, checkusername_null short null⟩
    · cases fixed : auth.username with
      | none =>
        rw [checkusername_first short null fixed]
        obtain ⟨validUser, auth', ran, others, valid⟩ :=
          checkAccount_spec ctx short null (rfl : (auth.entered ctx username).username = _)
        refine .inl ⟨validUser, auth', ran, ?_, .inr ⟨username, fixed, ?_, ?_⟩, valid⟩
        all_goals rw [others]
        all_goals rfl
      | some name =>
        by_cases other : username ≠ name
        · exact .inr ⟨_, checkusername_changed short null fixed other⟩
        · obtain rfl := not_not.1 other
          rw [checkusername_again short null fixed]
          obtain ⟨validUser, auth', ran, others, valid⟩ := checkAccount_spec ctx short null fixed
          refine .inl ⟨validUser, auth', ran, ?_, .inl ⟨?_, ?_⟩, valid⟩
          all_goals rw [others]

/-! ## Whole requests -/

section

variable {dispatch : Bool → Bytes → Buffer → AuthM Unit}

/-- Requests after authentication are ignored. -/
theorem userauthRequest_done (done : auth.authdone) (payload : Buffer) :
    userauthRequest ctx dispatch payload auth = .ok () auth := by
  rw [userauthRequest, EStateM.get_bind_apply, if_pos done]
  rfl

theorem userauthRequest_apply (notYet : auth.authdone = false) (payload : Buffer) :
    userauthRequest ctx dispatch payload auth =
      match readRequest payload with
      | .error failure => .error failure auth.bannered
      | .ok (username, servicename, methodname, payload) =>
        if servicename ≠ ascii "ssh-connection" then
          .error (.exit "unknown service in auth") auth.bannered
        else
          (checkusername ctx username >>= fun validUser => dispatch validUser methodname payload)
            auth.bannered := by
  rw [userauthRequest, EStateM.get_bind_apply, if_neg (by simp [notYet]),
    EStateM.bind_of_ok sendBanner_apply]
  cases readRequest payload with
  | error failure => rfl
  | ok fields =>
    rw [EStateM.bind_of_ok (fromBuffer_ok _ _)]
    dsimp only
    split <;> rfl

end

/-- The ways in which a whole request can change the state, and whether the process ends. -/
inductive Requested (ctx : Context) (beginning : Nat) (auth : AuthState) : Bool → AuthState → Prop
  /-- Requests after authentication are ignored. -/
  | ignored (done : auth.authdone) : Requested ctx beginning auth false auth
  /-- The process ends on a malformed request, a wrong service or another user. -/
  | ended (notYet : auth.authdone = false) : Requested ctx beginning auth true auth.bannered
  | answered {auth' auth'' : AuthState} {validUser ended : Bool} {payload : Buffer}
      (notYet : auth.authdone = false) (checked : UserChecked ctx auth.bannered auth' validUser)
      (answer : Answer ctx validUser beginning payload auth' ended auth'') :
      Requested ctx beginning auth ended auth''

/-- **Every request changes the state in one of these ways.** -/
theorem recvMsgUserauthRequest_requested (beginning : Nat) (payload : Buffer) :
    Requested ctx beginning auth (hasFailed (recvMsgUserauthRequest ctx beginning payload auth))
      (finalState (recvMsgUserauthRequest ctx beginning payload auth)) := by
  change Requested ctx beginning auth (hasFailed (handle ctx (beginning, payload) auth))
    (finalState (handle ctx (beginning, payload) auth))
  cases done : auth.authdone with
  | true =>
    rw [handle, recvMsgUserauthRequest, userauthRequest_done done]
    exact .ignored done
  | false =>
    rw [handle, recvMsgUserauthRequest, userauthRequest_apply done]
    cases readRequest payload with
    | error failure => exact .ended done
    | ok request =>
      obtain ⟨username, servicename, methodname, behind⟩ := request
      dsimp only
      by_cases wrong : servicename ≠ ascii "ssh-connection"
      · rw [if_pos wrong]
        exact .ended done
      · rw [if_neg wrong]
        rcases checkusername_spec username with
          ⟨validUser, auth', ran, checked⟩ | ⟨failure, ran⟩
        · rw [EStateM.bind_of_ok ran]
          exact .answered done checked (dispatchMethod_answer methodname)
        · rw [EStateM.bind_of_error ran]
          exact .ended done

end

/-! ## A request as it is sent -/

/-- The request of a user for a method, with what follows the name of the method. -/
def requestBytes (username methodname tail : Bytes) : Bytes :=
  msgUserauthRequest.toUInt8 :: (wireString username ++
    (wireString (ascii "ssh-connection") ++ (wireString methodname ++ tail)))

section

variable {username methodname tail : Bytes}

theorem length_requestBytes (username methodname tail : Bytes) :
    (requestBytes username methodname tail).length =
      username.length + methodname.length + tail.length + 27 := by
  simp only [requestBytes, wireString, List.length_cons, List.length_append, length_be32]
  have service : (ascii "ssh-connection").length = 14 := by decide
  omega

theorem requestBytes_ne_nil (username methodname tail : Bytes) :
    1 ≤ (requestBytes username methodname tail).length := by
  rw [length_requestBytes]
  omega

theorem requestBytes_le (small : username.length + methodname.length + tail.length ≤ 1000) :
    (requestBytes username methodname tail).length ≤ bufMaxSize := by
  rw [length_requestBytes, bufMaxSize]
  omega

/-- The request in a buffer, behind the message type. -/
def requestPayload (username methodname tail : Bytes)
    (small : username.length + methodname.length + tail.length ≤ 1000) : Buffer :=
  .ofBytesAt 1 (requestBytes username methodname tail)
    (requestBytes_ne_nil username methodname tail) (requestBytes_le small)

/-- It is read as it was made. -/
theorem readRequest_requestPayload
    (small : username.length + methodname.length + tail.length ≤ 1000) :
    ∃ behind, readRequest (requestPayload username methodname tail small) =
        .ok (username, ascii "ssh-connection", methodname, behind) ∧ behind.rest = tail := by
  have rest : (requestPayload username methodname tail small).rest = wireString username ++
      (wireString (ascii "ssh-connection") ++ (wireString methodname ++ tail)) :=
    Buffer.rest_ofBytesAt 1 _ _ _
  have present : wireString username ++ (wireString (ascii "ssh-connection") ++
      wireString methodname) <+: (requestPayload username methodname tail small).rest :=
    ⟨tail, by rw [rest, List.append_assoc, List.append_assoc]⟩
  have fits : ∀ n ≤ 1000, n ≤ maxStringLen := fun n few => Nat.le_trans few (by decide)
  obtain ⟨here, behind⟩ := prefix_rest_of_append present
  obtain ⟨here', behind'⟩ := prefix_rest_of_append behind
  have name := consumes_bufGetstring (isString_wireString (fits _ (by omega))) _ here
  have service := consumes_bufGetstring (isString_wireString (by decide)) _ here'
  have method := consumes_bufGetstring (isString_wireString (fits _ (by omega))) _ behind'
  simp only [readRequest, name, service, method, Except.ok_bind]
  refine ⟨_, rfl, ?_⟩
  rw [Buffer.rest_skip, Buffer.rest_skip, Buffer.rest_skip, rest, List.drop_left, List.drop_left,
    List.drop_left]

end

end Dropbear.Auth
