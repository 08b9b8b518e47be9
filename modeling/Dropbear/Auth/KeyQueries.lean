/-
# The number of keys that may be offered

The configuration promises `MAX_PUBKEY_QUERIES` public key queries in a session, or
`maxauthtries` if that is more.  The allowance that was to make up the difference is always
zero, so that every refused key after the first is counted as a failure, and
`maxauthtries + 1` of them are answered.
-/

import Dropbear.Auth.Attempts

namespace Dropbear.Auth

open Program Signkey

def maxPubkeyQueries : Nat := 15

/-- The user has an account that passes the checks. -/
structure ValidUser (ctx : Context) (username : Bytes) (pw : Passwd) : Prop where
  short : username.length ≤ maxUsernameLen
  plain : 0 ∉ username
  known : ctx.system.getpwnam username = some pw
  okay : accountOkay ctx pw

/-- A public key request of the user, to test the key or with a signature, for a known
signature algorithm, whose key is looked up for the account and is not found. -/
inductive OffersUnauthorized (ctx : Context) (username : Bytes) (pw : Passwd) :
    Nat × Buffer → Prop
  | offers {beginning : Nat} {payload behind blob : Buffer} {testkey : Bool}
      {sigalgo keyblob : Bytes} {sigtype : SignatureType}
      (request : readRequest payload =
        .ok (username, ascii "ssh-connection", ascii "publickey", behind))
      (fields : readKeyRequest behind = .ok (testkey, sigalgo, keyblob, blob))
      (named : signatureTypeFromName sigalgo = some sigtype)
      (unauthorized :
        lookupKey ctx (signkeyTypeFromSignature sigtype) keyblob (some pw) = .ok none) :
      OffersUnauthorized ctx username pw (beginning, payload)

/-- The number of requests that are answered without ending the session. -/
def answeredRequests (ctx : Context) : List (Nat × Buffer) → AuthState → Nat
  | [], _ => 0
  | request :: rest, auth =>
    match handle ctx request auth with
    | .ok _ after => answeredRequests ctx rest after + 1
    | .error _ _ => 0

/-- Of the keys that a valid user offers without success, as many are answered as the
configuration says, and no more. -/
def KeyQueriesLimited (ctx : Context) (banner : Option Bytes) (username : Bytes) (pw : Passwd) :
    Prop :=
  ∀ requests, (∀ request ∈ requests, OffersUnauthorized ctx username pw request) →
    answeredRequests ctx requests (svrAuthinitialise ctx.opts banner) =
      min requests.length (max maxPubkeyQueries ctx.opts.maxauthtries)

/-- Nothing but `n` keys has been refused: all but the first are counted as failures. -/
structure KeysRefused (username : Bytes) (pw : Passwd) (n : Nat) (auth : AuthState) : Prop where
  waiting : Waiting username pw (n - 1) auth
  queries : auth.servPubkeyQueryCount = u32 n

section

variable {ctx : Context} {auth : AuthState} {username : Bytes} {pw : Passwd}
  {request : Nat × Buffer} {n : Nat}

theorem KeysRefused.bannered (refused : KeysRefused username pw n auth) :
    KeysRefused username pw n auth.bannered := by
  refine ⟨refused.waiting.bannered, ?_⟩
  rw [AuthState.bannered]
  cases auth.banner with
  | none => exact refused.queries
  | some banner => exact refused.queries

theorem KeysRefused.checkusername (refused : KeysRefused username pw n auth)
    (valid : ValidUser ctx username pw) :
    ∃ checked, checkusername ctx username auth = .ok true checked ∧ checked.pw = some pw ∧
      KeysRefused username pw n checked := by
  obtain ⟨checked, ran, account, waiting⟩ :=
    refused.waiting.checkusername valid.short valid.plain valid.known valid.okay
  refine ⟨checked, ran, account, waiting, ?_⟩
  rcases @checkusername_spec ctx auth username with
    ⟨validUser, auth', ran', isChecked⟩ | ⟨failure, ran'⟩
  · rw [ran] at ran'
    cases ran'
    rw [isChecked.others]
    exact refused.queries
  · rw [ran] at ran'
    cases ran'

/-- The request is answered by refusing the key. -/
theorem KeysRefused.handle (refused : KeysRefused username pw n auth)
    (valid : ValidUser ctx username pw) (offers : OffersUnauthorized ctx username pw request) :
    ∃ checked, KeysRefused username pw n checked ∧
      handle ctx request auth = refuseKey ctx.opts checked := by
  cases offers with
  | offers read fields named unauthorized =>
    obtain ⟨checked, ran, account, refused'⟩ := refused.bannered.checkusername valid
    refine ⟨checked, refused', ?_⟩
    rw [handle, recvMsgUserauthRequest, userauthRequest_apply refused.waiting.notYet, read]
    dsimp only
    rw [if_neg (not_not.2 rfl), EStateM.bind_of_ok ran, dispatchMethod, EStateM.get_bind_apply,
      if_neg (by decide), if_neg (fun isPassword => absurd isPassword.2 (by decide)), if_pos rfl,
      svrAuthPubkey, fields, EStateM.bind_of_ok (fromBuffer_ok _ _)]
    dsimp only
    rw [if_neg (not_not.2 rfl), named]
    rw [← account] at unauthorized
    exact checkKey_refused unauthorized

/-- The count of failures after a refused key. -/
theorem KeysRefused.failcount (refused : KeysRefused username pw n auth) (fits : n < 2 ^ 32) :
    (auth.failed false (auth.servPubkeyQueryCount > 0)).failcount = n := by
  rw [refused.queries, u32_of_lt fits]
  cases n with
  | zero => exact refused.waiting.failcount
  | succ n =>
    rw [decide_eq_true (Nat.succ_pos n)]
    change u32 (auth.failcount + 1) = n + 1
    rw [refused.waiting.failcount]
    exact u32_of_lt fits

/-- The session goes on as long as no more keys than `maxauthtries` have been refused. -/
theorem KeysRefused.goes_on (refused : KeysRefused username pw n auth)
    (valid : ValidUser ctx username pw) (offers : OffersUnauthorized ctx username pw request)
    (fits : n < 2 ^ 32) (few : n ≤ ctx.opts.maxauthtries) :
    ∃ auth', Auth.handle ctx request auth = .ok () auth' ∧
      KeysRefused username pw (n + 1) auth' := by
  obtain ⟨checked, refused', ran⟩ := refused.handle valid offers
  have counted := refused'.failcount fits
  refine ⟨checked.keyRefused, ?_, ⟨refused'.waiting.notYet, counted, refused'.waiting.unfailed,
    refused'.waiting.user⟩, ?_⟩
  · rw [ran, refuseKey_apply, if_neg (by omega)]
  · change u32 (checked.servPubkeyQueryCount + 1) = u32 (n + 1)
    rw [refused'.queries, u32_of_lt fits]

theorem KeysRefused.ends (refused : KeysRefused username pw n auth)
    (valid : ValidUser ctx username pw) (offers : OffersUnauthorized ctx username pw request)
    (fits : n < 2 ^ 32) (many : ctx.opts.maxauthtries < n) :
    ∃ failure auth', Auth.handle ctx request auth = .error failure auth' := by
  obtain ⟨checked, refused', ran⟩ := refused.handle valid offers
  have counted := refused'.failcount fits
  rw [ran, refuseKey_apply, if_pos (by omega)]
  exact ⟨_, _, rfl⟩

variable {requests : List (Nat × Buffer)}

/-- What is left of `maxauthtries + 1` is answered. -/
theorem KeysRefused.answeredRequests (refused : KeysRefused username pw n auth)
    (valid : ValidUser ctx username pw) (below : ctx.opts.maxauthtries < uintMax)
    (few : n ≤ ctx.opts.maxauthtries + 1)
    (offers : ∀ request ∈ requests, OffersUnauthorized ctx username pw request) :
    answeredRequests ctx requests auth =
      min requests.length (ctx.opts.maxauthtries + 1 - n) := by
  rw [uintMax] at below
  induction requests generalizing n auth with
  | nil => exact (Nat.zero_min _).symm
  | cons request rest ih =>
    have offer := offers request List.mem_cons_self
    have others := fun other isIn => offers other (List.mem_cons_of_mem request isIn)
    rw [Auth.answeredRequests, List.length_cons]
    by_cases many : ctx.opts.maxauthtries < n
    · obtain ⟨failure, auth', ran⟩ := refused.ends valid offer (by omega) many
      rw [ran]
      dsimp only
      omega
    · obtain ⟨auth', ran, refused'⟩ := refused.goes_on valid offer (by omega) (by omega)
      rw [ran]
      dsimp only
      rw [ih refused' (by omega) others]
      omega

/-- No session ends before `maxauthtries + 1` keys have been refused. -/
theorem KeysRefused.answeredRequests_of_few (refused : KeysRefused username pw n auth)
    (valid : ValidUser ctx username pw) (isUint : ctx.opts.maxauthtries ≤ uintMax)
    (offers : ∀ request ∈ requests, OffersUnauthorized ctx username pw request)
    (few : n + requests.length ≤ ctx.opts.maxauthtries + 1) :
    Auth.answeredRequests ctx requests auth = requests.length := by
  rw [uintMax] at isUint
  induction requests generalizing n auth with
  | nil => rfl
  | cons request rest ih =>
    have offer := offers request List.mem_cons_self
    have others := fun other isIn => offers other (List.mem_cons_of_mem request isIn)
    rw [List.length_cons] at few
    rw [Auth.answeredRequests, List.length_cons]
    obtain ⟨auth', ran, refused'⟩ := refused.goes_on valid offer (by omega) (by omega)
    rw [ran]
    dsimp only
    rw [ih refused' others (by omega)]

end

theorem keysRefused_svrAuthinitialise (username : Bytes) (pw : Passwd) (opts : SvrOpts)
    (banner : Option Bytes) : KeysRefused username pw 0 (svrAuthinitialise opts banner) :=
  ⟨waiting_svrAuthinitialise username pw opts banner, rfl⟩

/-- **The limit on key queries is the documented one only where `maxauthtries` is one less
than `MAX_PUBKEY_QUERIES`.**  Otherwise `maxauthtries + 1` requests are answered. -/
theorem keyQueriesLimited_iff (ctx : Context) (isUint : ctx.opts.maxauthtries ≤ uintMax)
    (banner : Option Bytes) {username : Bytes} {pw : Passwd} (valid : ValidUser ctx username pw)
    {request : Nat × Buffer} (offers : OffersUnauthorized ctx username pw request) :
    (KeyQueriesLimited ctx banner username pw ↔
        ctx.opts.maxauthtries + 1 = maxPubkeyQueries) ∧
      (ctx.opts.maxauthtries < uintMax → ∀ requests,
        (∀ request ∈ requests, OffersUnauthorized ctx username pw request) →
          answeredRequests ctx requests (svrAuthinitialise ctx.opts banner) =
            min requests.length (ctx.opts.maxauthtries + 1)) := by
  have start := keysRefused_svrAuthinitialise username pw ctx.opts banner
  have counts : ctx.opts.maxauthtries < uintMax → ∀ requests,
      (∀ request ∈ requests, OffersUnauthorized ctx username pw request) →
        answeredRequests ctx requests (svrAuthinitialise ctx.opts banner) =
          min requests.length (ctx.opts.maxauthtries + 1) := fun below requests all =>
    start.answeredRequests valid below (Nat.zero_le _) all
  refine ⟨⟨fun limited => ?_, fun same requests all => ?_⟩, counts⟩
  · have repeated : ∀ k, ∀ other ∈ List.replicate k request,
        OffersUnauthorized ctx username pw other := by
      intro k other isIn
      rwa [List.eq_of_mem_replicate isIn]
    rw [maxPubkeyQueries]
    by_cases small : ctx.opts.maxauthtries < 15
    · -- one request more than are answered, all of which were to be answered
      have expected := limited _ (repeated (ctx.opts.maxauthtries + 2))
      rw [counts (by rw [uintMax]; omega) _ (repeated _), List.length_replicate,
        maxPubkeyQueries] at expected
      omega
    · -- one request more than was to be answered
      have expected := limited _ (repeated (ctx.opts.maxauthtries + 1))
      rw [start.answeredRequests_of_few valid isUint (repeated _)
        (by rw [List.length_replicate]; omega), List.length_replicate, maxPubkeyQueries] at expected
      omega
  · rw [maxPubkeyQueries] at same
    rw [counts (by rw [uintMax]; omega) requests all, maxPubkeyQueries]
    omega

/-- A server without keys, on which so many attempts are allowed. -/
def queryContext (maxauthtries : Nat) : Context :=
  { guessContext true with opts.maxauthtries := maxauthtries }

/-- The account that every user has in the example. -/
def queryAccount : Passwd := userAccount (ascii "right")

theorem validUser_queryContext (maxauthtries : Nat) :
    ValidUser (queryContext maxauthtries) (ascii "user") queryAccount where
  short := by decide
  plain := by decide
  known := rfl
  okay := by
    change accountOkay (guessContext true) queryAccount
    decide +kernel

theorem offersUnauthorized_keyQuery (maxauthtries : Nat) :
    OffersUnauthorized (queryContext maxauthtries) (ascii "user") queryAccount keyQuery := by
  have fields : (match readRequest keyQuery.2 with
      | .ok (username, servicename, methodname, behind) =>
        decide (username = ascii "user" ∧ servicename = ascii "ssh-connection" ∧
          methodname = ascii "publickey") &&
        match readKeyRequest behind with
        | .ok (_, sigalgo, _, _) => (signatureTypeFromName sigalgo).isSome
        | .error _ => false
      | .error _ => false) = true := by decide +kernel
  split at fields
  case _ username servicename methodname behind read =>
    obtain ⟨names, fields⟩ := Bool.and_eq_true _ _ |>.mp fields
    obtain ⟨rfl, rfl, rfl⟩ := of_decide_eq_true names
    split at fields
    case _ testkey sigalgo keyblob blob key =>
      obtain ⟨sigtype, named⟩ := Option.isSome_iff_exists.1 fields
      exact .offers read key named rfl
    · cases fields
  · cases fields

/-- With fourteen attempts there are fifteen queries. -/
theorem keyQueriesLimited_fourteen :
    (queryContext 14).opts.maxauthtries ≤ uintMax ∧
      KeyQueriesLimited (queryContext 14) none (ascii "user") queryAccount := by
  have isUint : (queryContext 14).opts.maxauthtries ≤ uintMax := by decide
  exact ⟨isUint, (keyQueriesLimited_iff _ isUint none (validUser_queryContext 14)
    (offersUnauthorized_keyQuery 14)).1.2 rfl⟩

/-- **With the default of ten attempts the twelfth query ends the session, and not the
sixteenth.** -/
theorem keyQueriesLimited_default :
    answeredRequests (queryContext 10) (List.replicate 15 keyQuery)
        (svrAuthinitialise (queryContext 10).opts none) = 11 ∧
      ¬ KeyQueriesLimited (queryContext 10) none (ascii "user") queryAccount := by
  have eleven : answeredRequests (queryContext 10) (List.replicate 15 keyQuery)
      (svrAuthinitialise (queryContext 10).opts none) = 11 := by decide +kernel
  refine ⟨eleven, fun limited => ?_⟩
  have fifteen := limited (List.replicate 15 keyQuery) fun request isIn => by
    rw [List.eq_of_mem_replicate isIn]
    exact offersUnauthorized_keyQuery 10
  rw [eleven] at fifteen
  revert fifteen
  decide

end Dropbear.Auth
