/-
# Two-factor authentication

With `multiauthmethod` every method that succeeds is struck off the list of
methods, and the user is let in by the method that finds no other one left.  So
over a whole session a method is missing from the list only after it succeeded,
and whoever is let in by a method has both factors.

The 'none' method does not look at the list.  Two factors are required in every
session if and only if no account gets in through it.
-/

import Dropbear.Auth.Request
import Dropbear.Buffer.Consume
import Dropbear.Program.Spec

namespace Dropbear.Auth

open Program

/-- The session's user has shown a key and the password. -/
def BothFactors (auth : AuthState) : Prop :=
  (∃ use, .signatureVerified auth.username use ∈ auth.accepted) ∧
    .passwordAccepted auth.username ∈ auth.accepted

/-- The 'none' method lets an account in: blank passwords are allowed, the account
has one, and it is not root's where root may not use a password. -/
def BlankLogin (ctx : Context) (pw : Passwd) : Prop :=
  ctx.opts.allowblankpass ∧ ¬ (ctx.opts.norootpass ∧ pw.pwUid = 0) ∧ pw.pwPasswd = []

/-- No account that passes `checkusername` gets in through the 'none' method. -/
def NoBlankLogin (ctx : Context) : Prop :=
  ∀ username pw, username.length ≤ maxUsernameLen → 0 ∉ username →
    ctx.system.getpwnam username = some pw → accountOkay ctx pw → ¬ BlankLogin ctx pw

/-- What holds between requests: as long as there is no user nothing has
happened, the account is the user's, and a method is missing only after it
succeeded. -/
structure Factored (ctx : Context) (auth : AuthState) : Prop where
  nobody : auth.username = none → auth.authdone = false ∧ auth.authtypes = ⟨true, true⟩
  account : ∀ username, auth.username = some username → auth.pw = ctx.system.getpwnam username
  pubkey : auth.authtypes.pubkey = false →
    ∃ use, .signatureVerified auth.username use ∈ auth.accepted
  password : auth.authtypes.password = false → .passwordAccepted auth.username ∈ auth.accepted
  done : auth.authdone → BothFactors auth

section

variable {ctx : Context} {auth auth' : AuthState}

theorem factored_svrAuthinitialise (enabled : ctx.opts.noauthpass = false)
    (banner : Option Bytes) : Factored ctx (svrAuthinitialise ctx.opts banner) where
  nobody _ := by simp [svrAuthinitialise, enabled]
  account _ set := nomatch set
  pubkey off := nomatch off
  password off := by simp [svrAuthinitialise, enabled] at off
  done finished := nomatch finished

/-- The invariant depends on five fields only. -/
theorem Factored.congr (sound : Factored ctx auth) (username : auth'.username = auth.username)
    (pw : auth'.pw = auth.pw) (authtypes : auth'.authtypes = auth.authtypes)
    (authdone : auth'.authdone = auth.authdone) (accepted : auth'.accepted = auth.accepted) :
    Factored ctx auth' where
  nobody unset := by
    rw [authdone, authtypes]
    exact sound.nobody (username ▸ unset)
  account name set := by
    rw [pw]
    exact sound.account name (username ▸ set)
  pubkey off := by
    rw [username, accepted]
    exact sound.pubkey (authtypes ▸ off)
  password off := by
    rw [username, accepted]
    exact sound.password (authtypes ▸ off)
  done finished := by
    rw [BothFactors, username, accepted]
    exact sound.done (authdone ▸ finished)

theorem Factored.bannered (sound : Factored ctx auth) : Factored ctx auth.bannered := by
  rw [AuthState.bannered]
  cases auth.banner with
  | none => exact sound
  | some banner => exact sound.congr rfl rfl rfl rfl (auth.accepted_emitted_packet _)

/-- Entering the user keeps the invariant: nothing had been accepted before. -/
theorem Factored.userChecked {validUser : Bool} (sound : Factored ctx auth)
    (checked : UserChecked ctx auth auth' validUser) : Factored ctx auth' := by
  have events : auth'.accepted = auth.accepted := by rw [checked.others]; rfl
  have types : auth'.authtypes = auth.authtypes := by rw [checked.others]
  have done : auth'.authdone = auth.authdone := by rw [checked.others]
  rcases checked.user with ⟨username, pw⟩ | ⟨name, unset, username, pw⟩
  · exact sound.congr username pw types done events
  · obtain ⟨notDone, offered⟩ := sound.nobody unset
    refine ⟨fun none => ?_, fun other set => ?_, fun off => ?_, fun off => ?_, fun finished => ?_⟩
    · rw [username] at none
      cases none
    · rw [username] at set
      cases set
      exact pw
    · rw [types, offered] at off
      cases off
    · rw [types, offered] at off
      cases off
    · rw [done, notDone] at finished
      cases finished

/-- An accepted password strikes the method off, or finds a key accepted before. -/
theorem Factored.passwordOk (multi : ctx.opts.multiauthmethod) (sound : Factored ctx auth)
    (user : auth.username ≠ none) : Factored ctx (auth.passwordOk ctx.opts) := by
  have accepted := auth.accepted_passwordOk ctx.opts
  by_cases more : ctx.opts.multiauthmethod ∧ auth.authtypes.pubkey
  · rw [AuthState.passwordOk, if_pos more] at accepted ⊢
    refine ⟨fun none => absurd none user, sound.account, fun off => ?_, fun _ => ?_, ?_⟩
    · obtain ⟨use, marked⟩ := sound.pubkey off
      exact ⟨use, accepted ▸ List.mem_append_left _ marked⟩
    · rw [accepted]
      exact List.mem_append_right _ (List.mem_singleton_self _)
    · intro finished
      rw [BothFactors, accepted]
      obtain ⟨⟨use, shown⟩, _⟩ := sound.done finished
      exact ⟨⟨use, List.mem_append_left _ shown⟩, List.mem_append_right _ (List.mem_singleton_self _)⟩
  · have off : auth.authtypes.pubkey = false := by simpa [multi] using more
    rw [AuthState.passwordOk, if_neg more] at accepted ⊢
    obtain ⟨use, shown⟩ := sound.pubkey off
    have both : BothFactors (auth.emitted (.passwordAccepted auth.username)).succeeded := by
      rw [BothFactors, accepted]
      exact ⟨⟨use, List.mem_append_left _ shown⟩, List.mem_append_right _ (List.mem_singleton_self _)⟩
    exact ⟨fun none => absurd none user, sound.account, fun _ => both.1, fun _ => both.2,
      fun _ => both⟩

theorem Factored.keyOk (multi : ctx.opts.multiauthmethod) (sound : Factored ctx auth)
    (user : auth.username ≠ none) (options : PubKeyOptions) (use : KeyUse) :
    Factored ctx (auth.keyOk ctx.opts options use) := by
  have accepted := auth.accepted_keyOk ctx.opts options use
  by_cases more : ctx.opts.multiauthmethod ∧ auth.authtypes.password
  · rw [AuthState.keyOk, if_pos more] at accepted ⊢
    refine ⟨fun none => absurd none user, sound.account, fun _ => ?_, fun off => ?_, ?_⟩
    · exact ⟨use, accepted ▸ List.mem_append_right _ (List.mem_singleton_self _)⟩
    · rw [accepted]
      exact List.mem_append_left _ (sound.password off)
    · intro finished
      rw [BothFactors, accepted]
      obtain ⟨_, given⟩ := sound.done finished
      exact ⟨⟨use, List.mem_append_right _ (List.mem_singleton_self _)⟩,
        List.mem_append_left _ given⟩
  · have off : auth.authtypes.password = false := by simpa [multi] using more
    rw [AuthState.keyOk, if_neg more] at accepted ⊢
    have both : BothFactors
        ((auth.emitted (.signatureVerified auth.username use)).tookOptions options).succeeded := by
      rw [BothFactors, accepted]
      exact ⟨⟨use, List.mem_append_right _ (List.mem_singleton_self _)⟩,
        List.mem_append_left _ (sound.password off)⟩
    exact ⟨fun none => absurd none user, sound.account, fun _ => both.1, fun _ => both.2,
      fun _ => both⟩

/-- Whoever may use the 'none' method has an account that it lets in. -/
theorem blankLogin_of_blankAllowed {pw : Passwd} (account : auth.pw = some pw)
    (allowed : blankAllowed ctx.opts auth) : BlankLogin ctx pw := by
  simp only [blankAllowed, passwordAllowed, AuthState.pwUid, account, Option.map_some,
    Option.getD_some, Option.any_some, Bool.and_eq_true, Bool.not_eq_true', Bool.and_eq_false_iff,
    decide_eq_true_eq, decide_eq_false_iff_not] at allowed
  obtain ⟨⟨allow, _, root⟩, isBlank⟩ := allowed
  refine ⟨allow, ?_, isBlank⟩
  rintro ⟨noRoot, isRoot⟩
  rcases root with noRoot' | notRoot
  · rw [noRoot] at noRoot'
    cases noRoot'
  · exact notRoot isRoot

/-- **One request keeps the invariant.** -/
theorem Factored.requested {beginning : Nat} {ended : Bool} (multi : ctx.opts.multiauthmethod)
    (noBlank : NoBlankLogin ctx) (sound : Factored ctx auth)
    (requested : Requested ctx beginning auth ended auth') : Factored ctx auth' := by
  cases requested with
  | ignored done => exact sound
  | ended notYet => exact sound.bannered
  | @answered entered _ validUser _ payload notYet checked answer =>
    have sound' := sound.bannered.userChecked checked
    have named : validUser = true → entered.username ≠ none := by
      intro valid
      obtain ⟨_, _, _, _, username, _⟩ := checked.valid valid
      rw [username]
      exact Option.some_ne_none _
    cases answer with
    | unchanged => exact sound'
    | abandoned => exact sound'.congr rfl rfl rfl rfl rfl
    | failed incrfail => exact sound'.congr rfl rfl rfl rfl (entered.accepted_failed _ _)
    | rejected => exact sound'.congr rfl rfl rfl rfl (entered.accepted_failed _ _)
    | refused => exact sound'.congr rfl rfl rfl rfl entered.accepted_keyRefused
    | pkOk sigalgo keyblob => exact sound'.congr rfl rfl rfl rfl (entered.accepted_emitted_packet _)
    | password pw password valid account allowed notBlank correct =>
      exact sound'.passwordOk multi (named valid)
    | key options use valid verified =>
      have found : Factored ctx (entered.noted [.found]) := sound'.congr rfl rfl rfl rfl rfl
      exact (found.keyOk multi (named valid) options use).congr rfl rfl rfl rfl rfl
    | blank valid allowed =>
      -- the account that is let in is one that must not exist
      obtain ⟨username, pw, short, plain, name, account, okay⟩ := checked.valid valid
      have known := sound'.account username name
      rw [account] at known
      exact absurd (blankLogin_of_blankAllowed account allowed)
        (noBlank username pw short plain known.symm okay)

/-- Over a session, whoever is let in has both factors. -/
theorem factored_run (multi : ctx.opts.multiauthmethod) (enabled : ctx.opts.noauthpass = false)
    (noBlank : NoBlankLogin ctx) (banner : Option Bytes) (requests : List (Nat × Buffer)) :
    Factored ctx (finalState (runAll (handle ctx) requests (svrAuthinitialise ctx.opts banner))) :=
  runAll_invariant
    (fun request _ sound =>
      sound.requested multi noBlank (recvMsgUserauthRequest_requested request.1 request.2))
    requests (factored_svrAuthinitialise enabled banner)

end

/-! ## Getting in through the 'none' method -/

variable {username : Bytes}

theorem small_nonePayload (short : username.length ≤ maxUsernameLen) :
    username.length + (ascii "none").length + ([] : Bytes).length ≤ 1000 := by
  have : (ascii "none").length = 4 := by decide
  rw [maxUsernameLen] at short
  simp only [List.length_nil]
  omega

/-- A request without a credential. -/
def nonePayload (username : Bytes) (short : username.length ≤ maxUsernameLen) : Buffer :=
  requestPayload username (ascii "none") [] (small_nonePayload short)

/-- Checking the user at the first request, for an account that passes. -/
theorem checkusername_first_okay {ctx : Context} {auth : AuthState} {pw : Passwd}
    (short : username.length ≤ maxUsernameLen) (plain : 0 ∉ username)
    (nobody : auth.username = none) (unfailed : auth.checkusernameFailed = false)
    (known : ctx.system.getpwnam username = some pw) (okay : accountOkay ctx pw) :
    checkusername ctx username auth =
      .ok true { auth with username := some username, pw := some pw } := by
  rw [checkusername_first short plain nobody, checkAccount_apply]
  simp [AuthState.entered, unfailed, known, okay]

/-- An account with a blank password is let in by a single request. -/
theorem handle_nonePayload {ctx : Context} {pw : Passwd} (short : username.length ≤ maxUsernameLen)
    (plain : 0 ∉ username) (enabled : ctx.opts.noauthpass = false)
    (known : ctx.system.getpwnam username = some pw) (okay : accountOkay ctx pw)
    (isBlank : BlankLogin ctx pw) (banner : Option Bytes) :
    ∃ auth, finalState (handle ctx (0, nonePayload username short)
        (svrAuthinitialise ctx.opts banner)) = auth ∧
      auth.authdone ∧ auth.accepted = [.blankAccepted (some username)] := by
  obtain ⟨behind, fields, _⟩ := readRequest_requestPayload (small_nonePayload short)
  change readRequest (nonePayload username short) = _ at fields
  have shown : ∃ shown : AuthState, (svrAuthinitialise ctx.opts banner).bannered = shown ∧
      shown.username = none ∧ shown.checkusernameFailed = false ∧ shown.accepted = [] := by
    refine ⟨_, rfl, ?_⟩
    cases banner <;> exact ⟨rfl, rfl, rfl⟩
  obtain ⟨shown, same, nobody, unfailed, nothing⟩ := shown
  have allowed : blankAllowed ctx.opts { shown with username := some username, pw := some pw } := by
    obtain ⟨allow, root, noPassword⟩ := isBlank
    simp only [blankAllowed, passwordAllowed, AuthState.pwUid, allow, enabled, noPassword,
      Option.map_some, Option.getD_some, Option.any_some, Bool.not_false, Bool.true_and,
      Bool.and_true, decide_true, Bool.not_eq_true', Bool.and_eq_false_iff]
    by_cases noRoot : ctx.opts.norootpass
    · exact .inr (decide_eq_false fun isRoot => root ⟨noRoot, isRoot⟩)
    · exact .inl (Bool.eq_false_iff.2 noRoot)
  have ran : handle ctx (0, nonePayload username short) (svrAuthinitialise ctx.opts banner) =
      .ok () ({ shown with username := some username, pw := some pw } : AuthState).blankOk := by
    rw [handle, recvMsgUserauthRequest, userauthRequest_apply rfl, fields, same]
    dsimp only
    rw [if_neg (by simp), EStateM.bind_of_ok
      (checkusername_first_okay short plain nobody unfailed known okay), dispatchMethod,
      EStateM.get_bind_apply, if_pos rfl, noneRequest, EStateM.get_bind_apply,
      if_pos ⟨rfl, allowed⟩]
    rfl
  refine ⟨_, congrArg finalState ran, rfl, ?_⟩
  rw [finalState_ok, AuthState.accepted_blankOk]
  change shown.accepted ++ _ = _
  rw [nothing, List.nil_append]

/-! ## The two factors -/

/-- **Two factors are required exactly if no account is let in by the 'none'
method.**  With `multiauthmethod` and passwords enabled, every session that
authenticates a user has seen a key and the password of that user, for every
sequence of requests, if and only if there is no account that passes
`checkusername` and has a blank password that `allowblankpass` lets through. -/
theorem bothFactors_iff_noBlankLogin {ctx : Context} (multi : ctx.opts.multiauthmethod)
    (enabled : ctx.opts.noauthpass = false) (banner : Option Bytes) :
    (∀ requests auth,
        finalState (runAll (handle ctx) requests (svrAuthinitialise ctx.opts banner)) = auth →
          auth.authdone → BothFactors auth) ↔
      NoBlankLogin ctx := by
  constructor
  · intro always username pw short plain known okay isBlank
    obtain ⟨auth, ended, done, accepted⟩ :=
      handle_nonePayload short plain enabled known okay isBlank banner
    obtain ⟨_, given⟩ := always [(0, nonePayload username short)] auth
      (by rw [runAll_singleton, ended]) done
    rw [accepted] at given
    cases List.mem_singleton.1 given
  · rintro noBlank requests _ rfl done
    exact (factored_run multi enabled noBlank banner requests).done done

/-- A server that requires two factors, and allows blank passwords or not, with
one account that has a blank password. -/
def blankContext (allowblankpass : Bool) : Context :=
  { plainContext fun _ => some (userAccount []) with
    opts.allowblankpass := allowblankpass
    opts.multiauthmethod := true }

/-- Without `allowblankpass` two factors are required. -/
theorem bothFactors_without_allowblankpass :
    NoBlankLogin (blankContext false) ∧
      ((∀ requests auth,
          finalState (runAll (handle (blankContext false)) requests
            (svrAuthinitialise (blankContext false).opts none)) = auth →
            auth.authdone → BothFactors auth) ↔ NoBlankLogin (blankContext false)) :=
  ⟨(fun _ _ _ _ _ _ isBlank => nomatch isBlank.1), bothFactors_iff_noBlankLogin rfl rfl none⟩

/-- With `allowblankpass` the 'none' method logs the account in without any
factor. -/
theorem no_factor_with_allowblankpass :
    ∃ auth, finalState (runAll (handle (blankContext true))
        [(0, nonePayload (ascii "user") (by decide))]
        (svrAuthinitialise (blankContext true).opts none)) = auth ∧
      auth.authdone ∧ ¬ BothFactors auth := by
  refine ⟨_, rfl, by decide +kernel, ?_⟩
  rintro ⟨_, given⟩
  exact absurd given (by decide +kernel)

end Dropbear.Auth
