/-
# How a request ends

Each way through a userauth request shows banners, may mark a credential as accepted, and
then sends one message, or ends the session.  The only ways that send no message are those
on which the PAM library cannot be set up.
-/

import Dropbear.Auth.Pam
import Dropbear.Program.Spec

namespace Dropbear.Auth

open Program Signkey

/-! ## Packets -/

/-- The payload of an event that is a packet. -/
def Event.packet? : Event → Option Bytes
  | .packet payload => some payload
  | _ => none

/-- The packets given to `encrypt_packet` so far. -/
def AuthState.packets (auth : AuthState) : List Bytes := auth.events.filterMap Event.packet?

def IsBanner (payload : Bytes) : Prop := payload.head? = some msgUserauthBanner.toUInt8

/-- Nothing but banners has been sent, and no failure has been counted. -/
structure Prepared (auth auth' : AuthState) : Prop where
  banners : ∃ banners, auth'.packets = auth.packets ++ banners ∧ ∀ banner ∈ banners, IsBanner banner
  failcount : auth'.failcount = auth.failcount

/-- The last thing that a request does: it ends the session, or sends a message from a
state in which nothing but banners has been sent for it. -/
inductive Replied (opts : SvrOpts) (auth : AuthState) :
    EStateM.Result Exit AuthState Unit → Prop
  | ended (failure : Exit) (after : AuthState) : Replied opts auth (.error failure after)
  | failed {middle : AuthState} (prepared : Prepared auth middle) (isPartial incrfail : Bool) :
      Replied opts auth (sendMsgUserauthFailure opts isPartial incrfail middle)
  | refused {middle : AuthState} (prepared : Prepared auth middle) :
      Replied opts auth (refuseKey opts middle)
  | succeeded {middle : AuthState} (prepared : Prepared auth middle) :
      Replied opts auth (sendMsgUserauthSuccess middle)
  | pkOk {middle : AuthState} (prepared : Prepared auth middle) (sigalgo keyblob : Bytes) :
      Replied opts auth (sendMsgUserauthPkOk sigalgo keyblob middle)
  /-- After the message the request frees the options it has. -/
  | cleaned {after : AuthState} (replied : Replied opts auth (.ok () after)) :
      Replied opts auth (.ok () (after.noted [.freed]))

section

variable {auth auth' auth'' : AuthState} {ctx : Context} {opts : SvrOpts}

theorem Prepared.of_packets (same : auth'.packets = auth.packets)
    (failcount : auth'.failcount = auth.failcount) : Prepared auth auth' :=
  ⟨⟨[], by rw [same, List.append_nil], nofun⟩, failcount⟩

theorem Prepared.refl (auth : AuthState) : Prepared auth auth := .of_packets rfl rfl

theorem Prepared.trans (first : Prepared auth auth') (second : Prepared auth' auth'') :
    Prepared auth auth'' := by
  obtain ⟨⟨banners, sent, all⟩, failcount⟩ := first
  obtain ⟨⟨banners', sent', all'⟩, failcount'⟩ := second
  refine ⟨⟨banners ++ banners', ?_, fun banner isIn => ?_⟩, failcount'.trans failcount⟩
  · rw [sent', sent, List.append_assoc]
  · rcases List.mem_append.1 isIn with isIn | isIn
    · exact all banner isIn
    · exact all' banner isIn

theorem Prepared.replied (first : Prepared auth auth')
    {result : EStateM.Result Exit AuthState Unit} (second : Replied opts auth' result) :
    Replied opts auth result := by
  induction second with
  | ended failure after => exact .ended failure after
  | failed prepared isPartial incrfail => exact .failed (first.trans prepared) isPartial incrfail
  | refused prepared => exact .refused (first.trans prepared)
  | succeeded prepared => exact .succeeded (first.trans prepared)
  | pkOk prepared sigalgo keyblob => exact .pkOk (first.trans prepared) sigalgo keyblob
  | cleaned _ ih => exact .cleaned ih

/-- The label `out` comes after the reply. -/
theorem Replied.out {run : AuthM Unit} (replied : Replied opts auth (run auth'))
    (kept : Option PubKeyOptions) :
    Replied opts auth ((run >>= fun _ => Auth.out kept) auth') := by
  cases ran : run auth' with
  | ok value after =>
    rw [ran] at replied
    rw [EStateM.bind_of_ok ran]
    cases kept with
    | none => exact replied
    | some options => exact .cleaned replied
  | error failure after =>
    rw [EStateM.bind_of_error ran]
    exact .ended failure after

/-- Whatever prepares comes before the reply. -/
theorem Replied.of_bind {α : Type} {first : AuthM α} {next : α → AuthM Unit}
    (start : Ends (fun _ => Prepared auth) (fun _ _ => True) (first auth))
    (rest : ∀ value middle, Replied opts middle (next value middle)) :
    Replied opts auth ((first >>= next) auth) := by
  cases ran : first auth with
  | ok value middle =>
    rw [ran] at start
    rw [EStateM.bind_of_ok ran]
    exact start.replied (rest value middle)
  | error failure after =>
    rw [EStateM.bind_of_error ran]
    exact .ended failure after

/-- What is read from the packet does not change the state. -/
theorem Replied.of_read {α : Type} {read : Except Exit α} {next : α → AuthM Unit}
    (rest : ∀ value, read = .ok value → Replied opts auth (next value auth)) :
    Replied opts auth ((fromBuffer read >>= next) auth) := by
  cases result : read with
  | ok value => exact rest value result
  | error failure => exact .ended failure auth

theorem Replied.failure (isPartial incrfail : Bool) :
    Replied opts auth (sendMsgUserauthFailure opts isPartial incrfail auth) :=
  .failed (.refl auth) isPartial incrfail

/-! ## Methods -/

theorem prepared_banner (banner : Bytes) :
    Prepared auth (auth.emitted (.packet (userauthBanner banner))) := by
  refine ⟨⟨[userauthBanner banner], ?_, fun other isIn => ?_⟩, rfl⟩
  · change (auth.events ++ [_]).filterMap _ = _
    rw [List.filterMap_append]
    rfl
  · rw [List.mem_singleton.1 isIn]
    rfl

theorem prepared_mark {event : Event} (isMark : event.isMark) :
    Prepared auth (auth.emitted event) := by
  refine .of_packets ?_ rfl
  change (auth.events ++ [event]).filterMap _ = _
  rw [List.filterMap_append]
  cases event with
  | packet payload => cases isMark
  | delay => cases isMark
  | passwordAccepted username => exact List.append_nil _
  | signatureVerified username use => exact List.append_nil _
  | blankAccepted username => exact List.append_nil _

theorem replied_acceptPassword : Replied opts auth (acceptPassword opts auth) := by
  have marked : Prepared auth (auth.emitted (.passwordAccepted auth.username)) := prepared_mark rfl
  change Replied opts _ ((if opts.multiauthmethod ∧ auth.authtypes.pubkey then _ else _ :
    AuthM Unit) (auth.emitted (.passwordAccepted auth.username)))
  split
  · have struck : Prepared auth
        { auth.emitted (.passwordAccepted auth.username) with
          authtypes := { auth.authtypes with password := false } } :=
      ⟨marked.banners, marked.failcount⟩
    exact Replied.failed struck true false
  · exact .succeeded marked

theorem replied_keyAccepted : Replied opts auth (keyAccepted opts auth) := by
  rw [keyAccepted, EStateM.get_bind_apply]
  split
  · have struck : Prepared auth
        { auth with authtypes := { auth.authtypes with pubkey := false } } := .of_packets rfl rfl
    exact Replied.failed struck true false
  · exact .succeeded (.refl auth)

theorem replied_acceptKey (options : PubKeyOptions) (use : KeyUse) :
    Replied opts auth (acceptKey opts options use auth) := by
  have marked : Prepared auth
      ((auth.emitted (.signatureVerified auth.username use)).tookOptions options) := by
    have marked : Prepared auth (auth.emitted (.signatureVerified auth.username use)) :=
      prepared_mark rfl
    exact ⟨marked.banners, marked.failcount⟩
  change Replied opts auth ((takeOptions options >>= fun kept => keyAccepted opts >>= fun _ =>
    out kept) (auth.emitted (.signatureVerified auth.username use)))
  rw [EStateM.bind_of_ok (takeOptions_apply _ _)]
  exact (marked.replied replied_keyAccepted).out _

theorem replied_checkPassword (password : Bytes) :
    Replied ctx.opts auth (checkPassword ctx password auth) := by
  rw [checkPassword, EStateM.get_bind_apply]
  cases auth.pw with
  | none => exact .ended .nullDeref auth
  | some pw =>
    dsimp only
    cases ctx.system.crypt (cString password) pw.pwPasswd with
    | none => exact .failure false true
    | some testcrypt =>
      dsimp only
      split
      · exact .failure false true
      · split
        · exact replied_acceptPassword
        · exact .failure false true

theorem replied_svrAuthPassword (validUser : Bool) (payload : Buffer) :
    Replied ctx.opts auth (svrAuthPassword ctx validUser payload auth) := by
  refine .of_read fun offered _ => ?_
  cases offered with
  | none => exact .failure false true
  | some password =>
    dsimp only
    split
    · exact .failure false true
    · split
      · exact .failure false true
      · exact replied_checkPassword password

theorem replied_svrAuthPubkey (validUser : Bool) (beginning : Nat) (payload : Buffer) :
    Replied ctx.opts auth (svrAuthPubkey ctx validUser beginning payload auth) := by
  refine .of_read fun request _ => ?_
  obtain ⟨testkey, sigalgo, keyblob, blob⟩ := request
  dsimp only
  split
  · exact .failure false false
  · cases signatureTypeFromName sigalgo with
    | none => exact .failure false false
    | some sigtype =>
      dsimp only
      rw [checkKey, EStateM.get_bind_apply]
      refine .of_read fun found _ => ?_
      cases found with
      | none => exact .refused (.refl auth)
      | some options =>
        have found : Prepared auth (auth.noted [.found]) := .of_packets rfl rfl
        apply found.replied
        change Replied ctx.opts (auth.noted [.found])
          ((if testkey then _ else _ : AuthM Unit) (auth.noted [.found]))
        split
        · exact (Replied.pkOk (.refl _) sigalgo keyblob).out (some options)
        · refine .of_read fun checked _ => ?_
          rcases checked with _ | ⟨use, _ | _⟩
          · exact (Replied.failure false true).out (some options)
          · exact (Replied.failure false true).out (some options)
          · exact replied_acceptKey options use

theorem replied_noneRequest (validUser : Bool) :
    Replied opts auth (noneRequest opts validUser auth) := by
  rw [noneRequest, EStateM.get_bind_apply]
  split
  · have marked : Prepared auth (auth.emitted (.blankAccepted auth.username)) := prepared_mark rfl
    exact .succeeded marked
  · exact .failure false false

/-! ## PAM -/

/-- A message to the user is shown as a banner. -/
theorem prepared_pamBanner (msg : Bytes) :
    Ends (fun _ => Prepared auth) (fun _ _ => True) (pamBanner msg auth) := by
  rw [pamBanner]
  split
  · exact .refl auth
  · split
    · trivial
    · exact prepared_banner _

theorem prepared_pamConvFunc (userData : UserDataS) (messages : List PamMessage) :
    Ends (fun _ => Prepared auth) (fun _ _ => True) (pamConvFunc userData messages auth) := by
  match messages with
  | [] => exact .refl auth
  | _ :: _ :: _ => exact .refl auth
  | [⟨.promptEchoOff, msg⟩] =>
    rw [pamConvFunc]
    dsimp only
    split <;> exact .refl auth
  | [⟨.promptEchoOn, msg⟩] =>
    rw [pamConvFunc]
    dsimp only
    split
    · exact .refl auth
    · cases userData.user with
      | none => trivial
      | some user => exact .refl auth
  | [⟨.errorMsg, msg⟩] => exact (prepared_pamBanner msg).andReturn _
  | [⟨.textInfo, msg⟩] => exact (prepared_pamBanner msg).andReturn _
  | [⟨.unknown, msg⟩] => exact .refl auth

theorem prepared_converse (userData : UserDataS) (conversation : List (List PamMessage)) :
    Ends (fun _ => Prepared auth) (fun _ _ => True) (converse userData conversation auth) := by
  induction conversation generalizing userData auth with
  | nil => exact .refl auth
  | cons messages rest ih =>
    refine (prepared_pamConvFunc userData messages).bind fun result middle shown => ?_
    exact (ih result.2.2).mono fun _ _ => shown.trans

theorem replied_pamAuthenticate (opts : SvrOpts) (pam : Pam) (validUser : Bool)
    (userData : UserDataS) :
    Replied opts auth (pamAuthenticate opts pam validUser userData auth) := by
  refine .of_bind (prepared_converse userData _) fun userData middle => ?_
  split
  · exact .failure false true
  · refine .of_bind (prepared_converse userData _) fun _ middle' => ?_
    split
    · exact .failure false true
    · split
      · exact .failure false true
      · exact replied_acceptPassword

/-- The library could be set up. -/
def PamReady (pam : Pam) : Prop :=
  pam.start = pamSuccess ∧ pam.setTty = pamSuccess ∧ pam.setRhost = pamSuccess

theorem replied_svrAuthPam {pam : Pam} (validUser : Bool) {payload : Buffer}
    (ready : (∃ password, readPassword payload = .ok (some password)) → PamReady pam) :
    Replied ctx.opts auth (svrAuthPam ctx pam validUser payload auth) := by
  refine Replied.of_read fun offered read => ?_
  cases offered with
  | none => exact .failure false true
  | some password =>
    obtain ⟨start, setTty, setRhost⟩ := ready ⟨password, read⟩
    dsimp only
    rw [EStateM.get_bind_apply, if_neg (not_not.2 start), if_neg (not_not.2 setTty),
      if_neg (not_not.2 setRhost)]
    exact replied_pamAuthenticate ctx.opts pam validUser _

/-- Nothing is sent where the library cannot be set up. -/
theorem svrAuthPam_of_not_ready {pam : Pam} (validUser : Bool)
    {payload : Buffer} {password : Bytes} (read : readPassword payload = .ok (some password))
    (notReady : ¬ PamReady pam) : svrAuthPam ctx pam validUser payload auth = .ok () auth := by
  rw [svrAuthPam, read, EStateM.bind_of_ok (fromBuffer_ok _ _)]
  dsimp only
  rw [EStateM.get_bind_apply]
  split
  · rfl
  case _ start =>
    split
    · rfl
    case _ setTty =>
      split
      · rfl
      case _ setRhost =>
        exact absurd ⟨not_not.1 start, not_not.1 setTty, not_not.1 setRhost⟩ notReady

/-! ## Requests -/

theorem prepared_bannered (auth : AuthState) : Prepared auth auth.bannered := by
  rw [AuthState.bannered]
  cases auth.banner with
  | none => exact .refl auth
  | some banner =>
    have shown : Prepared auth (auth.emitted (.packet (userauthBanner banner))) :=
      prepared_banner banner
    exact ⟨shown.banners, shown.failcount⟩

theorem UserChecked.prepared {validUser : Bool} (checked : UserChecked ctx auth auth' validUser) :
    Prepared auth auth' := by
  rw [checked.others]
  exact ⟨(Prepared.refl auth).banners, rfl⟩

/-- Up to the choice of the method. -/
theorem prepared_of_checkusername {username : Bytes} {validUser : Bool} {checked : AuthState}
    (ran : checkusername ctx username auth.bannered = .ok validUser checked) :
    Prepared auth checked := by
  rcases checkusername_spec username with ⟨validUser', auth', ran', isChecked⟩ | ⟨failure, ran'⟩
  · rw [ran] at ran'
    cases ran'
    exact (prepared_bannered auth).trans isChecked.prepared
  · rw [ran] at ran'
    cases ran'

theorem replied_dispatchBuilt {build : Build} {pam : Pam} (validUser : Bool) {methodname : Bytes}
    {beginning : Nat} {payload : Buffer}
    (ready : build.password = .pam → passwordAllowed ctx.opts auth →
      methodname = ascii "password" →
      (∃ password, readPassword payload = .ok (some password)) → PamReady pam) :
    Replied ctx.opts auth (dispatchBuilt build ctx pam validUser methodname beginning payload auth) := by
  rw [dispatchBuilt, EStateM.get_bind_apply]
  split
  · exact replied_noneRequest validUser
  · split
    case _ isPassword =>
      rw [passwordRequest]
      cases built : build.password with
      | off => exact .failure false true
      | plain => exact replied_svrAuthPassword validUser payload
      | pam => exact replied_svrAuthPam validUser (ready built isPassword.1 isPassword.2)
    · split
      · exact replied_svrAuthPubkey validUser beginning payload
      · exact .failure false true

/-- The request is a password request that gets to the PAM library. -/
def AsksPam (build : Build) (ctx : Context) (request : BuiltRequest) (auth : AuthState) : Prop :=
  build.password = .pam ∧ auth.authdone = false ∧
    ∃ username payload validUser checked,
      readRequest request.payload =
        .ok (username, ascii "ssh-connection", ascii "password", payload) ∧
      checkusername ctx username auth.bannered = .ok validUser checked ∧
      passwordAllowed ctx.opts checked ∧
      ∃ password, readPassword payload = .ok (some password)

theorem replied_recvBuilt {build : Build} {request : BuiltRequest}
    (notYet : auth.authdone = false) (ready : AsksPam build ctx request auth → PamReady request.pam) :
    Replied ctx.opts auth (recvBuilt build ctx request auth) := by
  rw [recvBuilt, userauthRequest_apply notYet]
  refine (prepared_bannered auth).replied ?_
  cases read : readRequest request.payload with
  | error failure => exact .ended failure _
  | ok fields =>
    obtain ⟨username, servicename, methodname, payload⟩ := fields
    dsimp only
    split
    · exact .ended _ _
    case _ service =>
      rcases checkusername_spec username with ⟨validUser, auth', ran, checked⟩ | ⟨failure, ran⟩
      · rw [EStateM.bind_of_ok ran]
        refine checked.prepared.replied (replied_dispatchBuilt validUser fun isPam allowed => ?_)
        rintro rfl fields
        rw [not_not.1 service] at read
        exact ready ⟨isPam, notYet, username, payload, validUser, auth', read, ran, allowed, fields⟩
      · rw [EStateM.bind_of_error ran]
        exact .ended failure _

end

end Dropbear.Auth
