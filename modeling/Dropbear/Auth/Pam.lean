/-
# Password authentication with PAM

`svr-authpam.c`, which takes the place of `svr-authpasswd.c` in builds with PAM, and
`recv_msg_userauth_request` for every choice of the methods that are built in.

What the calls of the PAM library return is up to the system, and so is the conversation
that a module leads through the callback: a list of its calls.  The callback is called in
`pam_authenticate` and `pam_acct_mgmt`.
-/

import Dropbear.Auth.ParseOptions
import Dropbear.Auth.Request

namespace Dropbear.Auth

open Program

def pamSuccess : Nat := 0
def pamConvErr : Nat := 19

def transMaxPayloadLen : Nat := 16384

/-! ## What the library does -/

inductive PamStyle where
  | promptEchoOff
  | promptEchoOn
  | errorMsg
  | textInfo
  | unknown
  deriving DecidableEq, Repr

/-- `struct pam_message` -/
structure PamMessage where
  style : PamStyle
  msg : Bytes
  deriving DecidableEq, Repr

/-- One call of the library: the calls of the callback during it, and its result. -/
structure PamCall where
  conversation : List (List PamMessage)
  rc : Nat
  deriving DecidableEq, Repr

/-- The results of the calls in the order in which they are made. -/
structure Pam where
  start : Nat
  setTty : Nat
  setRhost : Nat
  authenticate : PamCall
  acctMgmt : PamCall
  deriving DecidableEq, Repr

/-! ## The conversation -/

structure UserDataS where
  user : Option Bytes
  passwd : Bytes
  deriving DecidableEq, Repr

/-- The message in lower case.  If it ends with ": ", the space is removed. -/
def compareMessage (msg : Bytes) : Bytes :=
  let lower := msg.map toLower
  if lower.length > 2 ∧ lower.drop (lower.length - 2) = ascii ": " then
    lower.take (lower.length - 1)
  else lower

/-- Show a message of the library to the user, if it has a text. -/
def pamBanner (msg : Bytes) : AuthM Unit :=
  let text := ascii "\r\n" ++ msg ++ ascii "\r\n"
  if msg.length = 0 then pure ()
  else if (userauthBanner text).length > transMaxPayloadLen then
    throw (.exit "Bad buf_getwriteptr")
  else sendMsgUserauthBanner text

/-- PAM conversation function - for now we only handle one message.  Returns the result,
the response and what is left of the user's data. -/
def pamConvFunc (userData : UserDataS) :
    List PamMessage → AuthM (Nat × Option Bytes × UserDataS)
  | [message] =>
    let compare := compareMessage message.msg
    match message.style with
    | .promptEchoOff =>
      if compare ≠ ascii "password:" then pure (pamConvErr, none, userData)
      else pure (pamSuccess, some userData.passwd, { userData with passwd := [] })
    | .promptEchoOn =>
      if compare ∉ [ascii "login:", ascii "please enter username:", ascii "username:"] then
        pure (pamConvErr, none, userData)
      else
        match userData.user with
        | none => throw .nullDeref
        | some user => pure (pamSuccess, some user, userData)
    | .errorMsg | .textInfo => do
      pamBanner message.msg
      pure (pamSuccess, none, userData)
    | .unknown => pure (pamConvErr, none, userData)
  | _ => pure (pamConvErr, none, userData)

/-- A call of the library, in which it calls the callback. -/
def converse : UserDataS → List (List PamMessage) → AuthM UserDataS
  | userData, [] => pure userData
  | userData, messages :: rest => do
    let (_, _, userData) ← pamConvFunc userData messages
    converse userData rest

/-! ## Password requests -/

/-- Authentication proper, once the library has been set up. -/
def pamAuthenticate (opts : SvrOpts) (pam : Pam) (validUser : Bool) (userData : UserDataS) :
    AuthM Unit := do
  let userData ← converse userData pam.authenticate.conversation
  if pam.authenticate.rc ≠ pamSuccess then sendMsgUserauthFailure opts false true
  else do
    let _ ← converse userData pam.acctMgmt.conversation
    if pam.acctMgmt.rc ≠ pamSuccess then sendMsgUserauthFailure opts false true
    -- PAM auth succeeded but the username isn't allowed in for another reason
    else if ¬ validUser then sendMsgUserauthFailure opts false true
    else acceptPassword opts

/-- Process a password auth request.  Where the library cannot be set up nothing is sent. -/
def svrAuthPam (ctx : Context) (pam : Pam) (validUser : Bool) (payload : Buffer) :
    AuthM Unit := do
  match ← fromBuffer (readPassword payload) with
  | none => sendMsgUserauthFailure ctx.opts false true
  | some password => do
    let auth ← get
    let userData : UserDataS :=
      { user := auth.username
        passwd := cString password }
    if pam.start ≠ pamSuccess then pure ()
    else if pam.setTty ≠ pamSuccess then pure ()
    else if pam.setRhost ≠ pamSuccess then pure ()
    else pamAuthenticate ctx.opts pam validUser userData

/-! ## Requests -/

/-- How passwords are checked. -/
inductive PasswordAuth where
  | off
  | plain
  | pam
  deriving DecidableEq, Repr

/-- The methods that are built in: `DROPBEAR_SVR_PASSWORD_AUTH` or `DROPBEAR_SVR_PAM_AUTH`,
of which at most one is set, and `DROPBEAR_SVR_PUBKEY_AUTH`. -/
structure Build where
  password : PasswordAuth
  pubkey : Bool
  deriving DecidableEq, Repr

/-- A password request, as far as passwords are built in. -/
def passwordRequest (build : Build) (ctx : Context) (pam : Pam) (validUser : Bool)
    (payload : Buffer) : AuthM Unit :=
  match build.password with
  | .off => sendMsgUserauthFailure ctx.opts false true
  | .plain => svrAuthPassword ctx validUser payload
  | .pam => svrAuthPam ctx pam validUser payload

/-- The part of `recv_msg_userauth_request` that chooses the method. -/
def dispatchBuilt (build : Build) (ctx : Context) (pam : Pam) (validUser : Bool)
    (methodname : Bytes) (beginning : Nat) (payload : Buffer) : AuthM Unit := do
  let auth ← get
  if methodname = ascii "none" then noneRequest ctx.opts validUser
  else if passwordAllowed ctx.opts auth ∧ methodname = ascii "password" then
    passwordRequest build ctx pam validUser payload
  else if build.pubkey ∧ methodname = ascii "publickey" then
    svrAuthPubkey ctx validUser beginning payload
  else sendMsgUserauthFailure ctx.opts false true

/-- A userauth request: where its payload begins, the packet behind the message type, and
what the PAM library does in it. -/
structure BuiltRequest where
  beginning : Nat
  payload : Buffer
  pam : Pam

/-- `recv_msg_userauth_request` in any build. -/
def recvBuilt (build : Build) (ctx : Context) (request : BuiltRequest) : AuthM Unit :=
  userauthRequest ctx (dispatchBuilt build ctx request.pam · · request.beginning ·) request.payload

/-- The default build has passwords without PAM, and public keys. -/
def defaultBuild : Build where
  password := .plain
  pubkey := true

theorem recvBuilt_defaultBuild (ctx : Context) (request : BuiltRequest) :
    recvBuilt defaultBuild ctx request =
      recvMsgUserauthRequest ctx request.beginning request.payload := by
  have dispatch : ∀ validUser methodname payload,
      dispatchBuilt defaultBuild ctx request.pam validUser methodname request.beginning payload =
        dispatchMethod ctx validUser methodname request.beginning payload := by
    intro validUser methodname payload
    simp only [dispatchBuilt, dispatchMethod, passwordRequest, defaultBuild, true_and]
  simp only [recvBuilt, recvMsgUserauthRequest, dispatch]

end Dropbear.Auth
