/-
# User authentication on the server

`svr-auth.c`, `svr-authpasswd.c` and `svr-authpubkey.c` for the default build:
password and public key authentication, without PAM and without plugins.

The functions run in a state monad over the authentication part of the session.
Packets handed to `encrypt_packet` and the delays of failure messages are
recorded in order as events, together with marks, which the program does not
have, at the three places where a credential is accepted.  Another list records
who owns the options of a key, which are a block of memory.  The packet is read
from its buffer, and the account database, the password hash, the
authorized_keys file and the signature check are parameters.
-/

import Dropbear.Auth.AuthorizedKeys
import Dropbear.Packet.Message

namespace Dropbear.Auth

open Program Signkey

def maxUsernameLen : Nat := 100
def dropbearMaxPasswordLen : Nat := 100

/-! ## What the functions read -/

/-- The command line options of the server that user authentication reads. -/
structure SvrOpts where
  noauthpass : Bool
  norootpass : Bool
  norootlogin : Bool
  allowblankpass : Bool
  multiauthmethod : Bool
  maxauthtries : Nat
  restrictGroup : Option Nat
  deriving DecidableEq, Repr

/-- An account, with the password hash that `fill_passwd` chose. -/
structure Passwd where
  pwName : Bytes
  pwUid : Nat
  pwGid : Nat
  pwDir : Bytes
  pwShell : Bytes
  pwPasswd : Bytes
  deriving DecidableEq, Repr

/-- The system the server runs on.  `authorizedKeys` is the content of the
user's file, or nothing where the file is missing or its permissions are bad. -/
structure System where
  getpwnam : Bytes → Option Passwd
  geteuid : Nat
  getgrouplist : Bytes → Nat → Option (List Nat)
  getusershell : List Bytes
  crypt : Bytes → Bytes → Option Bytes
  authorizedKeys : Passwd → Except Exit (Option Bytes)

/-- Everything the authentication functions depend on besides their state. -/
structure Context where
  opts : SvrOpts
  system : System
  crypto : Crypto
  parseOptions : ParseOptions
  sessionId : Option Bytes

/-! ## What they change -/

/-- `authtypes`: the methods still offered. -/
structure AuthTypes where
  pubkey : Bool
  password : Bool
  deriving DecidableEq, Repr

/-- A verified signature: the blob that was looked up, where it ended in the
packet, the key the signature was checked with, where its parser stopped, and
the data that was signed. -/
structure KeyUse where
  keytype : SignkeyType
  keyblob : Bytes
  keyblobEnd : Nat
  key : PubKey
  keyEnd : Nat
  signed : Bytes
  deriving DecidableEq, Repr

/-- What the functions do in the order in which they do it. -/
inductive Event where
  /-- A payload given to `encrypt_packet`. -/
  | packet (payload : Bytes)
  /-- The delay of a failure message. -/
  | delay
  /-- The password of the session's user was presented. -/
  | passwordAccepted (username : Option Bytes)
  /-- A signature by a key authorized for the session's user was verified. -/
  | signatureVerified (username : Option Bytes) (use : KeyUse)
  /-- The session's user, who has a blank password, was let in without credentials. -/
  | blankAccepted (username : Option Bytes)
  deriving DecidableEq, Repr

/-- What becomes of the options that `checkpubkey` gives to a request. -/
inductive BlockEvent where
  | found
  /-- The session takes them. -/
  | taken
  /-- The request calls `svr_pubkey_options_cleanup`. -/
  | freed
  deriving DecidableEq, Repr

/-- `ses.authstate`, and the banner still to be sent. -/
structure AuthState where
  username : Option Bytes
  pw : Option Passwd
  authtypes : AuthTypes
  failcount : Nat
  authdone : Bool
  checkusernameFailed : Bool
  servPubkeyQueryCount : Nat
  pubkeyOptions : Option PubKeyOptions
  banner : Option Bytes
  events : List Event
  blocks : List BlockEvent
  deriving DecidableEq, Repr

/-- `pw_uid`, which is zero as long as no account was found. -/
def AuthState.pwUid (auth : AuthState) : Nat := (auth.pw.map (·.pwUid)).getD 0

def svrAuthinitialise (opts : SvrOpts) (banner : Option Bytes) : AuthState where
  username := none
  pw := none
  authtypes := { pubkey := true, password := !opts.noauthpass }
  failcount := 0
  authdone := false
  checkusernameFailed := false
  servPubkeyQueryCount := 0
  pubkeyOptions := none
  banner := banner
  events := []
  blocks := []

abbrev AuthM := EStateM Exit AuthState

/-- A computation on a buffer, as part of a function of the session. -/
def fromBuffer {α : Type} : Except Exit α → AuthM α
  | .ok value => pure value
  | .error failure => throw failure

/-- Record an event. -/
def emit (event : Event) : AuthM Unit :=
  modify fun auth => { auth with events := auth.events ++ [event] }

def noteBlock (event : BlockEvent) : AuthM Unit :=
  modify fun auth => { auth with blocks := auth.blocks ++ [event] }

/-! ## Answers -/

/-- The list of methods in a failure message. -/
def AuthTypes.names (types : AuthTypes) : Bytes :=
  (if types.pubkey then ascii "publickey" ++ (if types.password then ascii "," else []) else []) ++
    if types.password then ascii "password" else []

def userauthFailure (types : AuthTypes) (isPartial : Bool) : Bytes :=
  msgUserauthFailure.toUInt8 :: be32 types.names.length ++ types.names ++
    [if isPartial then 1 else 0]

def countFailure : AuthM Unit := do
  emit .delay
  modify fun auth => { auth with failcount := u32 (auth.failcount + 1) }

def checkFailcount (opts : SvrOpts) : AuthM Unit := do
  let auth ← get
  if auth.failcount > opts.maxauthtries then
    throw (.exit "Max auth tries reached - user '%s'")
  else pure ()

def sendMsgUserauthFailure (opts : SvrOpts) (isPartial incrfail : Bool) : AuthM Unit := do
  let auth ← get
  emit (.packet (userauthFailure auth.authtypes isPartial))
  if incrfail then countFailure else pure ()
  checkFailcount opts

def sendMsgUserauthSuccess : AuthM Unit := do
  emit (.packet [msgUserauthSuccess.toUInt8])
  modify fun auth => { auth with authdone := true }

def userauthBanner (banner : Bytes) : Bytes :=
  msgUserauthBanner.toUInt8 :: be32 banner.length ++ banner ++ be32 2 ++ ascii "en"

def sendMsgUserauthBanner (banner : Bytes) : AuthM Unit := emit (.packet (userauthBanner banner))

def userauthPkOk (sigalgo keyblob : Bytes) : Bytes :=
  msgUserauthSpecific60.toUInt8 :: be32 sigalgo.length ++ sigalgo ++ be32 keyblob.length ++ keyblob

def sendMsgUserauthPkOk (sigalgo keyblob : Bytes) : AuthM Unit :=
  emit (.packet (userauthPkOk sigalgo keyblob))

/-! ## The user -/

/-- The checks of `checkusername` on an account that exists. -/
def accountOkay (ctx : Context) (pw : Passwd) : Bool :=
  if ¬ ctx.system.geteuid = 0 ∧ ctx.system.geteuid ≠ pw.pwUid then false
  else if ctx.opts.norootlogin ∧ pw.pwUid = 0 then false
  else if ¬ inGroup pw then false
  else decide ((if pw.pwShell = [] then ascii "/bin/sh" else pw.pwShell) ∈ ctx.system.getusershell)
where
  /-- `check_group_membership`, where a group is required. -/
  inGroup (pw : Passwd) : Bool :=
    match ctx.opts.restrictGroup with
    | none => true
    | some gid =>
      match ctx.system.getgrouplist pw.pwName pw.pwGid with
      | none => false
      | some groups => decide (gid ∈ groups)

/-- Fix the user of the session at the first request. -/
def fixUsername (ctx : Context) (username : Bytes) : AuthM Unit := do
  let auth ← get
  match auth.username with
  | none => set { auth with username := some username, pw := ctx.system.getpwnam username }
  | some fixed =>
    if username ≠ fixed then throw (.exit "Client trying multiple usernames") else pure ()

/-- The verdict on the user of the session; a failure is remembered. -/
def checkAccount (ctx : Context) : AuthM Bool := do
  let auth ← get
  if auth.checkusernameFailed then pure false
  else if auth.pw.any (accountOkay ctx) then pure true
  else do
    set { auth with checkusernameFailed := true }
    pure false

def checkusername (ctx : Context) (username : Bytes) : AuthM Bool :=
  if username.length > maxUsernameLen then pure false
  else if 0 ∈ username then throw (.exit "Attempted username with a null byte")
  else do
    fixUsername ctx username
    checkAccount ctx

/-! ## Passwords -/

/-- The password of the account has been presented. -/
def acceptPassword (opts : SvrOpts) : AuthM Unit := do
  let auth ← get
  emit (.passwordAccepted auth.username)
  let auth ← get
  if opts.multiauthmethod ∧ auth.authtypes.pubkey then do
    -- password auth ok, delete the method flag
    set { auth with authtypes := { auth.authtypes with password := false } }
    sendMsgUserauthFailure opts true false
  else sendMsgUserauthSuccess

/-- Compare with the account's password, which is there for a valid user. -/
def checkPassword (ctx : Context) (password : Bytes) : AuthM Unit := do
  let auth ← get
  match auth.pw with
  | none => throw .nullDeref
  | some pw =>
    match ctx.system.crypt (cString password) pw.pwPasswd with
    | none => sendMsgUserauthFailure ctx.opts false true
    | some testcrypt =>
      if pw.pwPasswd = [] then sendMsgUserauthFailure ctx.opts false true
      else if testcrypt = pw.pwPasswd then acceptPassword ctx.opts
      else sendMsgUserauthFailure ctx.opts false true

/-- The password of a request; nothing if it asks for a change of password. -/
def readPassword (payload : Buffer) : Except Exit (Option Bytes) := do
  let (changepw, payload) ← bufGetbool payload
  if changepw then pure none
  else do
    let (password, _) ← bufGetstring payload
    pure (some password)

def svrAuthPassword (ctx : Context) (validUser : Bool) (payload : Buffer) : AuthM Unit := do
  match ← fromBuffer (readPassword payload) with
  | none => sendMsgUserauthFailure ctx.opts false true
  | some password =>
    if ¬ validUser then sendMsgUserauthFailure ctx.opts false true
    else if password.length > dropbearMaxPasswordLen then
      sendMsgUserauthFailure ctx.opts false true
    else checkPassword ctx password

/-! ## Public keys -/

/-- The data that was signed: the session identifier as a string, and the packet
up to the position. -/
def signedData (sessionId : Bytes) (beginning : Nat) (payload : Buffer) :
    Except Exit (Bytes × Buffer) :=
  if beginning > payload.pos then
    .error (.assertion "ses.payload_beginning <= ses.payload->pos")
  else do
    let length := payload.pos - beginning
    let signbuf ← bufNew (payload.pos + 4 + sessionId.length)
    let signbuf ← bufPutstring signbuf sessionId
    let payload ← bufSetpos payload beginning
    let ptr ← bufGetptr payload length
    let bytes ← payload.peek ptr length
    let signbuf ← bufPutbytes signbuf bytes
    let payload ← bufIncrpos payload length
    let signbuf ← bufSetpos signbuf 0
    pure (signbuf.contents, payload)

/-- `sk_flags_mask`: user presence is 1, user verification 4. -/
def skFlagsMask (options : PubKeyOptions) : Nat :=
  (if options.noTouchRequiredFlag then 0 else 1) + (if options.verifyRequiredFlag then 4 else 0)

/-- The label `out`: options that the request still owns are freed. -/
def out : Option PubKeyOptions → AuthM Unit
  | none => pure ()
  | some _ => noteBlock .freed

/-- The session takes the options if it has none.  What the request is left with. -/
def takeOptions (options : PubKeyOptions) : AuthM (Option PubKeyOptions) := do
  let auth ← get
  match auth.pubkeyOptions with
  | none => do
    set { auth with pubkeyOptions := some options }
    noteBlock .taken
    pure none
  | some _ => pure (some options)

/-- The answer to a verified signature. -/
def keyAccepted (opts : SvrOpts) : AuthM Unit := do
  let auth ← get
  if opts.multiauthmethod ∧ auth.authtypes.password then do
    -- pubkey auth ok, delete the method flag
    set { auth with authtypes := { auth.authtypes with pubkey := false } }
    sendMsgUserauthFailure opts true false
  else sendMsgUserauthSuccess

/-- A signature by an authorized key has been verified. -/
def acceptKey (opts : SvrOpts) (options : PubKeyOptions) (use : KeyUse) : AuthM Unit := do
  let auth ← get
  emit (.signatureVerified auth.username use)
  let pubkeyOptions ← takeOptions options
  keyAccepted opts
  out pubkeyOptions

/-- The reads of an attempt with an authorized key, from the blob on: the key,
the data that was signed, and whether the signature is good.  `none` if there is
no key. -/
def verifyRequest (ctx : Context) (options : PubKeyOptions) (sigtype : SignatureType)
    (keyblob : Bytes) (beginning : Nat) (payload : Buffer) :
    Except Exit (Option (KeyUse × Bool)) := do
  let keytype := signkeyTypeFromSignature sigtype
  let (key, behind) ← bufGetPubKey ctx.crypto (some keytype) payload
  match key, ctx.sessionId with
  | none, _ => pure none
  | some _, none => throw .nullDeref
  | some key, some sessionId => do
    let (signed, signature) ← signedData sessionId beginning behind
    let good ← bufVerify ctx.crypto signature key sigtype (skFlagsMask options) signed
    pure (some
      ({ keytype := keytype
         keyblob := keyblob
         keyblobEnd := payload.pos + keyblob.length
         key := key
         keyEnd := behind.pos
         signed := signed }, good))

/-- An attempt to authenticate with an authorized key. -/
def tryKey (ctx : Context) (options : PubKeyOptions) (sigtype : SignatureType) (keyblob : Bytes)
    (beginning : Nat) (payload : Buffer) : AuthM Unit := do
  match ← fromBuffer (verifyRequest ctx options sigtype keyblob beginning payload) with
  | some (use, true) => acceptKey ctx.opts options use
  | _ => do
    sendMsgUserauthFailure ctx.opts false true
    out (some options)

/-- `checkpubkey` for the user of the session. -/
def lookupKey (ctx : Context) (keytype : SignkeyType) (keyblob : Bytes) (account : Option Passwd) :
    Except Exit (Option PubKeyOptions) :=
  match account with
  | none => .error .nullDeref
  | some pw => do
    match ← ctx.system.authorizedKeys pw with
    | none => pure none
    | some file => checkpubkey ctx.parseOptions (signkeyNameFromType keytype) keyblob file

/-- The answer to a key that is not authorized.  The limit of free queries is 0:
the expression that was to give it stands in a statement of its own. -/
def refuseKey (opts : SvrOpts) : AuthM Unit := do
  let auth ← get
  let freeQueryLimit := 0
  sendMsgUserauthFailure opts false (auth.servPubkeyQueryCount > freeQueryLimit)
  modify fun auth => { auth with servPubkeyQueryCount := u32 (auth.servPubkeyQueryCount + 1) }

/-- A request whose signature type is known, from a valid user. -/
def checkKey (ctx : Context) (testkey : Bool) (sigalgo : Bytes) (sigtype : SignatureType)
    (keyblob : Bytes) (beginning : Nat) (payload : Buffer) : AuthM Unit := do
  let auth ← get
  match ← fromBuffer (lookupKey ctx (signkeyTypeFromSignature sigtype) keyblob auth.pw) with
  | none => refuseKey ctx.opts
  | some options => do
    noteBlock .found
    if testkey then do
      sendMsgUserauthPkOk sigalgo keyblob
      out (some options)
    else tryKey ctx options sigtype keyblob beginning payload

/-- The fields of a public key request: whether the key is only to be tested, the
signature algorithm and the key blob, at whose start the position stays. -/
def readKeyRequest (payload : Buffer) : Except Exit (Bool × Bytes × Bytes × Buffer) := do
  let (attempt, payload) ← bufGetbool payload
  let (sigalgo, payload) ← bufGetstring payload
  let (keybloblen, payload) ← bufGetint payload
  let ptr ← bufGetptr payload keybloblen
  let keyblob ← payload.peek ptr keybloblen
  pure (!attempt, sigalgo, keyblob, payload)

def svrAuthPubkey (ctx : Context) (validUser : Bool) (beginning : Nat) (payload : Buffer) :
    AuthM Unit := do
  let (testkey, sigalgo, keyblob, payload) ← fromBuffer (readKeyRequest payload)
  if ¬ validUser then sendMsgUserauthFailure ctx.opts false false
  else
    match signatureTypeFromName sigalgo with
    | none => sendMsgUserauthFailure ctx.opts false false
    | some sigtype => checkKey ctx testkey sigalgo sigtype keyblob beginning payload

/-! ## Requests -/

/-- Whether passwords are taken from the user of the session. -/
def passwordAllowed (opts : SvrOpts) (auth : AuthState) : Bool :=
  !opts.noauthpass && !(opts.norootpass && auth.pwUid = 0)

/-- Whether a request without credentials is enough. -/
def blankAllowed (opts : SvrOpts) (auth : AuthState) : Bool :=
  opts.allowblankpass && passwordAllowed opts auth && auth.pw.any (·.pwPasswd = [])

/-- The 'none' method, which has no failure delay. -/
def noneRequest (opts : SvrOpts) (validUser : Bool) : AuthM Unit := do
  let auth ← get
  if validUser ∧ blankAllowed opts auth then do
    emit (.blankAccepted auth.username)
    sendMsgUserauthSuccess
  else sendMsgUserauthFailure opts false false

def dispatchMethod (ctx : Context) (validUser : Bool) (methodname : Bytes) (beginning : Nat)
    (payload : Buffer) : AuthM Unit := do
  let auth ← get
  if methodname = ascii "none" then noneRequest ctx.opts validUser
  else if passwordAllowed ctx.opts auth ∧ methodname = ascii "password" then
    svrAuthPassword ctx validUser payload
  else if methodname = ascii "publickey" then svrAuthPubkey ctx validUser beginning payload
  else sendMsgUserauthFailure ctx.opts false true

/-- Send the banner if it exists, it will only exist once. -/
def sendBanner : AuthM Unit := do
  let auth ← get
  match auth.banner with
  | none => pure ()
  | some banner => do
    sendMsgUserauthBanner banner
    modify fun auth => { auth with banner := none }

/-- The user, the service and the method of a request. -/
def readRequest (payload : Buffer) : Except Exit (Bytes × Bytes × Bytes × Buffer) := do
  let (username, payload) ← bufGetstring payload
  let (servicename, payload) ← bufGetstring payload
  let (methodname, payload) ← bufGetstring payload
  pure (username, servicename, methodname, payload)

/-- Handle a userauth request.  `dispatch` tries the methods that the server was built with. -/
def userauthRequest (ctx : Context) (dispatch : Bool → Bytes → Buffer → AuthM Unit)
    (payload : Buffer) : AuthM Unit := do
  let auth ← get
  if auth.authdone then pure ()
  else do
    sendBanner
    let (username, servicename, methodname, payload) ← fromBuffer (readRequest payload)
    if servicename ≠ ascii "ssh-connection" then throw (.exit "unknown service in auth")
    else do
      let validUser ← checkusername ctx username
      dispatch validUser methodname payload

/-- `payload` is the packet behind its type, which begins at `beginning`. -/
def recvMsgUserauthRequest (ctx : Context) (beginning : Nat) (payload : Buffer) : AuthM Unit :=
  userauthRequest ctx (dispatchMethod ctx · · beginning ·) payload

/-! ## A small server -/

/-- The account of "user", with this password hash. -/
def userAccount (pwPasswd : Bytes) : Passwd where
  pwName := ascii "user"
  pwUid := 1000
  pwGid := 1000
  pwDir := ascii "/home/user"
  pwShell := ascii "/bin/sh"
  pwPasswd := pwPasswd

/-- A server with the default options and these accounts, on which no password, key or
signature is accepted. -/
def plainContext (getpwnam : Bytes → Option Passwd) : Context where
  opts :=
    { noauthpass := false
      norootpass := false
      norootlogin := false
      allowblankpass := false
      multiauthmethod := false
      maxauthtries := 10
      restrictGroup := none }
  system :=
    { getpwnam := getpwnam
      geteuid := 0
      getgrouplist := fun _ _ => none
      getusershell := [ascii "/bin/sh"]
      crypt := fun _ _ => none
      authorizedKeys := fun _ => .ok none }
  crypto :=
    { eccIsPoint := fun _ _ _ => false
      verify := fun _ _ _ _ _ => .ok false }
  parseOptions := fun _ => none
  sessionId := some []

end Dropbear.Auth
