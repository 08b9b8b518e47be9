/-
# Parsing the options of an authorized key

`svr_parse_pubkey_options` of `svr-authpubkeyoptions.c`, with `split_address_port` of
`common-runopts.c` and `m_str_to_uint` of `dbutil.c`.  The options are tried in the
order of the source, and the first one whose name stands at the position is read; what
follows it has to be a comma.  The loops run on a counter that starts at the number of
bytes left, of which every round reads one.

Which of the options have an effect depends on the build.  `m_str_to_uint` looks at
`errno` without having cleared it, so whether that is `EINVAL` comes from outside.
-/

import Dropbear.Auth.AuthorizedKeys
import Dropbear.Program.Path

namespace Dropbear.Auth

open Program

/-- The build options that the parser depends on. -/
structure Features where
  svrAgentfwd : Bool
  x11fwd : Bool
  /-- Security keys. -/
  sk : Bool
  deriving DecidableEq, Repr

/-! ## Strings -/

/-- `tolower`, for the "C" locale. -/
def toLower (c : UInt8) : UInt8 := if 65 ≤ c ∧ c ≤ 90 then c + 32 else c

/-- `strncasecmp` with the length of the name, which has no zero byte. -/
def sameIgnoringCase (text name : Bytes) : Bool := text.map toLower = name.map toLower

/-- `isspace`, for the "C" locale. -/
def isSpace (c : UInt8) : Bool := c = 32 ∨ (9 ≤ c ∧ c ≤ 13)

def isDigit (c : UInt8) : Bool := 48 ≤ c ∧ c ≤ 57

def ulongMax : Nat := 2 ^ 64 - 1

def uintMax : Nat := 2 ^ 32 - 1

/-- The number that a string of digits denotes. -/
def ofDigits (digits : Bytes) : Nat := digits.foldl (fun acc c => acc * 10 + (c.toNat - 48)) 0

/-- The sign in front of a number: whether it is negative, and what follows. -/
def splitSign : Bytes → Bool × Bytes
  | 45 :: rest => (true, rest)
  | 43 :: rest => (false, rest)
  | rest => (false, rest)

/-- `strtoul` in base ten: the number and what follows it, or `none` if there is none. -/
def strtoul (str : Bytes) : Option (Nat × Bytes) :=
  let (negative, rest) := splitSign (str.dropWhile isSpace)
  let digits := rest.takeWhile isDigit
  if digits = [] then none
  else if ofDigits digits > ulongMax then some (ulongMax, rest.dropWhile isDigit)
  else
    some (if negative then (ulongMax + 1 - ofDigits digits) % (ulongMax + 1) else ofDigits digits,
      rest.dropWhile isDigit)

/-- `m_str_to_uint`.  `einval` is whether `errno` is `EINVAL`. -/
def mStrToUint (einval : Bool) (str : Bytes) : Option Nat :=
  match strtoul str with
  | none => none
  | some (l, endp) =>
    if endp ≠ [] then none
    else if (l = 0 ∧ einval) ∨ l > uintMax then none
    else some l

/-- The address, if it is not empty. -/
def nonEmpty (addr : Bytes) : Option Bytes := if addr = [] then none else some addr

/-- `split_address_port`: the address and the port, each if there is one. -/
def splitAddressPort (spec : Bytes) : Option (Option Bytes × Option Bytes) :=
  match spec with
  | 91 :: addr =>
    match addr.dropWhile (· ≠ 93) with
    | [] => none
    -- No port part
    | [_] => some (nonEmpty (addr.takeWhile (· ≠ 93)), none)
    | _ :: colon :: port =>
      if colon = 58 then some (nonEmpty (addr.takeWhile (· ≠ 93)), some port) else none
  | addr =>
    match strrchr 58 addr with
    | none => some (nonEmpty addr, none)
    | some colon => some (nonEmpty (addr.take colon), some (addr.drop (colon + 1)))

/-- The entry of a 'permitopen' value. -/
def permitopenEntry (einval : Bool) (spec : Bytes) : Option PermitTCPFwdEntry :=
  match splitAddressPort spec with
  | some (some host, some portstring) =>
    if portstring = ascii "*" then some ⟨some host, pubkeyOptionsAnyPort⟩
    else (mStrToUint einval portstring).map (⟨some host, ·⟩)
  | _ => none

/-- The entry of a 'permitlisten' value: only a plain port is accepted. -/
def permitlistenEntry (einval : Bool) (spec : Bytes) : Option PermitTCPFwdEntry :=
  (mStrToUint einval spec).map (⟨none, ·⟩)

/-! ## Options -/

/-- Whether an option stands at the position; returns the buffer behind its name. -/
def matchOption (optionsBuf : Buffer) (optName : Bytes) : Except Exit (Option Buffer) :=
  if optionsBuf.len - optionsBuf.pos < optName.length then .ok none
  else do
    let ptr ← bufGetptr optionsBuf optName.length
    let here ← optionsBuf.peek ptr optName.length
    if sameIgnoringCase here optName then do
      let optionsBuf ← bufIncrpos optionsBuf optName.length
      pure (some optionsBuf)
    else pure none

/-- What an option does behind its name; `none` is a bad option. -/
abbrev Handler := PubKeyOptions → Buffer → Except Exit (Option (PubKeyOptions × Buffer))

/-- An option without a value. -/
def flagOption (setFlags : PubKeyOptions → PubKeyOptions) : Handler := fun options optionsBuf =>
  .ok (some (setFlags options, optionsBuf))

/-- Read up to a double quote that is not escaped. -/
def readCommand : Nat → (escaped : Bool) → Buffer → Except Exit (Option Buffer)
  | 0, _, _ => .ok none
  | n + 1, escaped, optionsBuf =>
    if optionsBuf.pos < optionsBuf.len then do
      let (c, optionsBuf) ← bufGetbyte optionsBuf
      if !escaped ∧ c = 34 then pure (some optionsBuf)
      else readCommand n (!escaped && c = 92) optionsBuf
    else .ok none

def commandOption : Handler := fun options optionsBuf => do
  let commandStart ← bufGetptr optionsBuf 0
  -- multiple command= options
  if options.forcedCommand.isSome then pure none
  else do
    match ← readCommand (left optionsBuf) false optionsBuf with
    | none => pure none
    | some optionsBuf => do
      let here ← bufGetptr optionsBuf 0
      let command ← optionsBuf.peek commandStart (here - commandStart - 1)
      pure (some ({ options with forcedCommand := some command }, optionsBuf))

/-- Read up to a double quote. -/
def readSpec : Nat → Buffer → Except Exit (Option Buffer)
  | 0, _ => .ok none
  | n + 1, optionsBuf =>
    if optionsBuf.pos < optionsBuf.len then do
      let (c, optionsBuf) ← bufGetbyte optionsBuf
      if c = 34 then pure (some optionsBuf) else readSpec n optionsBuf
    else .ok none

/-- An option with a value that has an entry in a list. -/
def entryOption (entry : Bytes → Option PermitTCPFwdEntry)
    (append : PubKeyOptions → PermitTCPFwdEntry → PubKeyOptions) : Handler :=
  fun options optionsBuf => do
    let start ← bufGetptr optionsBuf 0
    match ← readSpec (left optionsBuf) optionsBuf with
    | none => pure none
    | some optionsBuf => do
      let here ← bufGetptr optionsBuf 0
      let spec ← optionsBuf.peek start (here - start - 1)
      match entry (cString spec) with
      | none => pure none
      | some entry => pure (some (append options entry, optionsBuf))

def appendPermitOpen (options : PubKeyOptions) (entry : PermitTCPFwdEntry) : PubKeyOptions :=
  { options with
    permitOpenDestinations := some (options.permitOpenDestinations.getD [] ++ [entry]) }

def appendPermitListen (options : PubKeyOptions) (entry : PermitTCPFwdEntry) : PubKeyOptions :=
  { options with permitListens := some (options.permitListens.getD [] ++ [entry]) }

/-- The names of the options without a value. -/
inductive FlagName where
  | noPortForwarding
  | noAgentForwarding
  | noX11Forwarding
  | noPty
  | restrict
  | noTouchRequired
  | verifyRequired
  deriving DecidableEq, Repr

def FlagName.text : FlagName → Bytes
  | .noPortForwarding => ascii "no-port-forwarding"
  | .noAgentForwarding => ascii "no-agent-forwarding"
  | .noX11Forwarding => ascii "no-X11-forwarding"
  | .noPty => ascii "no-pty"
  | .restrict => ascii "restrict"
  | .noTouchRequired => ascii "no-touch-required"
  | .verifyRequired => ascii "verify-required"

/-- What is set for an option without a value. -/
def FlagName.set (features : Features) (options : PubKeyOptions) : FlagName → PubKeyOptions
  | .noPortForwarding => { options with noPortForwardingFlag := true }
  | .noAgentForwarding =>
    { options with
      noAgentForwardingFlag := options.noAgentForwardingFlag || features.svrAgentfwd }
  | .noX11Forwarding =>
    { options with noX11ForwardingFlag := options.noX11ForwardingFlag || features.x11fwd }
  | .noPty => { options with noPtyFlag := true }
  | .restrict =>
    { options with
      noPortForwardingFlag := true
      noAgentForwardingFlag := options.noAgentForwardingFlag || features.svrAgentfwd
      noX11ForwardingFlag := options.noX11ForwardingFlag || features.x11fwd
      noPtyFlag := true }
  | .noTouchRequired =>
    { options with noTouchRequiredFlag := options.noTouchRequiredFlag || features.sk }
  | .verifyRequired =>
    { options with verifyRequiredFlag := options.verifyRequiredFlag || features.sk }

def flagEntry (features : Features) (name : FlagName) : Bytes × Handler :=
  (name.text, flagOption fun options => name.set features options)

/-- The options in the order in which they are tried. -/
def optionTable (features : Features) (einval : Bool) : List (Bytes × Handler) :=
  [flagEntry features .noPortForwarding,
    flagEntry features .noAgentForwarding,
    flagEntry features .noX11Forwarding,
    flagEntry features .noPty,
    flagEntry features .restrict,
    (ascii "command=\"", commandOption),
    (ascii "permitopen=\"", entryOption (permitopenEntry einval) appendPermitOpen),
    (ascii "permitlisten=\"", entryOption (permitlistenEntry einval) appendPermitListen),
    flagEntry features .noTouchRequired,
    flagEntry features .verifyRequired]

/-- The first option of the table that stands at the position.  If there is none, what
follows has to be a comma, as behind an option. -/
def firstOption : List (Bytes × Handler) → Handler
  | [], options, optionsBuf => .ok (some (options, optionsBuf))
  | (optName, handle) :: table, options, optionsBuf => do
    match ← matchOption optionsBuf optName with
    | some optionsBuf => handle options optionsBuf
    | none => firstOption table options optionsBuf

/-- The loop of `svr_parse_pubkey_options`. -/
def parseOptionsLoop (table : List (Bytes × Handler)) :
    Nat → PubKeyOptions → Buffer → Except Exit (Option PubKeyOptions)
  | 0, options, _ => .ok (some options)
  | n + 1, options, optionsBuf =>
    if optionsBuf.pos < optionsBuf.len then do
      match ← firstOption table options optionsBuf with
      | none => pure none
      | some (options, optionsBuf) =>
        -- Skip the comma, and move to the next option (or break out if there are no more).
        if optionsBuf.pos < optionsBuf.len then do
          let (c, optionsBuf) ← bufGetbyte optionsBuf
          if c ≠ 44 then pure none else parseOptionsLoop table n options optionsBuf
        else parseOptionsLoop table n options optionsBuf
    else .ok (some options)

/-- Parse pubkey options.  `none` for the buffer is treated as empty, and is returned on
failure. -/
def svrParsePubkeyOptionsBuf (features : Features) (einval : Bool) :
    Option Buffer → Except Exit (Option PubKeyOptions)
  | none => .ok (some {})
  | some optionsBuf => do
    let optionsBuf ← bufSetpos optionsBuf 0
    parseOptionsLoop (optionTable features einval) (left optionsBuf) {} optionsBuf

/-- The buffer that `checkpubkey_line` makes of the options text, and the options that it
denotes. -/
def parseText (features : Features) (einval : Bool) :
    Option Bytes → Except Exit (Option PubKeyOptions)
  | none => svrParsePubkeyOptionsBuf features einval none
  | some text => do
    let optionsBuf ← bufNew text.length
    let optionsBuf ← bufPutbytes optionsBuf text
    svrParsePubkeyOptionsBuf features einval (some optionsBuf)

/-- The parser as `checkpubkey_line` calls it. -/
def parsePubkeyOptions (features : Features) (einval : Bool) : ParseOptions := fun text =>
  (parseText features einval text).toOption.join

end Dropbear.Auth
