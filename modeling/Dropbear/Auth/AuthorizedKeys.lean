/-
# The authorized_keys file

`buf_getline` of `dbutil.c`, and `checkpubkey_line` and `checkpubkey` of
`svr-authpubkey.c`.  A line is a key type, a blank, the base64 text of a key and
a comment, possibly with options in front.  The loops over a line run on a
counter that starts at the number of bytes left, of which every round reads one.

Whether the file may be read, and what it contains, comes from the system.  How
the options in front of a key are understood is a parameter.
-/

import Dropbear.Auth.Options
import Dropbear.Signkey.Base64

namespace Dropbear.Auth

open Program Signkey

def minAuthkeysLine : Nat := 10
def maxAuthkeysLine : Nat := 4200

/-- `svr_parse_pubkey_options`: the options text, or its absence, to the options
it denotes, or `none` where it is refused. -/
abbrev ParseOptions := Option Bytes → Option PubKeyOptions

/-! ## Lines -/

/-- The loop of `buf_getline`.  Returns the line, what is left of the file, and
whether the loop ended at the end of the file. -/
def getlineLoop : Bytes → Buffer → Except Exit (Buffer × Bytes × Bool)
  | [], line =>
    if line.pos < line.data.length then .ok (line, [], true)
    else do
      let line ← bufSetlen line 0
      pure (line, [], false)
  | c :: file, line =>
    if line.pos < line.data.length then
      if c = 10 ∨ c = 13 then .ok (line, file, false)
      else do
        let line ← bufPutbyte line c
        getlineLoop file line
    else do
      -- the line is too long: its length is zeroed, and it is ignored
      let line ← bufSetlen line 0
      pure (line, c :: file, false)

/-- Read a line; `none` at the end of the file. -/
def bufGetline (line : Buffer) (file : Bytes) : Except Exit (Option Buffer × Bytes) := do
  let line ← bufSetpos line 0
  let line ← bufSetlen line 0
  let (line, file, eof) ← getlineLoop file line
  if eof ∧ line.pos = 0 then pure (none, file)
  else do
    let line ← bufSetpos line 0
    pure (some line, file)

/-! ## One line -/

/-- Skip leading blanks, and tell whether a comment follows. -/
def skipBlanks : Nat → Buffer → Except Exit (Bool × Buffer)
  | 0, line => .ok (false, line)
  | n + 1, line =>
    if line.pos < line.len then do
      let (c, line) ← bufGetbyte line
      if c = 32 ∨ c = 9 then skipBlanks n line
      else if c = 35 then pure (true, line)
      else do
        let line ← bufDecrpos line 1
        pure (false, line)
    else .ok (false, line)

/-- Find the end of the options; returns their length. -/
def scanOptions : Nat → (quoted escape : Bool) → (optionsLen : Nat) → Buffer →
    Except Exit (Nat × Buffer)
  | 0, _, _, optionsLen, line => .ok (optionsLen, line)
  | n + 1, quoted, escape, optionsLen, line =>
    if line.pos < line.len then do
      let (c, line) ← bufGetbyte line
      if !quoted ∧ (c = 32 ∨ c = 9) then pure (optionsLen, line)
      else
        let escape := !escape && c = 92
        let quoted := if !escape ∧ c = 34 then !quoted else quoted
        scanOptions n quoted escape (optionsLen + 1) line
    else .ok (optionsLen, line)

/-- The length of the field up to the next blank. -/
def scanField : Nat → (len : Nat) → Buffer → Except Exit (Nat × Buffer)
  | 0, len, line => .ok (len, line)
  | n + 1, len, line =>
    if line.pos < line.len then do
      let (c, line) ← bufGetbyte line
      if c = 32 then pure (len, line) else scanField n (len + 1) line
    else .ok (len, line)

/-- Characters allowed in the information handed to the user's program. -/
def infoChar (c : UInt8) : Bool :=
  (48 ≤ c ∧ c ≤ 57) ∨ (65 ≤ c ∧ c ≤ 90) ∨ (97 ≤ c ∧ c ≤ 122) ∨ c ∈ ascii ".,_-+@"

/-- The length of the information after the key, zero if it has other characters. -/
def scanInfo : Nat → (infolen : Nat) → Buffer → Except Exit Nat
  | 0, infolen, _ => .ok infolen
  | n + 1, infolen, line =>
    if line.pos < line.len then do
      let (c, line) ← bufGetbyte line
      if c = 32 then pure infolen
      else if ¬ infoChar c then pure 0
      else scanInfo n (infolen + 1) line
    else .ok infolen

/-- Bytes left in the line. -/
def left (line : Buffer) : Nat := line.len - line.pos

/-- Whether the key type stands at the position.  `none` if the line is too short
for it, a blank and some base64 text. -/
def algoHere (line : Buffer) (algo : Bytes) : Except Exit (Option Bool) :=
  if line.pos + algo.length + 3 > line.len then .ok none
  else do
    let ptr ← bufGetptr line algo.length
    let here ← line.peek ptr algo.length
    pure (some (here = algo))

/-- Look for the key type behind options; returns the options text. -/
def algoBehindOptions (line : Buffer) (algo : Bytes) :
    Except Exit (Option (Option Bytes × Buffer)) := do
  let (isComment, line) ← skipBlanks (left line) line
  if isComment then pure none
  else do
    let optionsStart ← bufGetptr line 1
    let (optionsLen, line) ← scanOptions (left line) false false 0 line
    let optionsBuf ← bufNew optionsLen
    let options ← line.peek optionsStart optionsLen
    let _ ← bufPutbytes optionsBuf options
    match ← algoHere line algo with
    | some true => pure (some (some options, line))
    | _ => pure none

/-- Move to the key type; `none` if the line does not have it. -/
def findAlgo (line : Buffer) (algo : Bytes) : Except Exit (Option (Option Bytes × Buffer)) := do
  match ← algoHere line algo with
  | none => pure none
  | some true => pure (some (none, line))
  | some false => algoBehindOptions line algo

/-- The text of the information after the key. -/
def pubkeyInfo (line : Buffer) : Except Exit (Option Bytes) := do
  let infolen ← scanInfo (left line) 0 line
  if infolen > 0 then do
    let ptr ← bufGetptr line infolen
    let info ← line.peek ptr infolen
    pure (some info)
  else pure none

/-- Compare the base64 text of the line with the key, from the blank behind the
key type on.  The answer has the information that follows the key. -/
def cmpLineKey (line : Buffer) (algo keyblob : Bytes) :
    Except Exit (Option (Option Bytes)) := do
  let (blank, line) ← bufGetbyte line
  if blank ≠ 32 then pure none
  else do
    let pos := line.pos
    let (len, line) ← scanField (left line) 0 line
    let info ← pubkeyInfo line
    -- truncate to base64 data length
    let line ← bufSetpos line pos
    let line ← bufSetlen line (line.pos + len)
    let same ← cmpBase64Key keyblob algo line
    pure (if same then some info else none)

/-- Whether the line authorizes the key, and with which options. -/
def checkpubkeyLine (parse : ParseOptions) (line : Buffer) (algo keyblob : Bytes) :
    Except Exit (Option PubKeyOptions) :=
  if line.len < minAuthkeysLine ∨ line.len > maxAuthkeysLine then .ok none
  else if 0 ∈ line.contents then .ok none
  else do
    match ← findAlgo line algo with
    | none => pure none
    | some (options, line) => do
      let line ← bufIncrpos line algo.length
      match ← cmpLineKey line algo keyblob with
      | none => pure none
      | some info => pure ((parse options).map (fun parsed => { parsed with infoEnv := info }))

/-! ## The file -/

/-- The loop of `checkpubkey`, of which every round reads a line. -/
def checkpubkeyLoop (parse : ParseOptions) (algo keyblob : Bytes) :
    Nat → Buffer → Bytes → Except Exit (Option PubKeyOptions)
  | 0, _, _ => .ok none
  | n + 1, line, file => do
    match ← bufGetline line file with
    | (none, _) => pure none
    | (some line, file) => do
      match ← checkpubkeyLine parse line algo keyblob with
      | some options => pure (some options)
      | none => checkpubkeyLoop parse algo keyblob n line file

/-- Whether the file authorizes the key, and with which options.  Every line read
takes at least one byte of the file, or is the empty one of an over-long line,
which takes the whole line buffer. -/
def checkpubkey (parse : ParseOptions) (algo keyblob : Bytes) (file : Bytes) :
    Except Exit (Option PubKeyOptions) := do
  let line ← bufNew maxAuthkeysLine
  checkpubkeyLoop parse algo keyblob (file.length + 1) line file

end Dropbear.Auth
