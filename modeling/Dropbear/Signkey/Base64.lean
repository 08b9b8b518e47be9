/-
# Comparing a key with its base64 text

The relaxed decoder of libtomcrypt, which skips every character outside the
alphabet, and `cmp_base64_key`, which compares a key blob with the decoded text
of a file.
-/

import Dropbear.Signkey.Basic

namespace Dropbear.Signkey

open Program

/-- `map_base64` on the alphabet.  Padding and all other characters are `none`:
the relaxed decoder skips both. -/
def base64Value (c : UInt8) : Option Nat :=
  if 65 ≤ c ∧ c ≤ 90 then some (c.toNat - 65)
  else if 97 ≤ c ∧ c ≤ 122 then some (c.toNat - 97 + 26)
  else if 48 ≤ c ∧ c ≤ 57 then some (c.toNat - 48 + 52)
  else if c = 43 then some 62
  else if c = 47 then some 63
  else none

/-- The loop of `_base64_decode_internal`: `t` collects six bits for each of the
last `y` characters, and three bytes are written when there are four. -/
def base64Loop (outlen : Nat) : Bytes → (t y : Nat) → (out : Bytes) → Option (Nat × Nat × Bytes)
  | [], t, y, out => some (t, y, out)
  | c :: rest, t, y, out =>
    match base64Value c with
    | none => base64Loop outlen rest t y out
    | some value =>
      if y + 1 = 4 then
        if out.length + 3 > outlen then none
        else
          base64Loop outlen rest 0 0
            (out ++ ofTriple (t * 64 + value))
      else base64Loop outlen rest (t * 64 + value) (y + 1) out
where
  /-- Three bytes of a 24-bit group. -/
  ofTriple (t : Nat) : Bytes := [(t / 2 ^ 16).toUInt8, (t / 2 ^ 8).toUInt8, t.toUInt8]

/-- Decode; `none` stands for an error code. -/
def base64Decode (input : Bytes) (outlen : Nat) : Option Bytes :=
  match base64Loop outlen input 0 0 [] with
  | none => none
  | some (t, y, out) =>
    if y = 0 then some out
    else if y = 1 then none
    else if out.length + y - 1 > outlen then none
    else some (out ++ (base64Loop.ofTriple (t * 64 ^ (4 - y))).take (y - 1))

example : base64Decode (ascii "c3No") 8 = some (ascii "ssh") := by decide

example : base64Decode (ascii "c3NoLQ==") 16 = some (ascii "ssh-") := by decide

/-- Whether the decoded key at the position of `line` is `keyblob`, and is a key
of type `algoname`. -/
def cmpBase64Key (keyblob algoname : Bytes) (line : Buffer) : Except Exit Bool :=
  let len := line.len - line.pos
  if len = 0 then .ok false
  else do
    let decodekey ← bufNew (len * 2)
    let src ← bufGetptr line len
    let text ← line.peek src len
    let dst ← bufGetwriteptr decodekey decodekey.data.length
    match base64Decode text (len * 2) with
    | none => pure false
    | some decoded => do
      let decodekey ← decodekey.poke dst decoded
      let decodekey ← bufIncrlen decodekey decoded.length
      -- compare the keys
      if decoded.length ≠ keyblob.length ∨ decodekey.contents ≠ keyblob then pure false
      else do
        -- ... and also check that the algo specified and the algo in the key
        -- itself match
        let (filealgolen, decodekey) ← bufGetint decodekey
        let ptr ← bufGetptr decodekey filealgolen
        let filealgo ← decodekey.peek ptr filealgolen
        pure (filealgolen = algoname.length ∧ filealgo = algoname)

end Dropbear.Signkey
