/-
# Length-checked buffers

`buffer.c` keeps every byte string of the program in an allocation with a used
length and a position.  Its functions check their arguments against these two
and end the process when a check fails.  `Buffer` carries what the checks
maintain, so a position beyond the length or a length beyond the allocation
cannot be built.

Pointers handed out by `buf_getptr` and `buf_getwriteptr` are offsets into the
allocation.  The memory accesses made through them are `peek` and `poke`, which
fail with `Exit.overrun` outside the allocation: that an access stays inside is
proved, not built in.
-/

import Dropbear.Program.Bytes
import Dropbear.Program.Exec
import Dropbear.Program.Word

namespace Dropbear

open Program

/-- The ways in which the process can end. -/
inductive Exit where
  /-- `dropbear_exit`: an error, with its log message. -/
  | exit (message : String)
  /-- `dropbear_close`: an orderly end of the session. -/
  | close (message : String)
  /-- A failed `dropbear_assert` or `assert`, with its condition. -/
  | assertion (condition : String)
  /-- A memory access outside its allocation. -/
  | overrun
  /-- A dereference of a null pointer. -/
  | nullDeref
  /-- A division by zero. -/
  | divByZero
  /-- A loop that does not end. -/
  | stuck
  deriving DecidableEq, Repr

/-- The code ends the process itself. -/
def Exit.Regular : Exit → Prop
  | .exit _ | .close _ | .assertion _ => True
  | _ => False

/-- Largest increment accepted by the position and length functions. -/
def bufMaxIncr : Nat := 1000000000

/-- Largest allocation. -/
def bufMaxSize : Nat := 1000000000

/-- Longest string `buf_getstring` returns. -/
def maxStringLen : Nat := 9000

/-- An allocation with its used length and current position. -/
@[ext]
structure Buffer where
  /-- The allocated bytes. -/
  data : Bytes
  /-- How many of them are in use. -/
  len : Nat
  /-- The current position. -/
  pos : Nat
  /-- The position is within the used bytes. -/
  pos_le_len : pos ≤ len
  /-- The used bytes are allocated. -/
  len_le_size : len ≤ data.length
  /-- The allocation is of a permitted size. -/
  size_le_max : data.length ≤ bufMaxSize
  deriving DecidableEq, Repr

namespace Buffer

theorem start_of_bytes (bytes : Bytes) : 0 ≤ bytes.length := Nat.zero_le _

theorem size_of_bytes (bytes : Bytes) : bytes.length ≤ bytes.length := Nat.le_refl _

/-- A buffer of these bytes, of which so many have been read. -/
def ofBytesAt (pos : Nat) (bytes : Bytes) (inside : pos ≤ bytes.length)
    (short : bytes.length ≤ bufMaxSize) : Buffer where
  data := bytes
  len := bytes.length
  pos := pos
  pos_le_len := inside
  len_le_size := size_of_bytes bytes
  size_le_max := short

/-- A buffer of these bytes, of which nothing has been read. -/
def ofBytes (bytes : Bytes) (short : bytes.length ≤ bufMaxSize) : Buffer :=
  ofBytesAt 0 bytes (start_of_bytes bytes) short

theorem start_of_empty (size : Nat) : 0 ≤ (List.replicate size (0 : UInt8)).length := Nat.zero_le _

theorem size_of_empty {size : Nat} (short : size ≤ bufMaxSize) :
    (List.replicate size (0 : UInt8)).length ≤ bufMaxSize := by
  rwa [List.length_replicate]

/-- A cleared buffer of this size. -/
def ofSize (size : Nat) (short : size ≤ bufMaxSize) : Buffer where
  data := List.replicate size 0
  len := 0
  pos := 0
  pos_le_len := Nat.le_refl _
  len_le_size := start_of_empty size
  size_le_max := size_of_empty short

/-- The bytes in use. -/
def contents (buf : Buffer) : Bytes := buf.data.take buf.len

/-- The bytes in use from the current position on. -/
def rest (buf : Buffer) : Bytes := buf.contents.drop buf.pos

theorem rest_ofBytesAt (pos : Nat) (bytes : Bytes) (inside : pos ≤ bytes.length)
    (short : bytes.length ≤ bufMaxSize) :
    (ofBytesAt pos bytes inside short).rest = bytes.drop pos := by
  rw [rest, contents, ofBytesAt, List.take_length]

/-- Load `n` bytes through a pointer into the allocation. -/
def peek (buf : Buffer) (ptr n : Nat) : Except Exit Bytes :=
  if ptr + n > buf.data.length then .error .overrun else .ok ((buf.data.drop ptr).take n)

/-- Store bytes through a pointer into the allocation. -/
def poke (buf : Buffer) (ptr : Nat) (bytes : Bytes) : Except Exit Buffer :=
  if outside : ptr + bytes.length > buf.data.length then .error .overrun
  else
    .ok
      { buf with
        data := overwrite buf.data ptr bytes
        len_le_size := by
          rw [length_overwrite (Nat.le_of_not_lt outside)]
          exact buf.len_le_size
        size_le_max := by
          rw [length_overwrite (Nat.le_of_not_lt outside)]
          exact buf.size_le_max }

end Buffer

/-! ## The functions of the buffer layer -/

/-- Allocate a cleared buffer. -/
def bufNew (size : Nat) : Except Exit Buffer :=
  if big : size > bufMaxSize then .error (.exit "buf->size too big")
  else .ok (.ofSize size (Nat.not_lt.1 big))

/-- Change the allocation, cutting length and position down when it shrinks.
Bytes gained by growing it are not cleared in the source. They lie beyond the
used length, and are taken as zero here. -/
def bufResize (buf : Buffer) (newsize : Nat) : Except Exit Buffer :=
  if big : newsize > bufMaxSize then .error (.exit "buf->size too big")
  else
    have sized : (buf.data.take newsize ++
        List.replicate (newsize - buf.data.length) 0).length = newsize := by
      simp only [List.length_append, List.length_take, List.length_replicate]
      omega
    .ok
      { data := buf.data.take newsize ++ List.replicate (newsize - buf.data.length) 0
        len := min newsize buf.len
        pos := min newsize buf.pos
        pos_le_len := by have := buf.pos_le_len; omega
        len_le_size := by rw [sized]; omega
        size_le_max := by rw [sized]; omega }

/-- Copy the used bytes into a buffer of exactly their size. -/
def bufNewcopy (buf : Buffer) : Except Exit Buffer := do
  let ret ← bufNew buf.len
  let ret ← ret.poke 0 buf.contents
  if fits : buf.len ≤ ret.data.length then
    pure { ret with
      len := buf.len
      pos := 0
      pos_le_len := Nat.zero_le _
      len_le_size := fits }
  else throw .overrun

/-- Set the used length, cutting the position down if needed. -/
def bufSetlen (buf : Buffer) (len : Nat) : Except Exit Buffer :=
  if big : len > buf.data.length then .error (.exit "Bad buf_setlen")
  else
    .ok
      { buf with
        len := len
        pos := min buf.pos len
        pos_le_len := Nat.min_le_right _ _
        len_le_size := by omega }

/-- Extend the used length. -/
def bufIncrlen (buf : Buffer) (incr : Nat) : Except Exit Buffer :=
  if big : incr > bufMaxIncr ∨ u32 (buf.len + incr) > buf.data.length then
    .error (.exit "Bad buf_incrlen")
  else
    .ok
      { buf with
        len := buf.len + incr
        pos_le_len := by have := buf.pos_le_len; omega
        len_le_size := by
          have := buf.len_le_size
          have := buf.size_le_max
          simp only [bufMaxIncr, bufMaxSize, u32] at *
          omega }

/-- Move to a position within the used bytes. -/
def bufSetpos (buf : Buffer) (pos : Nat) : Except Exit Buffer :=
  if big : pos > buf.len then .error (.exit "Bad buf_setpos")
  else .ok { buf with pos := pos, pos_le_len := by omega }

/-- Move forward, extending the used length to the new position if needed. -/
def bufIncrwritepos (buf : Buffer) (incr : Nat) : Except Exit Buffer :=
  if big : incr > bufMaxIncr ∨ u32 (buf.pos + incr) > buf.data.length then
    .error (.exit "Bad buf_incrwritepos")
  else
    .ok
      { buf with
        pos := buf.pos + incr
        len := max buf.len (buf.pos + incr)
        pos_le_len := Nat.le_max_right _ _
        len_le_size := by
          have := buf.pos_le_len
          have := buf.len_le_size
          have := buf.size_le_max
          simp only [bufMaxIncr, bufMaxSize, u32] at *
          omega }

/-- Move forward within the used bytes. -/
def bufIncrpos (buf : Buffer) (incr : Nat) : Except Exit Buffer :=
  if big : incr > bufMaxIncr ∨ u32 (buf.pos + incr) > buf.len then
    .error (.exit "Bad buf_incrpos")
  else
    .ok
      { buf with
        pos := buf.pos + incr
        pos_le_len := by
          have := buf.pos_le_len
          have := buf.len_le_size
          have := buf.size_le_max
          simp only [bufMaxIncr, bufMaxSize, u32] at *
          omega }

/-- A pointer to the current position, from which `len` used bytes may be read. -/
def bufGetptr (buf : Buffer) (len : Nat) : Except Exit Nat :=
  if len > bufMaxIncr ∨ u32 (buf.pos + len) > buf.len then .error (.exit "Bad buf_getptr")
  else .ok buf.pos

/-- A pointer to the current position, to which `len` allocated bytes may be
written. -/
def bufGetwriteptr (buf : Buffer) (len : Nat) : Except Exit Nat :=
  if len > bufMaxIncr ∨ u32 (buf.pos + len) > buf.data.length then
    .error (.exit "Bad buf_getwriteptr")
  else .ok buf.pos

/-- Read one byte. -/
def bufGetbyte (buf : Buffer) : Except Exit (UInt8 × Buffer) :=
  if big : buf.pos ≥ buf.len then .error (.exit "Bad buf_getbyte")
  else
    have inside : buf.pos < buf.data.length := by have := buf.len_le_size; omega
    .ok (buf.data.get ⟨buf.pos, inside⟩, { buf with pos := buf.pos + 1, pos_le_len := by omega })

/-- Read one byte as a truth value. -/
def bufGetbool (buf : Buffer) : Except Exit (Bool × Buffer) := do
  let (byte, buf) ← bufGetbyte buf
  pure (byte != 0, buf)

/-- Write one byte, extending the used length at its end. -/
def bufPutbyte (buf : Buffer) (val : UInt8) : Except Exit Buffer := do
  let buf ← if buf.pos ≥ buf.len then bufIncrlen buf 1 else pure buf
  let buf ← buf.poke buf.pos [val]
  if inside : buf.pos + 1 ≤ buf.len then
    pure { buf with pos := buf.pos + 1, pos_le_len := inside }
  else throw .overrun

/-- Read a big-endian word. -/
def bufGetint (buf : Buffer) : Except Exit (Nat × Buffer) := do
  let ptr ← bufGetptr buf 4
  let bytes ← buf.peek ptr 4
  let buf ← bufIncrpos buf 4
  pure (ofBe bytes, buf)

/-- Write a big-endian word. -/
def bufPutint (buf : Buffer) (val : Nat) : Except Exit Buffer := do
  let ptr ← bufGetwriteptr buf 4
  let buf ← buf.poke ptr (be32 val)
  bufIncrwritepos buf 4

/-- Write bytes, extending the used length if needed. -/
def bufPutbytes (buf : Buffer) (bytes : Bytes) : Except Exit Buffer := do
  let ptr ← bufGetwriteptr buf bytes.length
  let buf ← buf.poke ptr bytes
  bufIncrwritepos buf bytes.length

/-- Write a string with its length in front. -/
def bufPutstring (buf : Buffer) (str : Bytes) : Except Exit Buffer := do
  let buf ← bufPutint buf str.length
  bufPutbytes buf str

/-- Read a string with its length in front. -/
def bufGetstring (buf : Buffer) : Except Exit (Bytes × Buffer) := do
  let (len, buf) ← bufGetint buf
  if len > maxStringLen then throw (.exit "String too long")
  let src ← bufGetptr buf len
  let ret ← buf.peek src len
  let buf ← bufIncrpos buf len
  pure (ret, buf)

/-- Move back. -/
def bufDecrpos (buf : Buffer) (decr : Nat) : Except Exit Buffer :=
  if decr > buf.pos then .error (.exit "Bad buf_decrpos")
  else
    .ok
      { buf with
        pos := buf.pos - decr
        pos_le_len := Nat.le_trans (Nat.sub_le _ _) buf.pos_le_len }

/-- Read a string with its length in front into a buffer of its own. -/
def bufGetstringbuf (buf : Buffer) : Except Exit (Buffer × Buffer) := do
  let (len, buf) ← bufGetint buf
  if len > maxStringLen then throw (.exit "String too long")
  let ret ← bufNew len
  let dst ← bufGetwriteptr ret len
  let src ← bufGetptr buf len
  let bytes ← buf.peek src len
  let ret ← ret.poke dst bytes
  let buf ← bufIncrpos buf len
  let ret ← bufIncrlen ret len
  let ret ← bufSetpos ret 0
  pure (ret, buf)

/-- `BUF_MAX_MPINT`: the longest integer read, in bytes. -/
def bufMaxMpint : Nat := 8240 / 8

/-- Read a multiple precision integer.  Over-long and negative ones are
refused without ending the process. -/
def bufGetmpint (buf : Buffer) : Except Exit (Option Nat × Buffer) := do
  let (len, buf) ← bufGetint buf
  if len = 0 then pure (some 0, buf)
  else if len > bufMaxMpint then pure (none, buf)
  else
    let first ← bufGetptr buf 1
    let sign ← buf.peek first 1
    if sign.any (fun byte => byte ≥ 128) then pure (none, buf)
    else
      let src ← bufGetptr buf len
      let bytes ← buf.peek src len
      let buf ← bufIncrpos buf len
      pure (some (ofBe bytes), buf)

/-- Step over a string with its length in front. -/
def bufEatstring (buf : Buffer) : Except Exit Buffer := do
  let (len, buf) ← bufGetint buf
  bufIncrpos buf len

end Dropbear
