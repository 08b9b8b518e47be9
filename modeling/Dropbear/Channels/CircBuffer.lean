/-
# Circular buffers

`circbuffer.c`.  The data area is allocated at the first write.  The functions
assert that the two positions and the number of bytes in use agree.  A buffer is
sound if they do, and every operation keeps it so.
-/

import Dropbear.Buffer.Basic
import Dropbear.Program.Exec
import Dropbear.Program.Ring

namespace Dropbear.Channels

open Program

def maxCbufSize : Nat := 100000000

structure CircBuffer where
  size : Nat
  used : Nat
  readpos : Nat
  writepos : Nat
  data : Option Bytes
  deriving DecidableEq, Repr

def cbufNew (size : Nat) : Except Exit CircBuffer :=
  if size > maxCbufSize then .error (.exit "Bad cbuf size")
  else .ok { size := size, used := 0, readpos := 0, writepos := 0, data := none }

def cbufGetused (cbuf : CircBuffer) : Nat := cbuf.used

def cbufGetavail (cbuf : CircBuffer) : Nat := sub32 cbuf.size cbuf.used

/-- How much can be written to the position without wrapping around. -/
def cbufWritelen (cbuf : CircBuffer) : Except Exit Nat :=
  if ¬ cbuf.used ≤ cbuf.size then .error (.assertion "cbuf->used <= cbuf->size")
  else if cbuf.size = 0 then .error .divByZero
  else if ¬ sub32 (2 * cbuf.size + cbuf.writepos) cbuf.readpos % cbuf.size =
      cbuf.used % cbuf.size then
    .error (.assertion
      "((2*cbuf->size)+cbuf->writepos-cbuf->readpos)%cbuf->size == cbuf->used%cbuf->size")
  else if ¬ sub32 (2 * cbuf.size + cbuf.readpos) cbuf.writepos % cbuf.size =
      sub32 cbuf.size cbuf.used % cbuf.size then
    .error (.assertion
      "((2*cbuf->size)+cbuf->readpos-cbuf->writepos)%cbuf->size == (cbuf->size-cbuf->used)%cbuf->size")
  else if cbuf.used = cbuf.size then .ok 0
  else if cbuf.writepos < cbuf.readpos then .ok (sub32 cbuf.readpos cbuf.writepos)
  else .ok (sub32 cbuf.size cbuf.writepos)

/-- The bytes in use, in the two pieces in which they are stored. -/
def cbufReadptrs (cbuf : CircBuffer) : Except Exit (Bytes × Bytes) :=
  let len1 := min cbuf.used (sub32 cbuf.size cbuf.readpos)
  let len2 := if len1 < cbuf.used then cbuf.used - len1 else 0
  match cbuf.data with
  | none => if len1 + len2 = 0 then .ok ([], []) else .error .nullDeref
  | some data =>
    if cbuf.readpos + len1 > data.length ∨ len2 > data.length then .error .overrun
    else .ok ((data.drop cbuf.readpos).take len1, data.take len2)

/-- `cbuf_writeptr`, and the copy to the address it returns. -/
def cbufPut (cbuf : CircBuffer) (bytes : Bytes) : Except Exit CircBuffer := do
  let room ← cbufWritelen cbuf
  if bytes.length > room then .error (.exit "Bad cbuf write")
  else
    -- lazy allocation
    let data := cbuf.data.getD (List.replicate cbuf.size 0)
    if cbuf.writepos + bytes.length > data.length then .error .overrun
    else .ok { cbuf with data := some (overwrite data cbuf.writepos bytes) }

def cbufIncrwrite (cbuf : CircBuffer) (len : Nat) : Except Exit CircBuffer := do
  let room ← cbufWritelen cbuf
  if len > room then .error (.exit "Bad cbuf write")
  else
    let used := u32 (cbuf.used + len)
    if ¬ used ≤ cbuf.size then .error (.assertion "cbuf->used <= cbuf->size")
    else .ok { cbuf with used := used, writepos := u32 (cbuf.writepos + len) % cbuf.size }

def cbufIncrread (cbuf : CircBuffer) (len : Nat) : Except Exit CircBuffer :=
  if ¬ cbuf.used ≥ len then .error (.assertion "cbuf->used >= len")
  else if cbuf.size = 0 then .error .divByZero
  else .ok
    { cbuf with used := cbuf.used - len, readpos := u32 (cbuf.readpos + len) % cbuf.size }

/-! ## Sound buffers -/

/-- The positions and the number of bytes in use agree. -/
structure CircBuffer.Sound (cbuf : CircBuffer) : Prop where
  nonempty : 0 < cbuf.size
  bounded : cbuf.size ≤ maxCbufSize
  used_le : cbuf.used ≤ cbuf.size
  readpos_lt : cbuf.readpos < cbuf.size
  writepos_eq : cbuf.writepos = (cbuf.readpos + cbuf.used) % cbuf.size
  unallocated : cbuf.data = none → cbuf.used = 0
  allocated : ∀ data, cbuf.data = some data → data.length = cbuf.size

theorem maxCbufSize_eq : maxCbufSize = 100000000 := rfl

/-- The bytes in use, from the read position on and around the end of the data area. -/
def CircBuffer.contents (cbuf : CircBuffer) : Bytes :=
  ring (cbuf.data.getD []) cbuf.readpos cbuf.used

namespace CircBuffer.Sound

variable {cbuf : CircBuffer}

/-- The write position has wrapped around, or not. -/
theorem writepos_cases (sound : cbuf.Sound) :
    cbuf.writepos = cbuf.readpos + cbuf.used ∧ cbuf.readpos + cbuf.used < cbuf.size ∨
      cbuf.writepos + cbuf.size = cbuf.readpos + cbuf.used := by
  have used := sound.used_le
  have readpos := sound.readpos_lt
  have writepos := sound.writepos_eq
  by_cases wraps : cbuf.readpos + cbuf.used < cbuf.size
  · exact .inl ⟨by rw [writepos, Nat.mod_eq_of_lt wraps], wraps⟩
  · right
    rw [writepos, Nat.mod_eq_sub_mod (Nat.le_of_not_lt wraps), Nat.mod_eq_of_lt (by omega)]
    omega

theorem getavail_eq (sound : cbuf.Sound) : cbufGetavail cbuf = cbuf.size - cbuf.used := by
  have bounded := sound.bounded
  rw [maxCbufSize_eq] at bounded
  exact sub32_of_le (by omega) sound.used_le

/-- The distance between the positions is the number of bytes in use. -/
theorem positions_agree (sound : cbuf.Sound) :
    sub32 (2 * cbuf.size + cbuf.writepos) cbuf.readpos % cbuf.size = cbuf.used % cbuf.size ∧
      sub32 (2 * cbuf.size + cbuf.readpos) cbuf.writepos % cbuf.size =
        sub32 cbuf.size cbuf.used % cbuf.size := by
  have bounded := sound.bounded
  have used := sound.used_le
  have readpos := sound.readpos_lt
  rw [maxCbufSize_eq] at bounded
  have distance : ∀ k n, sub32 (2 * cbuf.size + k) n = 2 * cbuf.size + k - n ∨
      ¬ (k < cbuf.size ∧ n < cbuf.size) := by
    intro k n
    by_cases inside : k < cbuf.size ∧ n < cbuf.size
    · exact .inl (sub32_of_le (by omega) (by omega))
    · exact .inr inside
  have avail : sub32 cbuf.size cbuf.used = cbuf.size - cbuf.used := sub32_of_le (by omega) used
  have multiple : ∀ a b k, a = b + k * cbuf.size → a % cbuf.size = b % cbuf.size := by
    rintro a b k rfl
    exact Nat.add_mul_mod_self_right b k cbuf.size
  rcases sound.writepos_cases with ⟨writepos, short⟩ | writepos
  · rw [(distance _ _).resolve_right (by omega), (distance _ _).resolve_right (by omega), avail]
    exact ⟨multiple _ _ 2 (by omega), multiple _ _ 1 (by omega)⟩
  · rw [(distance _ _).resolve_right (by omega), (distance _ _).resolve_right (by omega), avail]
    exact ⟨multiple _ _ 1 (by omega), multiple _ _ 2 (by omega)⟩

/-- **There is room at the write position as long as the buffer is not full.** -/
theorem exists_writelen (sound : cbuf.Sound) :
    ∃ room, cbufWritelen cbuf = .ok room ∧ room ≤ cbuf.size - cbuf.used ∧
      (cbuf.used < cbuf.size → 0 < room) ∧ cbuf.writepos + room ≤ cbuf.size := by
  have bounded := sound.bounded
  have used := sound.used_le
  have readpos := sound.readpos_lt
  have nonempty := sound.nonempty
  rw [maxCbufSize_eq] at bounded
  obtain ⟨forward, backward⟩ := sound.positions_agree
  rw [cbufWritelen, if_neg (not_not.2 used), if_neg (by omega), if_neg (not_not.2 forward),
    if_neg (not_not.2 backward)]
  by_cases full : cbuf.used = cbuf.size
  · rw [if_pos full]
    refine ⟨0, rfl, Nat.zero_le _, by omega, ?_⟩
    rcases sound.writepos_cases with ⟨writepos, short⟩ | writepos <;> omega
  · rw [if_neg full]
    rcases sound.writepos_cases with ⟨writepos, short⟩ | writepos
    · rw [if_neg (by omega), sub32_of_le (by omega) (by omega)]
      exact ⟨_, rfl, by omega, by omega, by omega⟩
    · rw [if_pos (by omega), sub32_of_le (by omega) (by omega)]
      exact ⟨_, rfl, by omega, by omega, by omega⟩

theorem length_contents (sound : cbuf.Sound) : cbuf.contents.length = cbuf.used := by
  cases allocated : cbuf.data with
  | none =>
    rw [CircBuffer.contents, sound.unallocated allocated, ring_zero]
    rfl
  | some data =>
    have size := sound.allocated data allocated
    rw [CircBuffer.contents, allocated]
    exact length_ring (size ▸ sound.used_le)

/-- The two pieces are the bytes in use. -/
theorem exists_readptrs (sound : cbuf.Sound) :
    ∃ first second, cbufReadptrs cbuf = .ok (first, second) ∧ first ++ second = cbuf.contents := by
  have bounded := sound.bounded
  have used := sound.used_le
  have readpos := sound.readpos_lt
  rw [maxCbufSize_eq] at bounded
  have toEnd : sub32 cbuf.size cbuf.readpos = cbuf.size - cbuf.readpos :=
    sub32_of_le (by omega) (by omega)
  rw [cbufReadptrs, toEnd]
  cases allocated : cbuf.data with
  | none =>
    have nothing := sound.unallocated allocated
    refine ⟨[], [], by simp [nothing], ?_⟩
    rw [CircBuffer.contents, nothing, ring_zero]
    rfl
  | some data =>
    have size := sound.allocated data allocated
    have second : (if min cbuf.used (cbuf.size - cbuf.readpos) < cbuf.used then
        cbuf.used - min cbuf.used (cbuf.size - cbuf.readpos) else 0) =
        cbuf.used - min cbuf.used (cbuf.size - cbuf.readpos) := by
      split <;> omega
    rw [second]
    dsimp only
    rw [if_neg (by omega)]
    refine ⟨_, _, rfl, ?_⟩
    have pieces : _ = ring data cbuf.readpos cbuf.used :=
      pieces_eq_ring (by omega) (size.symm ▸ used)
    rw [size] at pieces
    rw [pieces, CircBuffer.contents, allocated]
    rfl

/-- Bytes that fit at the write position are stored there. -/
theorem exists_put (sound : cbuf.Sound) {bytes : Bytes} {room : Nat}
    (writelen : cbufWritelen cbuf = .ok room) (fits : bytes.length ≤ room) :
    ∃ data, cbufPut cbuf bytes = .ok { cbuf with data := some data } ∧
      data.length = cbuf.size ∧
      ring data cbuf.readpos (cbuf.used + bytes.length) = cbuf.contents ++ bytes := by
  have used := sound.used_le
  have readpos := sound.readpos_lt
  obtain ⟨_, same, free, _, inside⟩ := sound.exists_writelen
  cases writelen.symm.trans same
  have size : (cbuf.data.getD (List.replicate cbuf.size 0)).length = cbuf.size := by
    cases allocated : cbuf.data with
    | none => exact List.length_replicate
    | some data => exact sound.allocated data allocated
  have contents : ring (cbuf.data.getD (List.replicate cbuf.size 0)) cbuf.readpos cbuf.used =
      cbuf.contents := by
    cases allocated : cbuf.data with
    | none => rw [CircBuffer.contents, sound.unallocated allocated, ring_zero, ring_zero]
    | some data =>
      rw [CircBuffer.contents, allocated]
      rfl
  rw [cbufPut, writelen, Except.ok_bind, if_neg (by omega)]
  dsimp only
  rw [if_neg (by omega)]
  refine ⟨_, rfl, ?_, ?_⟩
  · rw [length_overwrite, size]
    omega
  · rw [ring_overwrite (by omega) (by omega), contents]
    rcases sound.writepos_cases with ⟨writepos, _⟩ | writepos
    · exact .inl writepos
    · exact .inr ⟨by omega, by omega⟩

/-- With the data area allocated the write position may be advanced. -/
theorem exists_incrwrite (sound : cbuf.Sound) {data : Bytes} (size : data.length = cbuf.size)
    {len room : Nat} (writelen : cbufWritelen cbuf = .ok room) (fits : len ≤ room) :
    ∃ cbuf', cbufIncrwrite { cbuf with data := some data } len = .ok cbuf' ∧ cbuf'.Sound ∧
      cbuf'.size = cbuf.size ∧ cbuf'.used = cbuf.used + len ∧
      cbuf'.contents = ring data cbuf.readpos (cbuf.used + len) := by
  have bounded := sound.bounded
  have used := sound.used_le
  have readpos := sound.readpos_lt
  rw [maxCbufSize_eq] at bounded
  obtain ⟨_, same, free, _, inside⟩ := sound.exists_writelen
  cases writelen.symm.trans same
  have fitsUsed : u32 (cbuf.used + len) = cbuf.used + len := u32_of_lt (by omega)
  have fitsPos : u32 (cbuf.writepos + len) = cbuf.writepos + len := u32_of_lt (by omega)
  have writelen' : cbufWritelen { cbuf with data := some data } = .ok room := writelen
  rw [cbufIncrwrite, writelen', Except.ok_bind, if_neg (by omega)]
  dsimp only
  rw [fitsUsed, fitsPos, if_neg (by omega)]
  refine ⟨_, rfl, ⟨sound.nonempty, sound.bounded, ?_, readpos, ?_, nofun, ?_⟩, rfl, rfl, rfl⟩
  · change cbuf.used + len ≤ cbuf.size
    omega
  · change (cbuf.writepos + len) % cbuf.size = (cbuf.readpos + (cbuf.used + len)) % cbuf.size
    rw [sound.writepos_eq, Nat.mod_add_mod, Nat.add_assoc]
  · rintro _ ⟨⟩
    exact size

/-- Bytes in use may be taken. -/
theorem exists_incrread (sound : cbuf.Sound) {len : Nat} (enough : len ≤ cbuf.used) :
    ∃ cbuf', cbufIncrread cbuf len = .ok cbuf' ∧ cbuf'.Sound ∧ cbuf'.size = cbuf.size ∧
      cbuf'.used = cbuf.used - len ∧ cbuf'.contents = cbuf.contents.drop len := by
  have bounded := sound.bounded
  have used := sound.used_le
  have readpos := sound.readpos_lt
  have nonempty := sound.nonempty
  rw [maxCbufSize_eq] at bounded
  have fits : u32 (cbuf.readpos + len) = cbuf.readpos + len := u32_of_lt (by omega)
  rw [cbufIncrread, if_neg (by omega), if_neg (by omega), fits]
  refine ⟨_, rfl, ⟨nonempty, sound.bounded, ?_, Nat.mod_lt _ nonempty, ?_, ?_, sound.allocated⟩,
    rfl, rfl, ?_⟩
  · change cbuf.used - len ≤ cbuf.size
    omega
  · change cbuf.writepos = ((cbuf.readpos + len) % cbuf.size + (cbuf.used - len)) % cbuf.size
    rw [Nat.mod_add_mod, sound.writepos_eq]
    congr 1
    omega
  · intro missing
    have nothing := sound.unallocated missing
    change cbuf.used - len = 0
    omega
  · change ring (cbuf.data.getD []) ((cbuf.readpos + len) % cbuf.size) (cbuf.used - len) = _
    cases allocated : cbuf.data with
    | none =>
      rw [CircBuffer.contents, sound.unallocated allocated, Nat.zero_sub, ring_zero, ring_zero]
      exact List.drop_nil.symm
    | some data =>
      have size := sound.allocated data allocated
      rw [CircBuffer.contents, allocated, ← size]
      exact ring_advance enough (size.symm ▸ used)

end CircBuffer.Sound

/-- A new buffer is empty. -/
theorem exists_cbufNew {size : Nat} (nonempty : 0 < size) (bounded : size ≤ maxCbufSize) :
    ∃ cbuf, cbufNew size = .ok cbuf ∧ cbuf.Sound ∧ cbuf.size = size ∧ cbuf.used = 0 ∧
      cbuf.contents = [] := by
  rw [cbufNew, if_neg (by omega)]
  refine ⟨_, rfl, ⟨nonempty, bounded, Nat.zero_le _, nonempty, ?_, fun _ => rfl, nofun⟩, rfl, rfl,
    ring_zero _ _⟩
  exact (Nat.zero_mod size).symm

end Dropbear.Channels
