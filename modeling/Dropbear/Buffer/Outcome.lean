/-
# When a buffer function returns, and with what

One characterization per function: it returns exactly under its check, and the
returned buffer is known field by field.  The 32-bit sums in the checks never
wrap, because a buffer is at most `bufMaxSize` long and an increment beyond
`bufMaxIncr` is refused first, so the characterizations speak of exact sums.
Callers use these statements and do not unfold the functions again.
-/

import Dropbear.Buffer.Basic
import Dropbear.Program.Spec

namespace Dropbear

open Program

variable {buf buf' : Buffer}

/-- A length is a valid size, and so is a position. -/
theorem Buffer.len_le_max (buf : Buffer) : buf.len ≤ bufMaxSize :=
  Nat.le_trans buf.len_le_size buf.size_le_max

theorem Buffer.pos_le_max (buf : Buffer) : buf.pos ≤ bufMaxSize :=
  Nat.le_trans buf.pos_le_len buf.len_le_max

@[simp]
theorem Buffer.length_contents (buf : Buffer) : buf.contents.length = buf.len := by
  simp [Buffer.contents, buf.len_le_size]

variable {incr : Nat}

/-- The 32-bit sum of a valid size and an accepted increment is exact. -/
theorem u32_add_of_le {base : Nat} (valid : base ≤ bufMaxSize) (accepted : incr ≤ bufMaxIncr) :
    u32 (base + incr) = base + incr := by
  apply u32_of_lt
  simp only [bufMaxSize, bufMaxIncr] at valid accepted
  omega

/-- The common form of the increment checks: refused when the increment is huge
or the sum passes the limit. -/
theorem incr_refused_iff {base limit : Nat} (valid : base ≤ bufMaxSize) :
    (incr > bufMaxIncr ∨ u32 (base + incr) > limit) ↔
      ¬ (incr ≤ bufMaxIncr ∧ base + incr ≤ limit) := by
  by_cases accepted : incr ≤ bufMaxIncr
  · rw [u32_add_of_le valid accepted]
    omega
  · omega

/-! ## Memory accesses -/

variable {ptr : Nat} {bytes : Bytes}

theorem Buffer.peek_eq_ok {n : Nat} :
    buf.peek ptr n = .ok bytes ↔
      ptr + n ≤ buf.data.length ∧ bytes = (buf.data.drop ptr).take n := by
  rw [Buffer.peek, Except.checked_eq_ok, Nat.not_lt]

theorem Buffer.poke_eq_ok :
    buf.poke ptr bytes = .ok buf' ↔
      ptr + bytes.length ≤ buf.data.length ∧ buf'.data = overwrite buf.data ptr bytes ∧
        buf'.len = buf.len ∧ buf'.pos = buf.pos := by
  rw [Buffer.poke, Except.guarded_eq_ok]
  simp only [Buffer.ext_iff, Nat.not_lt, gt_iff_lt, exists_prop, eq_comm]

/-! ## Allocation, length and position -/

theorem bufNew_eq_ok {size : Nat} :
    bufNew size = .ok buf ↔
      size ≤ bufMaxSize ∧ buf.data = List.replicate size 0 ∧ buf.len = 0 ∧ buf.pos = 0 := by
  rw [bufNew, Except.guarded_eq_ok]
  simp only [Buffer.ext_iff, Buffer.ofSize, Nat.not_lt, gt_iff_lt, exists_prop, eq_comm]

theorem bufResize_eq_ok {newsize : Nat} :
    bufResize buf newsize = .ok buf' ↔
      newsize ≤ bufMaxSize ∧
        buf'.data = buf.data.take newsize ++ List.replicate (newsize - buf.data.length) 0 ∧
        buf'.len = min newsize buf.len ∧ buf'.pos = min newsize buf.pos := by
  rw [bufResize, Except.guarded_eq_ok]
  simp only [Buffer.ext_iff, Nat.not_lt, gt_iff_lt, exists_prop, eq_comm]

variable {len : Nat}

theorem bufSetlen_eq_ok :
    bufSetlen buf len = .ok buf' ↔
      len ≤ buf.data.length ∧ buf'.data = buf.data ∧ buf'.len = len ∧ buf'.pos = min buf.pos len := by
  rw [bufSetlen, Except.guarded_eq_ok]
  simp only [Buffer.ext_iff, Nat.not_lt, gt_iff_lt, exists_prop, eq_comm]

theorem bufSetpos_eq_ok {pos : Nat} :
    bufSetpos buf pos = .ok buf' ↔
      pos ≤ buf.len ∧ buf'.data = buf.data ∧ buf'.len = buf.len ∧ buf'.pos = pos := by
  rw [bufSetpos, Except.guarded_eq_ok]
  simp only [Buffer.ext_iff, Nat.not_lt, gt_iff_lt, exists_prop, eq_comm]

theorem bufIncrlen_eq_ok :
    bufIncrlen buf incr = .ok buf' ↔
      (incr ≤ bufMaxIncr ∧ buf.len + incr ≤ buf.data.length) ∧
        buf'.data = buf.data ∧ buf'.len = buf.len + incr ∧ buf'.pos = buf.pos := by
  rw [bufIncrlen, Except.guarded_eq_ok]
  simp only [Buffer.ext_iff, incr_refused_iff buf.len_le_max, not_not, exists_prop, eq_comm]

theorem bufIncrpos_eq_ok :
    bufIncrpos buf incr = .ok buf' ↔
      (incr ≤ bufMaxIncr ∧ buf.pos + incr ≤ buf.len) ∧
        buf'.data = buf.data ∧ buf'.len = buf.len ∧ buf'.pos = buf.pos + incr := by
  rw [bufIncrpos, Except.guarded_eq_ok]
  simp only [Buffer.ext_iff, incr_refused_iff buf.pos_le_max, not_not, exists_prop, eq_comm]

theorem bufIncrwritepos_eq_ok :
    bufIncrwritepos buf incr = .ok buf' ↔
      (incr ≤ bufMaxIncr ∧ buf.pos + incr ≤ buf.data.length) ∧
        buf'.data = buf.data ∧ buf'.len = max buf.len (buf.pos + incr) ∧
          buf'.pos = buf.pos + incr := by
  rw [bufIncrwritepos, Except.guarded_eq_ok]
  simp only [Buffer.ext_iff, incr_refused_iff buf.pos_le_max, not_not, exists_prop, eq_comm]

theorem bufGetptr_eq_ok :
    bufGetptr buf len = .ok ptr ↔
      (len ≤ bufMaxIncr ∧ buf.pos + len ≤ buf.len) ∧ ptr = buf.pos := by
  rw [bufGetptr, Except.checked_eq_ok, incr_refused_iff buf.pos_le_max, not_not]

theorem bufGetwriteptr_eq_ok :
    bufGetwriteptr buf len = .ok ptr ↔
      (len ≤ bufMaxIncr ∧ buf.pos + len ≤ buf.data.length) ∧ ptr = buf.pos := by
  rw [bufGetwriteptr, Except.checked_eq_ok, incr_refused_iff buf.pos_le_max, not_not]

/-! ## Bytes, words and strings -/

theorem bufGetbyte_eq_ok {byte : UInt8} :
    bufGetbyte buf = .ok (byte, buf') ↔
      buf.pos < buf.len ∧ buf.data[buf.pos]? = some byte ∧
        buf'.data = buf.data ∧ buf'.len = buf.len ∧ buf'.pos = buf.pos + 1 := by
  rw [bufGetbyte, Except.guarded_eq_ok]
  refine ⟨?_, ?_⟩
  · rintro ⟨inside, same⟩
    obtain ⟨rfl, rfl⟩ := Prod.mk.inj same
    exact ⟨Nat.lt_of_not_le inside, List.getElem?_eq_getElem _, rfl, rfl, rfl⟩
  · rintro ⟨inside, read, fields⟩
    have allocated : buf.pos < buf.data.length := Nat.lt_of_lt_of_le inside buf.len_le_size
    rw [List.getElem?_eq_getElem allocated, Option.some_inj] at read
    refine ⟨Nat.not_le.2 inside, Prod.ext read (Buffer.ext ?_ ?_ ?_)⟩
    · exact fields.1.symm
    · exact fields.2.1.symm
    · exact fields.2.2.symm

/-- Reading a word takes the next four used bytes. -/
theorem bufGetint_eq_ok {val : Nat} :
    bufGetint buf = .ok (val, buf') ↔
      buf.pos + 4 ≤ buf.len ∧ val = ofBe ((buf.data.drop buf.pos).take 4) ∧
        buf'.data = buf.data ∧ buf'.len = buf.len ∧ buf'.pos = buf.pos + 4 := by
  have small : (4 : Nat) ≤ bufMaxIncr := by decide
  have allocated := buf.len_le_size
  simp only [bufGetint, Except.bind_eq_ok, bufGetptr_eq_ok, Buffer.peek_eq_ok, bufIncrpos_eq_ok,
    pure, Except.pure, Except.ok.injEq, Prod.mk.injEq]
  refine ⟨?_, ?_⟩
  · rintro ⟨_, ⟨⟨_, used⟩, rfl⟩, _, ⟨_, rfl⟩, _, ⟨_, fields⟩, rfl, rfl⟩
    exact ⟨used, rfl, fields⟩
  · rintro ⟨used, rfl, fields⟩
    exact ⟨_, ⟨⟨small, used⟩, rfl⟩, _, ⟨Nat.le_trans used allocated, rfl⟩, buf',
      ⟨⟨small, used⟩, fields⟩, rfl, rfl⟩

/-! ## Writing

A writer's caller has made room beforehand, so the statements go the other way:
given the room, the function returns, and the result is known field by field. -/

theorem Buffer.exists_poke (buf : Buffer) (ptr : Nat) (bytes : Bytes)
    (inside : ptr + bytes.length ≤ buf.data.length) :
    ∃ stored, buf.poke ptr bytes = .ok stored ∧ stored.data = overwrite buf.data ptr bytes ∧
      stored.len = buf.len ∧ stored.pos = buf.pos := by
  rw [Buffer.poke, dif_neg (Nat.not_lt.2 inside)]
  exact ⟨_, rfl, rfl, rfl, rfl⟩

theorem exists_bufNew (size : Nat) (valid : size ≤ bufMaxSize) :
    ∃ new, bufNew size = .ok new ∧ new.data = List.replicate size 0 ∧ new.len = 0 ∧
      new.pos = 0 := by
  rw [bufNew, dif_neg (Nat.not_lt.2 valid)]
  exact ⟨_, rfl, rfl, rfl, rfl⟩

theorem exists_bufSetlen (buf : Buffer) (len : Nat) (allocated : len ≤ buf.data.length) :
    ∃ cut, bufSetlen buf len = .ok cut ∧ cut.data = buf.data ∧ cut.len = len ∧
      cut.pos = min buf.pos len := by
  rw [bufSetlen, dif_neg (Nat.not_lt.2 allocated)]
  exact ⟨_, rfl, rfl, rfl, rfl⟩

theorem exists_bufSetpos (buf : Buffer) (pos : Nat) (used : pos ≤ buf.len) :
    ∃ moved, bufSetpos buf pos = .ok moved ∧ moved.data = buf.data ∧ moved.len = buf.len ∧
      moved.pos = pos := by
  rw [bufSetpos, dif_neg (Nat.not_lt.2 used)]
  exact ⟨_, rfl, rfl, rfl, rfl⟩

theorem exists_bufIncrlen (buf : Buffer) (incr : Nat) (small : incr ≤ bufMaxIncr)
    (allocated : buf.len + incr ≤ buf.data.length) :
    ∃ longer, bufIncrlen buf incr = .ok longer ∧ longer.data = buf.data ∧
      longer.len = buf.len + incr ∧ longer.pos = buf.pos := by
  rw [bufIncrlen, dif_neg]
  · exact ⟨_, rfl, rfl, rfl, rfl⟩
  · rw [incr_refused_iff buf.len_le_max, not_not]
    exact ⟨small, allocated⟩

theorem exists_bufIncrpos (buf : Buffer) (incr : Nat) (small : incr ≤ bufMaxIncr)
    (used : buf.pos + incr ≤ buf.len) :
    ∃ moved, bufIncrpos buf incr = .ok moved ∧ moved.data = buf.data ∧ moved.len = buf.len ∧
      moved.pos = buf.pos + incr := by
  rw [bufIncrpos, dif_neg]
  · exact ⟨_, rfl, rfl, rfl, rfl⟩
  · rw [incr_refused_iff buf.pos_le_max, not_not]
    exact ⟨small, used⟩

theorem exists_bufIncrwritepos (buf : Buffer) (incr : Nat) (small : incr ≤ bufMaxIncr)
    (allocated : buf.pos + incr ≤ buf.data.length) :
    ∃ moved, bufIncrwritepos buf incr = .ok moved ∧ moved.data = buf.data ∧
      moved.len = max buf.len (buf.pos + incr) ∧ moved.pos = buf.pos + incr := by
  rw [bufIncrwritepos, dif_neg]
  · exact ⟨_, rfl, rfl, rfl, rfl⟩
  · rw [incr_refused_iff buf.pos_le_max, not_not]
    exact ⟨small, allocated⟩

/-- Writing a word writes its four bytes. -/
theorem bufPutint_eq_bufPutbytes (buf : Buffer) (val : Nat) :
    bufPutint buf val = bufPutbytes buf (be32 val) := rfl

/-! ## Both ways

For functions that work on a buffer they were given: when each step returns, and what is known
once it has. -/

section

instance : Failure Exit := ⟨Exit.Regular⟩

variable {condition : Prop}

theorem returns_peek {n : Nat} (inside : ptr + n ≤ buf.data.length) :
    Returns condition (· = (buf.data.drop ptr).take n) (buf.peek ptr n) := by
  rw [Buffer.peek_eq_ok.2 ⟨inside, rfl⟩]
  exact .ok rfl

theorem returns_poke (inside : ptr + bytes.length ≤ buf.data.length) :
    Returns condition (fun stored => stored.data = overwrite buf.data ptr bytes ∧
      stored.len = buf.len ∧ stored.pos = buf.pos) (buf.poke ptr bytes) := by
  obtain ⟨stored, isStored, fields⟩ := buf.exists_poke ptr bytes inside
  rw [isStored]
  exact .ok fields

theorem returns_bufNew {size : Nat} (valid : condition → size ≤ bufMaxSize) :
    Returns condition (fun new => new.data = List.replicate size 0 ∧ new.len = 0 ∧ new.pos = 0)
      (bufNew size) where
  returns holds := (exists_bufNew size (valid holds)).imp fun _ new => new.1
  sound _ new := (bufNew_eq_ok.1 new).2
  fails := .guarded trivial

theorem returns_bufSetlen (allocated : condition → len ≤ buf.data.length) :
    Returns condition (fun cut => cut.data = buf.data ∧ cut.len = len) (bufSetlen buf len) where
  returns holds := (exists_bufSetlen buf len (allocated holds)).imp fun _ cut => cut.1
  sound _ cut := ⟨(bufSetlen_eq_ok.1 cut).2.1, (bufSetlen_eq_ok.1 cut).2.2.1⟩
  fails := .guarded trivial

theorem returns_bufSetpos {pos : Nat} (used : condition → pos ≤ buf.len) :
    Returns condition (fun moved => pos ≤ buf.len ∧ moved.data = buf.data ∧ moved.len = buf.len ∧
      moved.pos = pos) (bufSetpos buf pos) where
  returns holds := (exists_bufSetpos buf pos (used holds)).imp fun _ moved => moved.1
  sound _ := bufSetpos_eq_ok.1
  fails := .guarded trivial

theorem returns_bufIncrpos (used : condition → incr ≤ bufMaxIncr ∧ buf.pos + incr ≤ buf.len) :
    Returns condition (fun moved => moved.data = buf.data ∧ moved.len = buf.len ∧
      moved.pos = buf.pos + incr) (bufIncrpos buf incr) where
  returns holds :=
    (exists_bufIncrpos buf incr (used holds).1 (used holds).2).imp fun _ moved => moved.1
  sound _ moved := (bufIncrpos_eq_ok.1 moved).2
  fails := .guarded trivial

theorem returns_bufIncrwritepos
    (allocated : condition → incr ≤ bufMaxIncr ∧ buf.pos + incr ≤ buf.data.length) :
    Returns condition (fun moved => moved.data = buf.data ∧
      moved.len = max buf.len (buf.pos + incr) ∧ moved.pos = buf.pos + incr)
      (bufIncrwritepos buf incr) where
  returns holds := (exists_bufIncrwritepos buf incr (allocated holds).1 (allocated holds).2).imp
    fun _ moved => moved.1
  sound _ moved := (bufIncrwritepos_eq_ok.1 moved).2
  fails := .guarded trivial

theorem returns_bufIncrlen
    (allocated : condition → incr ≤ bufMaxIncr ∧ buf.len + incr ≤ buf.data.length) :
    Returns condition (fun longer => buf.len + incr ≤ buf.data.length ∧ longer.data = buf.data ∧
      longer.len = buf.len + incr ∧ longer.pos = buf.pos) (bufIncrlen buf incr) where
  returns holds := (exists_bufIncrlen buf incr (allocated holds).1 (allocated holds).2).imp
    fun _ longer => longer.1
  sound _ longer := ⟨(bufIncrlen_eq_ok.1 longer).1.2, (bufIncrlen_eq_ok.1 longer).2⟩
  fails := .guarded trivial

theorem returns_bufGetptr (used : condition → len ≤ bufMaxIncr ∧ buf.pos + len ≤ buf.len) :
    Returns condition (fun ptr => (len ≤ bufMaxIncr ∧ buf.pos + len ≤ buf.len) ∧ ptr = buf.pos)
      (bufGetptr buf len) where
  returns holds := ⟨_, bufGetptr_eq_ok.2 ⟨used holds, rfl⟩⟩
  sound _ := bufGetptr_eq_ok.1
  fails := .checked trivial

theorem returns_bufGetwriteptr
    (allocated : condition → len ≤ bufMaxIncr ∧ buf.pos + len ≤ buf.data.length) :
    Returns condition (fun ptr => (len ≤ bufMaxIncr ∧ buf.pos + len ≤ buf.data.length) ∧
      ptr = buf.pos) (bufGetwriteptr buf len) where
  returns holds := ⟨_, bufGetwriteptr_eq_ok.2 ⟨allocated holds, rfl⟩⟩
  sound _ := bufGetwriteptr_eq_ok.1
  fails := .checked trivial

/-- Writing bytes overwrites the allocation at the position and moves behind
them. -/
theorem returns_bufPutbytes
    (allocated : condition → bytes.length ≤ bufMaxIncr ∧ buf.pos + bytes.length ≤ buf.data.length) :
    Returns condition (fun written => buf.pos + bytes.length ≤ buf.data.length ∧
      written.data = overwrite buf.data buf.pos bytes ∧
        written.len = max buf.len (buf.pos + bytes.length) ∧
          written.pos = buf.pos + bytes.length) (bufPutbytes buf bytes) := by
  refine (returns_bufGetwriteptr allocated).bind fun ptr ⟨⟨small, inside⟩, isPtr⟩ => ?_
  subst isPtr
  refine (returns_poke inside).bind fun stored ⟨data, len, pos⟩ => ?_
  have inside' : stored.pos + bytes.length ≤ stored.data.length := by
    rwa [data, length_overwrite inside, pos]
  refine (returns_bufIncrwritepos fun _ => ⟨small, inside'⟩).mono id ?_
  rintro written ⟨data', len', pos'⟩
  exact ⟨inside, data'.trans data, by rw [len', len, pos], by rw [pos', pos]⟩

theorem exists_bufPutbytes (buf : Buffer) (bytes : Bytes) (small : bytes.length ≤ bufMaxIncr)
    (allocated : buf.pos + bytes.length ≤ buf.data.length) :
    ∃ written, bufPutbytes buf bytes = .ok written ∧
      written.data = overwrite buf.data buf.pos bytes ∧
        written.len = max buf.len (buf.pos + bytes.length) ∧
          written.pos = buf.pos + bytes.length := by
  have put : Returns True _ (bufPutbytes buf bytes) :=
    returns_bufPutbytes fun _ => ⟨small, allocated⟩
  exact (put.exists_ok trivial).imp fun _ written => ⟨written.1, written.2.2⟩

theorem returns_bufGetbyte (used : condition → buf.pos < buf.len) :
    Returns condition (fun read => buf.pos < buf.len ∧ buf.data[buf.pos]? = some read.1 ∧
      read.2.data = buf.data ∧ read.2.len = buf.len) (bufGetbyte buf) where
  returns holds := by
    obtain ⟨moved, _, fields⟩ := exists_bufIncrpos buf 1 (by decide) (used holds)
    have inside := Nat.lt_of_lt_of_le (used holds) buf.len_le_size
    exact ⟨_, bufGetbyte_eq_ok.2 ⟨used holds, List.getElem?_eq_getElem inside, fields⟩⟩
  sound read got := by
    obtain ⟨inside, value, data, len, _⟩ := bufGetbyte_eq_ok.1 got
    exact ⟨inside, value, data, len⟩
  fails := .guarded trivial

theorem returns_bufGetint (used : condition → buf.pos + 4 ≤ buf.len) :
    Returns condition (fun read => read.1 = ofBe ((buf.data.drop buf.pos).take 4) ∧
      read.2.data = buf.data ∧ read.2.len = buf.len) (bufGetint buf) := by
  refine (returns_bufGetptr fun holds => ⟨by decide, used holds⟩).bind ?_
  rintro ptr ⟨⟨_, inside⟩, rfl⟩
  refine (returns_peek (Nat.le_trans inside buf.len_le_size)).bind fun bytes isBytes => ?_
  refine (returns_bufIncrpos fun _ => ⟨by decide, inside⟩).bind ?_
  rintro moved ⟨data, len, _⟩
  exact .ok ⟨congrArg ofBe isBytes, data, len⟩

end

/-! ## The bytes in use -/

/-- Bytes stored at the end of the used part extend it. -/
theorem Buffer.contents_append (buf buf' : Buffer) (bytes : Bytes)
    (data : buf'.data = overwrite buf.data buf.len bytes)
    (len : buf'.len = buf.len + bytes.length)
    (inside : buf.len + bytes.length ≤ buf.data.length) :
    buf'.contents = buf.contents ++ bytes := by
  rw [Buffer.contents, data, len, take_overwrite_end inside, Buffer.contents]

/-- Writing at the end of the used part appends to it. -/
theorem exists_bufPutbytes_append (buf : Buffer) (bytes : Bytes) (atEnd : buf.pos = buf.len)
    (room : buf.len + bytes.length ≤ buf.data.length) :
    ∃ written, bufPutbytes buf bytes = .ok written ∧ written.contents = buf.contents ++ bytes ∧
      written.pos = written.len ∧ written.len = buf.len + bytes.length ∧
        written.data.length = buf.data.length := by
  have small : bytes.length ≤ bufMaxIncr := by
    have := buf.size_le_max
    simp only [bufMaxSize] at this
    simp only [bufMaxIncr]
    omega
  obtain ⟨written, put, data, len, pos⟩ := exists_bufPutbytes buf bytes small (by rwa [atEnd])
  rw [atEnd] at data len pos
  have len' : written.len = buf.len + bytes.length := by omega
  refine ⟨written, put, Buffer.contents_append buf written bytes data len' room, by omega, len', ?_⟩
  rw [data, length_overwrite room]

/-- Bytes stored within the used part replace what was there. -/
theorem Buffer.contents_overwrite {buf buf' : Buffer} {off : Nat}
    (data : buf'.data = overwrite buf.data off bytes) (len : buf'.len = buf.len)
    (inside : off + bytes.length ≤ buf.len) :
    buf'.contents = overwrite buf.contents off bytes := by
  rw [Buffer.contents, data, len, take_overwrite inside buf.len_le_size, Buffer.contents]

end Dropbear
