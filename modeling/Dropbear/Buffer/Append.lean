/-
# Writing at the end of a buffer

The packets and the exchange hash are put together by writing one field after
the other at the end of a buffer.  A writer `Appends` bytes if, wherever the
buffer ends and as long as there is room, it adds exactly these bytes.  Writers
compose, so the bytes of a message are read off its fields.
-/

import Dropbear.Buffer.Consume

namespace Dropbear

open Program

/-- `written` is `buf` with `bytes` added at its end, where the position is. -/
structure Appended (buf written : Buffer) (bytes : Bytes) : Prop where
  contents : written.contents = buf.contents ++ bytes
  atEnd : written.pos = written.len
  size : written.data.length = buf.data.length

variable {buf written : Buffer} {bytes : Bytes}

theorem Appended.len (appended : Appended buf written bytes) :
    written.len = buf.len + bytes.length := by
  have length := congrArg List.length appended.contents
  rwa [Buffer.length_contents, List.length_append, Buffer.length_contents] at length

variable {bytes' : Bytes}

theorem Appended.trans {middle : Buffer} (first : Appended buf middle bytes)
    (second : Appended middle written bytes') :
    Appended buf written (bytes ++ bytes') where
  contents := by rw [second.contents, first.contents, List.append_assoc]
  atEnd := second.atEnd
  size := second.size.trans first.size

/-- At the end of a buffer with room for `bytes`, the writer adds them. -/
def Appends (write : Buffer → Except Exit Buffer) (bytes : Bytes) : Prop :=
  ∀ buf : Buffer, buf.pos = buf.len → buf.len + bytes.length ≤ buf.data.length →
    ∃ written, write buf = .ok written ∧ Appended buf written bytes

namespace Appends

theorem pure : Appends (fun buf => Except.ok buf) [] := by
  intro buf atEnd _
  exact ⟨buf, rfl, (List.append_nil _).symm, atEnd, rfl⟩

theorem bind {first next : Buffer → Except Exit Buffer} (here : Appends first bytes)
    (there : Appends next bytes') :
    Appends (fun buf => first buf >>= next) (bytes ++ bytes') := by
  intro buf atEnd room
  rw [List.length_append] at room
  obtain ⟨middle, wrote, appended⟩ := here buf atEnd (by omega)
  have room' : middle.len + bytes'.length ≤ middle.data.length := by
    rw [appended.len, appended.size]
    omega
  obtain ⟨written, wrote', appended'⟩ := there middle appended.atEnd room'
  refine ⟨written, ?_, appended.trans appended'⟩
  dsimp only
  rw [wrote, Except.ok_bind, wrote']

end Appends

/-! ## Exactly the room that is needed -/

/-- `written` is `buf` with `bytes` stored at its position. -/
structure StoredAt (buf written : Buffer) (bytes : Bytes) : Prop where
  room : buf.pos + bytes.length ≤ buf.data.length
  data : written.data = overwrite buf.data buf.pos bytes
  len : written.len = max buf.len (buf.pos + bytes.length)
  pos : written.pos = buf.pos + bytes.length

namespace StoredAt

theorem size (stored : StoredAt buf written bytes) : written.data.length = buf.data.length := by
  rw [stored.data, length_overwrite stored.room]

theorem nil (buf : Buffer) : StoredAt buf buf [] where
  room := Nat.le_trans buf.pos_le_len buf.len_le_size
  data := by simp [overwrite]
  len := (Nat.max_eq_left buf.pos_le_len).symm
  pos := rfl

theorem trans {middle : Buffer} (first : StoredAt buf middle bytes)
    (second : StoredAt middle written bytes') : StoredAt buf written (bytes ++ bytes') where
  room := by
    have room := second.room
    rw [first.pos, first.size] at room
    rw [List.length_append]
    omega
  data := by rw [second.data, first.data, first.pos, overwrite_overwrite first.room]
  len := by
    rw [second.len, first.len, first.pos, List.length_append]
    omega
  pos := by rw [second.pos, first.pos, List.length_append, Nat.add_assoc]

theorem appended (stored : StoredAt buf written bytes) (atEnd : buf.pos = buf.len) :
    Appended buf written bytes := by
  have size := stored.size
  obtain ⟨room, data, len, pos⟩ := stored
  rw [atEnd] at room data len pos
  have longer : written.len = buf.len + bytes.length := by omega
  exact ⟨Buffer.contents_append buf written bytes data longer room, by omega, size⟩

/-- What has been stored is read from where it begins, up to where it ends. -/
theorem read {α : Type}
    {read : Buffer → Except Exit (α × Buffer)} {value : α} (stored : StoredAt buf written bytes)
    (consumes : Consumes read bytes value) :
    ∃ back, bufSetpos written buf.pos = .ok back ∧ read back = .ok (value, written) := by
  obtain ⟨room, data, len, pos⟩ := stored
  obtain ⟨back, moved, data', len', pos'⟩ := exists_bufSetpos written buf.pos (by omega)
  have present : bytes <+: back.rest := by
    have inside : back.pos + bytes.length ≤ back.len := by omega
    rw [List.prefix_iff_eq_take, ← back.take_drop_data inside, data', data, pos',
      take_drop_overwrite room]
  refine ⟨back, moved, ?_⟩
  rw [consumes back present]
  have behind : back.skip bytes.length = written :=
    Buffer.ext data' len' (by rw [back.pos_skip present.length_le, pos', pos])
  rw [behind]

/-- A buffer shows what has been stored in it. -/
theorem unique (stored : StoredAt buf written bytes) (stored' : StoredAt buf written bytes') :
    bytes = bytes' := by
  have length : bytes.length = bytes'.length :=
    Nat.add_left_cancel (stored.pos.symm.trans stored'.pos)
  rw [← take_drop_overwrite stored.room, ← take_drop_overwrite stored'.room, ← stored.data,
    ← stored'.data, length]

end StoredAt

/-- The writer stores `bytes`, and returns if there is room for them. -/
def Puts (write : Buffer → Except Exit Buffer) (bytes : Bytes) : Prop :=
  ∀ buf : Buffer, Returns (buf.pos + bytes.length ≤ buf.data.length) (StoredAt buf · bytes) (write buf)

namespace Puts

theorem pure : Puts (fun buf => Except.ok buf) [] := fun buf => .ok (.nil buf)

theorem bind {first next : Buffer → Except Exit Buffer} (here : Puts first bytes)
    (there : Puts next bytes') : Puts (fun buf => first buf >>= next) (bytes ++ bytes') := by
  intro buf
  refine ((here buf).mono (fun room => ?_) fun _ => id).bind fun middle stored =>
    (there middle).mono (fun room => ?_) fun _ => stored.trans
  · rw [List.length_append] at room
    omega
  · rw [List.length_append] at room
    rw [stored.pos, stored.size]
    omega

variable {write : Buffer → Except Exit Buffer}

theorem congr (same : bytes = bytes') (puts : Puts write bytes) : Puts write bytes' := by
  rwa [← same]

theorem appends (puts : Puts write bytes) :
    Appends write bytes := by
  intro buf atEnd room
  obtain ⟨written, wrote, stored⟩ := (puts buf).exists_ok (by rwa [atEnd])
  exact ⟨written, wrote, stored.appended atEnd⟩

/-- A writer that returns has found room. -/
theorem room (puts : Puts write bytes) (wrote : write buf = .ok written) :
    buf.pos + bytes.length ≤ buf.data.length :=
  ((puts buf).sound written wrote).room

end Puts

theorem puts_bufPutbytes (bytes : Bytes) : Puts (bufPutbytes · bytes) bytes := by
  intro buf
  refine (returns_bufPutbytes fun room => ⟨?_, room⟩).mono id ?_
  · exact Nat.le_trans (by omega) buf.size_le_max
  · rintro written ⟨room, data, len, pos⟩
    exact ⟨room, data, len, pos⟩

theorem puts_bufPutint (val : Nat) : Puts (bufPutint · val) (be32 val) :=
  puts_bufPutbytes (be32 val)

theorem puts_bufPutstring (str : Bytes) : Puts (bufPutstring · str) (wireString str) :=
  (puts_bufPutint str.length).bind (puts_bufPutbytes str)

/-- A byte is stored at the position, in a buffer that reaches beyond it. -/
theorem returns_storeByte {condition : Prop} (val : UInt8) (used : buf.pos < buf.len) :
    Returns condition (fun written => written.data = overwrite buf.data buf.pos [val] ∧
      written.len = buf.len ∧ written.pos = buf.pos + 1)
      (buf.poke buf.pos [val] >>= fun buf =>
        if inside : buf.pos + 1 ≤ buf.len then
          .ok { buf with pos := buf.pos + 1, pos_le_len := inside }
        else .error .overrun) := by
  refine (returns_poke (Nat.le_trans used buf.len_le_size)).bind ?_
  rintro stored ⟨data, len, pos⟩
  rw [dif_pos (by omega)]
  exact .ok ⟨data, len, congrArg (· + 1) pos⟩

theorem puts_bufPutbyte (val : UInt8) : Puts (bufPutbyte · val) [val] := by
  intro buf
  have used := buf.pos_le_len
  have allocated := buf.len_le_size
  simp only [bufPutbyte]
  by_cases atEnd : buf.pos ≥ buf.len
  · rw [if_pos atEnd]
    refine (returns_bufIncrlen fun room => ⟨by decide, ?_⟩).bind ?_
    · rw [List.length_singleton] at room
      omega
    · rintro longer ⟨room, data, len, pos⟩
      refine (returns_storeByte val (by omega)).mono id ?_
      rintro written ⟨data', len', pos'⟩
      exact ⟨by rw [List.length_singleton]; omega, by rw [data', data, pos],
        by rw [List.length_singleton]; omega, by rw [pos', pos, List.length_singleton]⟩
  · rw [if_neg atEnd]
    refine (returns_storeByte val (by omega)).mono id ?_
    rintro written ⟨data, len, pos⟩
    exact ⟨by rw [List.length_singleton]; omega, data, by rw [List.length_singleton]; omega, pos⟩

theorem appends_bufPutbytes (bytes : Bytes) : Appends (bufPutbytes · bytes) bytes :=
  (puts_bufPutbytes bytes).appends

theorem appends_bufPutint (val : Nat) : Appends (bufPutint · val) (be32 val) :=
  (puts_bufPutint val).appends

theorem appends_bufPutstring (str : Bytes) : Appends (bufPutstring · str) (wireString str) :=
  (puts_bufPutstring str).appends

theorem appends_bufPutbyte (val : UInt8) : Appends (bufPutbyte · val) [val] :=
  (puts_bufPutbyte val).appends

/-! ## A length that is filled in afterwards -/

/-- Go back to `startpos`, write a length there, and step over what it counts. -/
def fillLength (startpos len : Nat) (buf : Buffer) : Except Exit Buffer := do
  let buf ← bufSetpos buf startpos
  let buf ← bufPutint buf len
  bufIncrwritepos buf len

/-- Filling in the length of what stands behind a placeholder. -/
theorem exists_fillLength {front slot tail : Bytes} (four : slot.length = 4)
    (contents : buf.contents = front ++ (slot ++ tail)) :
    ∃ written, fillLength front.length tail.length buf = .ok written ∧
      written.contents = front ++ wireString tail ∧ written.pos = written.len ∧
        written.data.length = buf.data.length := by
  have len : buf.len = front.length + (4 + tail.length) := by
    rw [← buf.length_contents, contents, List.length_append, List.length_append, four]
  have used := buf.len_le_size
  have most := buf.size_le_max
  have counts : (be32 tail.length).length = 4 := length_be32 _
  obtain ⟨back, moved, data, len', pos⟩ := exists_bufSetpos buf front.length (by omega)
  have inside : front.length + (be32 tail.length).length ≤ buf.data.length := by omega
  obtain ⟨filled, put, data', len'', pos'⟩ := exists_bufPutbytes back (be32 tail.length)
    (by rw [counts]; decide) (by rwa [pos, data])
  have filledSize : filled.data.length = buf.data.length := by
    rw [data', data, pos, length_overwrite inside]
  obtain ⟨written, done, data₃, len₃, pos₃⟩ := exists_bufIncrwritepos filled tail.length
    (by simp only [bufMaxSize, bufMaxIncr] at most ⊢; omega) (by omega)
  have stored : filled.contents = overwrite buf.contents front.length (be32 tail.length) := by
    refine Buffer.contents_overwrite ?_ (by omega) (by omega)
    rw [data', data, pos]
  have same : written.contents = filled.contents := by
    have unchanged : written.len = filled.len := by omega
    rw [Buffer.contents, data₃, unchanged, Buffer.contents]
  refine ⟨written, ?_, ?_, by omega, by rw [data₃, filledSize]⟩
  · rw [fillLength, moved, Except.ok_bind, bufPutint_eq_bufPutbytes, put, Except.ok_bind, done]
  · rw [same, stored, contents, overwrite_append_append (counts.trans four.symm)]
    rfl

end Dropbear
