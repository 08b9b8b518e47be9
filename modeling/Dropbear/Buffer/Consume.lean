/-
# Readers that depend only on what they consume

A parser of the source takes its bytes from the current position of a buffer
that usually goes on behind them.  `Consumes read bytes value` says that
`read` returns `value` and steps over `bytes` wherever they stand at the
position, whatever follows: the answer does not depend on the rest of the
buffer.  Readers compose by appending what they consume, so a parser's footprint
is computed from those of its parts.
-/

import Dropbear.Buffer.Outcome

namespace Dropbear

open Program

namespace Buffer

/-- Step over `n` bytes of the used part. -/
def skip (buf : Buffer) (n : Nat) : Buffer :=
  { buf with
    pos := min (buf.pos + n) buf.len
    pos_le_len := Nat.min_le_right _ _ }

@[simp]
theorem length_rest (buf : Buffer) : buf.rest.length = buf.len - buf.pos := by
  simp [rest]

theorem pos_skip (buf : Buffer) {n : Nat} (inside : n ≤ buf.rest.length) :
    (buf.skip n).pos = buf.pos + n := by
  have := buf.pos_le_len
  simp only [length_rest] at inside
  simp only [skip]
  omega

@[simp]
theorem skip_zero (buf : Buffer) : buf.skip 0 = buf :=
  Buffer.ext rfl rfl (Nat.min_eq_left buf.pos_le_len)

theorem skip_skip (buf : Buffer) (m n : Nat) : (buf.skip m).skip n = buf.skip (m + n) := by
  apply Buffer.ext
  · rfl
  · rfl
  · simp only [skip]
    omega

/-- What is left after stepping over some of the remaining bytes. -/
theorem rest_skip (buf : Buffer) (n : Nat) : (buf.skip n).rest = buf.rest.drop n := by
  by_cases inside : n ≤ buf.rest.length
  · rw [rest, pos_skip buf inside, rest, List.drop_drop]
    rfl
  · have beyond : buf.len ≤ buf.pos + n := by
      simp only [length_rest] at inside
      omega
    rw [List.drop_eq_nil_of_le (Nat.le_of_not_le inside)]
    apply List.eq_nil_of_length_eq_zero
    simp [skip, beyond]

/-- The remaining bytes, seen through the allocation. -/
theorem take_drop_data (buf : Buffer) {n : Nat} (inside : buf.pos + n ≤ buf.len) :
    (buf.data.drop buf.pos).take n = buf.rest.take n := by
  rw [rest, contents, List.drop_take, List.take_take, Nat.min_eq_left (by omega)]

end Buffer

variable {buf : Buffer} {bytes bytes' : Bytes}

/-- Bytes standing at the position, then bytes standing behind them. -/
theorem append_prefix_rest (front : bytes <+: buf.rest)
    (back : bytes' <+: (buf.skip bytes.length).rest) :
    bytes ++ bytes' <+: buf.rest := by
  obtain ⟨tail, whole⟩ := front
  rw [Buffer.rest_skip, ← whole, List.drop_left] at back
  rw [← whole]
  exact (List.prefix_append_right_inj bytes).2 back

/-- Bytes standing at the position, taken apart. -/
theorem prefix_rest_of_append (present : bytes ++ bytes' <+: buf.rest) :
    bytes <+: buf.rest ∧ bytes' <+: (buf.skip bytes.length).rest := by
  obtain ⟨tail, whole⟩ := present
  refine ⟨⟨bytes' ++ tail, by rw [← whole, List.append_assoc]⟩, tail, ?_⟩
  rw [Buffer.rest_skip, ← whole, List.append_assoc, List.drop_left]

variable {α β : Type}

/-- `read` returns `value` and steps over `bytes`, whatever follows them. -/
def Consumes (read : Buffer → Except Exit (α × Buffer)) (bytes : Bytes) (value : α) : Prop :=
  ∀ buf, bytes <+: buf.rest → read buf = .ok (value, buf.skip bytes.length)

namespace Consumes

/-- Reading one thing and then another consumes the one and then the other. -/
theorem bind {first : Buffer → Except Exit (α × Buffer)} {value : α} {value' : β}
    (next : α → Buffer → Except Exit (β × Buffer)) (read : Consumes first bytes value)
    (read' : Consumes (next value) bytes' value') :
    Consumes (fun buf => first buf >>= fun result => next result.1 result.2) (bytes ++ bytes')
      value' := by
  intro buf present
  obtain ⟨front, back⟩ := prefix_rest_of_append present
  simp only [read buf front, Except.ok_bind]
  rw [read' _ back, Buffer.skip_skip, List.length_append]

/-- Returning a value without reading consumes nothing. -/
theorem pure (value : α) : Consumes (fun buf => Except.ok (value, buf)) [] value := by
  intro buf _
  simp

end Consumes

/-- On `bytes`, whatever follows them, `read` ends with `result`.  If it returns,
it has stepped over all of them. -/
def Yields (read : Buffer → Except Exit (α × Buffer)) (bytes : Bytes) (result : Except Exit α) :
    Prop :=
  ∀ buf, bytes <+: buf.rest → read buf = result.map (·, buf.skip bytes.length)

namespace Yields

theorem pure (value : α) : Yields (fun buf => Except.ok (value, buf)) [] (.ok value) := by
  intro buf _
  simp [Except.map]

variable {result : Except Exit β}

variable {first : Buffer → Except Exit (α × Buffer)} {next : α × Buffer → Except Exit (β × Buffer)}

/-- After something has been read. -/
theorem after {value : α} (read : Consumes first bytes value)
    (yields : Yields (fun buf => next (value, buf)) bytes' result) :
    Yields (fun buf => first buf >>= next) (bytes ++ bytes') result := by
  intro buf present
  obtain ⟨front, back⟩ := prefix_rest_of_append present
  have read' := yields _ back
  dsimp only at read' ⊢
  rw [read buf front, Except.ok_bind, read', Buffer.skip_skip, List.length_append]

/-- After a step that only looks at what has been read already. -/
theorem afterCheck {check : Except Exit α} {next : α → Buffer → Except Exit (β × Buffer)}
    {result : α → Except Exit β} (yields : ∀ value, Yields (next value) bytes (result value)) :
    Yields (fun buf => check >>= fun value => next value buf) bytes (check >>= result) := by
  intro buf present
  cases check with
  | error failure => rfl
  | ok value => exact yields value buf present

/-- After stepping over something. -/
theorem afterSkip {skip : Buffer → Except Exit Buffer} {next : Buffer → Except Exit (β × Buffer)}
    (skips : ∀ buf : Buffer, bytes <+: buf.rest → skip buf = .ok (buf.skip bytes.length))
    (yields : Yields next bytes' result) :
    Yields (fun buf => skip buf >>= next) (bytes ++ bytes') result := by
  intro buf present
  obtain ⟨front, back⟩ := prefix_rest_of_append present
  dsimp only
  rw [skips buf front, Except.ok_bind, yields _ back, Buffer.skip_skip, List.length_append]

/-- After looking ahead at what comes first. -/
theorem afterPeek {peek : Buffer → Except Exit α} {value : α}
    {next : α → Buffer → Except Exit (β × Buffer)}
    (peeks : ∀ buf : Buffer, bytes <+: buf.rest → peek buf = .ok value)
    (yields : Yields (next value) (bytes ++ bytes') result) :
    Yields (fun buf => peek buf >>= fun seen => next seen buf) (bytes ++ bytes') result := by
  intro buf present
  dsimp only
  rw [peeks buf (prefix_rest_of_append present).1, Except.ok_bind]
  exact yields buf present

/-- After a reader that may fail on what it reads. -/
theorem bind {result : Except Exit α} {result' : α → Except Exit β}
    (read : Yields first bytes result)
    (yields : ∀ value, Yields (fun buf => next (value, buf)) bytes' (result' value)) :
    Yields (fun buf => first buf >>= next) (bytes ++ bytes') (result >>= result') := by
  intro buf present
  obtain ⟨front, back⟩ := prefix_rest_of_append present
  dsimp only
  rw [read buf front]
  cases result with
  | error failure => rfl
  | ok value =>
    have read' := yields value _ back
    dsimp only at read'
    rw [Except.ok_bind, List.length_append, ← Buffer.skip_skip, ← read']
    rfl

end Yields

/-! ## The readers of the buffer layer -/

/-- Stepping forward within the used bytes. -/
theorem bufIncrpos_eq_skip {n : Nat} (small : n ≤ bufMaxIncr) (inside : n ≤ buf.rest.length) :
    bufIncrpos buf n = .ok (buf.skip n) := by
  have := buf.pos_le_len
  have used : buf.pos + n ≤ buf.len := by
    rw [Buffer.length_rest] at inside
    omega
  exact bufIncrpos_eq_ok.2 ⟨⟨small, used⟩, rfl, rfl, Buffer.pos_skip buf inside⟩

variable {buf' : Buffer}

theorem eq_skip_of_bufIncrpos {n : Nat} (moved : bufIncrpos buf n = .ok buf') :
    n ≤ buf.rest.length ∧ buf' = buf.skip n := by
  obtain ⟨⟨_, used⟩, data, len, pos⟩ := bufIncrpos_eq_ok.1 moved
  have inside : n ≤ buf.rest.length := by
    rw [Buffer.length_rest]
    omega
  exact ⟨inside, Buffer.ext data len (pos.trans (Buffer.pos_skip buf inside).symm)⟩

/-- Looking at the next `n` bytes through a pointer. -/
theorem bufGetptr_peek (small : bytes.length ≤ bufMaxIncr) (present : bytes <+: buf.rest) :
    bufGetptr buf bytes.length = .ok buf.pos ∧ buf.peek buf.pos bytes.length = .ok bytes := by
  have := buf.pos_le_len
  have inside := present.length_le
  rw [Buffer.length_rest] at inside
  have used : buf.pos + bytes.length ≤ buf.len := by omega
  refine ⟨bufGetptr_eq_ok.2 ⟨⟨small, used⟩, rfl⟩, ?_⟩
  refine Buffer.peek_eq_ok.2 ⟨Nat.le_trans used buf.len_le_size, ?_⟩
  rw [buf.take_drop_data used]
  exact List.prefix_iff_eq_take.1 present

theorem prefix_of_bufGetptr_peek {n ptr : Nat} (pointed : bufGetptr buf n = .ok ptr)
    (read : buf.peek ptr n = .ok bytes) :
    bytes <+: buf.rest ∧ bytes.length = n ∧ n ≤ bufMaxIncr := by
  obtain ⟨⟨small, used⟩, rfl⟩ := bufGetptr_eq_ok.1 pointed
  obtain ⟨_, rfl⟩ := Buffer.peek_eq_ok.1 read
  rw [buf.take_drop_data used]
  refine ⟨List.take_prefix _ _, ?_, small⟩
  rw [List.length_take, Buffer.length_rest]
  omega

theorem bufGetptr_of_short {n : Nat} (short : buf.rest.length < n) :
    bufGetptr buf n = .error (.exit "Bad buf_getptr") := by
  rw [bufGetptr, if_pos]
  rw [incr_refused_iff buf.pos_le_max]
  rw [Buffer.length_rest] at short
  omega

/-- Reading a word consumes its four bytes. -/
theorem consumes_bufGetint (four : bytes.length = 4) :
    Consumes bufGetint bytes (ofBe bytes) := by
  intro buf present
  have small : bytes.length ≤ bufMaxIncr := by
    rw [four]
    decide
  obtain ⟨pointed, read⟩ := bufGetptr_peek small present
  have moved := bufIncrpos_eq_skip small present.length_le
  rw [four] at pointed read moved ⊢
  simp only [bufGetint, pointed, read, moved, Except.ok_bind]
  rfl

variable {val : Nat}

theorem consumed_of_bufGetint (returned : bufGetint buf = .ok (val, buf')) :
    ∃ bytes, bytes.length = 4 ∧ bytes <+: buf.rest ∧ val = ofBe bytes ∧ buf' = buf.skip 4 := by
  simp only [bufGetint, Except.bind_eq_ok] at returned
  obtain ⟨ptr, pointed, bytes, read, after, moved, same⟩ := returned
  obtain ⟨present, length, _⟩ := prefix_of_bufGetptr_peek pointed read
  obtain ⟨_, rfl⟩ := eq_skip_of_bufIncrpos moved
  cases same
  exact ⟨bytes, length, present, rfl, rfl⟩

/-- Reading `n` bytes through a pointer and stepping over them. -/
def bufTake (n : Nat) (buf : Buffer) : Except Exit (Bytes × Buffer) := do
  let ptr ← bufGetptr buf n
  let bytes ← buf.peek ptr n
  let buf ← bufIncrpos buf n
  pure (bytes, buf)

theorem consumes_bufTake (small : bytes.length ≤ bufMaxIncr) :
    Consumes (bufTake bytes.length) bytes bytes := by
  intro buf present
  obtain ⟨pointed, read⟩ := bufGetptr_peek small present
  simp only [bufTake, pointed, read, bufIncrpos_eq_skip small present.length_le, Except.ok_bind]
  rfl

theorem consumed_of_bufTake {n : Nat} (returned : bufTake n buf = .ok (bytes, buf')) :
    bytes <+: buf.rest ∧ bytes.length = n ∧ n ≤ bufMaxIncr ∧ buf' = buf.skip n := by
  simp only [bufTake, Except.bind_eq_ok] at returned
  obtain ⟨ptr, pointed, _, read, after, moved, same⟩ := returned
  obtain ⟨present, length, small⟩ := prefix_of_bufGetptr_peek pointed read
  obtain ⟨_, rfl⟩ := eq_skip_of_bufIncrpos moved
  cases same
  exact ⟨present, length, small, rfl⟩

/-- The wire form of a string: its length in four bytes, then its bytes. -/
structure IsString (bytes str : Bytes) : Prop where
  exists_head : ∃ head, head.length = 4 ∧ ofBe head = str.length ∧ bytes = head ++ str
  short : str.length ≤ maxStringLen

/-- A string as it is written. -/
def wireString (str : Bytes) : Bytes := be32 str.length ++ str

variable {str : Bytes}

theorem isString_wireString (short : str.length ≤ maxStringLen) :
    IsString (wireString str) str := by
  have fits : str.length < 2 ^ 32 := Nat.lt_of_le_of_lt short (by decide)
  exact ⟨⟨be32 str.length, length_be32 _, ofBe_be32 fits, rfl⟩, short⟩

theorem IsString.length (wire : IsString bytes str) :
    bytes.length = 4 + str.length := by
  obtain ⟨head, four, _, rfl⟩ := wire.exists_head
  rw [List.length_append, four]

/-- Reading the bytes of a string whose length is known. -/
def takeString (len : Nat) (buf : Buffer) : Except Exit (Bytes × Buffer) :=
  if len > maxStringLen then .error (.exit "String too long") else bufTake len buf

/-- `bufGetstring` in terms of its two reads. -/
theorem bufGetstring_eq (buf : Buffer) :
    bufGetstring buf = (bufGetint buf >>= fun result => takeString result.1 result.2) := rfl

theorem maxStringLen_le : maxStringLen ≤ bufMaxIncr := by decide

theorem consumes_bufGetstring (wire : IsString bytes str) :
    Consumes bufGetstring bytes str := by
  obtain ⟨head, four, length, rfl⟩ := wire.exists_head
  have read : Consumes (takeString (ofBe head)) str str := by
    intro buf present
    rw [takeString, length, if_neg (Nat.not_lt.2 wire.short)]
    exact consumes_bufTake (Nat.le_trans wire.short maxStringLen_le) buf present
  intro buf present
  rw [bufGetstring_eq]
  exact Consumes.bind _ (consumes_bufGetint four) read buf present

theorem consumed_of_bufGetstring (returned : bufGetstring buf = .ok (str, buf')) :
    ∃ bytes, IsString bytes str ∧ bytes <+: buf.rest ∧ buf' = buf.skip bytes.length := by
  rw [bufGetstring_eq, Except.bind_eq_ok] at returned
  obtain ⟨⟨len, mid⟩, counted, returned⟩ := returned
  obtain ⟨head, four, front, rfl, rfl⟩ := consumed_of_bufGetint counted
  rw [takeString] at returned
  by_cases long : ofBe head > maxStringLen
  · simp [long] at returned
  · rw [if_neg long] at returned
    obtain ⟨present, length, _, rfl⟩ := consumed_of_bufTake returned
    rw [← four] at present
    refine ⟨head ++ str, ⟨⟨head, four, length.symm, rfl⟩, by omega⟩,
      append_prefix_rest front present, ?_⟩
    rw [Buffer.skip_skip, List.length_append, four, length]

theorem bufEatstring_wireString (short : str.length ≤ maxStringLen)
    (present : wireString str <+: buf.rest) :
    bufEatstring buf = .ok (buf.skip (wireString str).length) := by
  obtain ⟨front, back⟩ := prefix_rest_of_append present
  have fits : str.length < 2 ^ 32 := Nat.lt_of_le_of_lt short (by decide)
  rw [bufEatstring, consumes_bufGetint (length_be32 _) buf front, Except.ok_bind]
  dsimp only
  rw [ofBe_be32 fits, bufIncrpos_eq_skip (Nat.le_trans short maxStringLen_le) back.length_le,
    Buffer.skip_skip, wireString, List.length_append]

theorem Buffer.pos_lt_len_iff : buf.pos < buf.len ↔ buf.rest ≠ [] := by
  rw [← List.length_pos_iff, Buffer.length_rest]
  omega

theorem Buffer.rest_skip_one {c : UInt8} {tail : Bytes} (rest : buf.rest = c :: tail) :
    (buf.skip 1).rest = tail := by
  rw [Buffer.rest_skip, rest]
  rfl

/-- The next byte is the first of those that are left. -/
theorem bufGetbyte_of_rest {c : UInt8} {tail : Bytes} (rest : buf.rest = c :: tail) :
    bufGetbyte buf = .ok (c, buf.skip 1) := by
  have more : buf.pos < buf.len := Buffer.pos_lt_len_iff.2 (by rw [rest]; nofun)
  have first : buf.data[buf.pos]? = some c := by
    have here : buf.rest[0]? = some c := by
      rw [rest]
      rfl
    rw [Buffer.rest, List.getElem?_drop, Buffer.contents, Nat.add_zero,
      List.getElem?_take_of_lt more] at here
    exact here
  apply bufGetbyte_eq_ok.2
  refine ⟨more, first, rfl, rfl, ?_⟩
  exact Buffer.pos_skip buf (by rw [rest, List.length_cons]; omega)

theorem consumes_bufGetbyte (byte : UInt8) : Consumes bufGetbyte [byte] byte := by
  rintro buf ⟨tail, whole⟩
  exact bufGetbyte_of_rest whole.symm

theorem consumes_bufGetbool (byte : UInt8) : Consumes bufGetbool [byte] (byte != 0) := by
  intro buf present
  rw [bufGetbool, consumes_bufGetbyte byte buf present]
  rfl

/-! ## Strings in buffers of their own -/

/-- `buf` holds exactly `str`, at its start. -/
def Buffer.Holds (buf : Buffer) (str : Bytes) : Prop :=
  buf.data = str ∧ buf.len = str.length ∧ buf.pos = 0

theorem Buffer.Holds.eq (holds : buf.Holds str) (holds' : buf'.Holds str) : buf = buf' :=
  Buffer.ext (holds.1.trans holds'.1.symm) (holds.2.1.trans holds'.2.1.symm)
    (holds.2.2.trans holds'.2.2.symm)

theorem Buffer.Holds.rest (holds : buf.Holds str) :
    buf.rest = str := by
  obtain ⟨data, len, pos⟩ := holds
  rw [Buffer.rest, Buffer.contents, data, len, pos, List.take_length, List.drop_zero]

theorem Buffer.Holds.contents (holds : buf.Holds str) :
    buf.contents = str := by
  obtain ⟨data, len, _⟩ := holds
  rw [Buffer.contents, data, len, List.take_length]

/-- A short string is copied into a fresh allocation, step by step. -/
theorem exists_string_copy (short : str.length ≤ maxStringLen) :
    ∃ new stored longer ret, bufNew str.length = .ok new ∧
      bufGetwriteptr new str.length = .ok 0 ∧ new.poke 0 str = .ok stored ∧
        bufIncrlen stored str.length = .ok longer ∧ bufSetpos longer 0 = .ok ret ∧
          ret.Holds str := by
  have small := Nat.le_trans short maxStringLen_le
  obtain ⟨new, made, data, len, pos⟩ := exists_bufNew str.length small
  have room : new.data.length = str.length := by rw [data, List.length_replicate]
  have pointed : bufGetwriteptr new str.length = .ok 0 :=
    bufGetwriteptr_eq_ok.2 ⟨⟨small, by omega⟩, pos.symm⟩
  obtain ⟨stored, poked, data', len', pos'⟩ := new.exists_poke 0 str (by omega)
  have whole : stored.data = str := by
    rw [data', overwrite, List.take_zero, List.nil_append, List.drop_eq_nil_of_le (by omega),
      List.append_nil]
  obtain ⟨longer, grown, data'', len'', pos''⟩ :=
    exists_bufIncrlen stored str.length small (by rw [whole]; omega)
  obtain ⟨ret, moved, data₃, len₃, pos₃⟩ := exists_bufSetpos longer 0 (Nat.zero_le _)
  exact ⟨new, stored, longer, ret, made, pointed, poked, grown, moved,
    by rw [data₃, data'', whole], by omega, pos₃⟩

theorem consumes_bufGetstringbuf {ret : Buffer} (wire : IsString bytes str) (holds : ret.Holds str)
    : Consumes bufGetstringbuf bytes ret := by
  intro buf present
  obtain ⟨head, four, count, rfl⟩ := wire.exists_head
  obtain ⟨new, stored, longer, copy, made, pointed, poked, grown, moved, holds'⟩ :=
    exists_string_copy wire.short
  obtain ⟨front, behind⟩ := prefix_rest_of_append present
  have counted := consumes_bufGetint four buf front
  have small := Nat.le_trans wire.short maxStringLen_le
  obtain ⟨source, read⟩ := bufGetptr_peek small behind
  have stepped := bufIncrpos_eq_skip small behind.length_le
  rw [bufGetstringbuf, counted, Except.ok_bind]
  simp only [count, gt_iff_lt, Nat.not_lt.2 wire.short, if_false, made, pointed, source, read,
    poked, stepped, grown, moved, Except.ok_bind, Buffer.skip_skip, holds'.eq holds,
    List.length_append]
  rfl

theorem consumed_of_bufGetstringbuf {ret : Buffer}
    (returned : bufGetstringbuf buf = .ok (ret, buf')) :
    ∃ bytes str, IsString bytes str ∧ ret.Holds str ∧ bytes <+: buf.rest ∧
      buf' = buf.skip bytes.length := by
  have whole := returned
  rw [bufGetstringbuf, Except.bind_eq_ok] at returned
  obtain ⟨⟨len, mid⟩, counted, returned⟩ := returned
  obtain ⟨head, four, front, rfl, rfl⟩ := consumed_of_bufGetint counted
  by_cases long : ofBe head > maxStringLen
  · simp only [long, if_true] at returned
    cases returned
  · simp only [long, if_false, Except.bind_eq_ok] at returned
    obtain ⟨_, _, _, _, ptr, pointed, str, read, _⟩ := returned
    obtain ⟨present, length, _⟩ := prefix_of_bufGetptr_peek pointed read
    rw [← four] at present
    have wire : IsString (head ++ str) str := ⟨⟨head, four, length.symm, rfl⟩, by omega⟩
    obtain ⟨_, _, _, copy, _, _, _, _, _, holds⟩ := exists_string_copy wire.short
    have present' := append_prefix_rest front present
    rw [consumes_bufGetstringbuf wire holds buf present'] at whole
    cases whole
    exact ⟨_, str, wire, holds, present', rfl⟩

/-! ## Multiple precision integers -/

/-- The wire form of an integer that is accepted: its length in four bytes, and
at most `BUF_MAX_MPINT` bytes of which the first is below 128. -/
structure IsMpint (bytes : Bytes) (val : Nat) : Prop where
  exists_parts : ∃ head body, head.length = 4 ∧ ofBe head = body.length ∧
    bytes = head ++ body ∧ val = ofBe body ∧ body.length ≤ bufMaxMpint ∧
      ¬ (body.take 1).any (fun byte => byte ≥ 128)

/-- Reading the bytes of an integer whose length is known. -/
def takeMpint (len : Nat) (buf : Buffer) : Except Exit (Option Nat × Buffer) :=
  if len = 0 then .ok (some 0, buf)
  else if len > bufMaxMpint then .ok (none, buf)
  else
    bufGetptr buf 1 >>= fun first =>
    buf.peek first 1 >>= fun sign =>
    if sign.any (fun byte => byte ≥ 128) then .ok (none, buf)
    else bufTake len buf >>= fun result => .ok (some (ofBe result.1), result.2)

theorem bufGetmpint_eq (buf : Buffer) :
    bufGetmpint buf = (bufGetint buf >>= fun result => takeMpint result.1 result.2) := by
  simp only [bufGetmpint, takeMpint, bufTake, bind_assoc]
  rfl

theorem bufMaxMpint_le : bufMaxMpint ≤ bufMaxIncr := by decide

theorem consumes_bufGetmpint (wire : IsMpint bytes val) :
    Consumes bufGetmpint bytes (some val) := by
  obtain ⟨head, body, four, count, rfl, rfl, short, positive⟩ := wire.exists_parts
  have small := Nat.le_trans short bufMaxMpint_le
  have read : Consumes (takeMpint (ofBe head)) body (some (ofBe body)) := by
    intro buf present
    rw [takeMpint, count]
    by_cases empty : body.length = 0
    · obtain rfl := List.eq_nil_of_length_eq_zero empty
      simp [ofBe]
    · have one : (body.take 1).length = 1 := by
        rw [List.length_take]
        omega
      obtain ⟨pointed, sign⟩ := bufGetptr_peek (by rw [one]; decide)
        ((List.take_prefix 1 body).trans present)
      rw [one] at pointed sign
      rw [if_neg empty, if_neg (Nat.not_lt.2 short), pointed, Except.ok_bind, sign,
        Except.ok_bind, if_neg positive, consumes_bufTake small buf present, Except.ok_bind]
  intro buf present
  rw [bufGetmpint_eq]
  exact Consumes.bind _ (consumes_bufGetint four) read buf present

theorem consumed_of_bufGetmpint (returned : bufGetmpint buf = .ok (some val, buf')) :
    ∃ bytes, IsMpint bytes val ∧ bytes <+: buf.rest ∧ buf' = buf.skip bytes.length := by
  rw [bufGetmpint_eq, Except.bind_eq_ok] at returned
  obtain ⟨⟨len, mid⟩, counted, returned⟩ := returned
  obtain ⟨head, four, front, rfl, rfl⟩ := consumed_of_bufGetint counted
  simp only [takeMpint] at returned
  by_cases empty : ofBe head = 0
  · rw [if_pos empty] at returned
    cases returned
    refine ⟨head ++ [], ⟨head, [], four, empty, rfl, rfl, Nat.zero_le _, by simp⟩, ?_, ?_⟩
    · rwa [List.append_nil]
    · rw [List.append_nil, four]
  · by_cases long : ofBe head > bufMaxMpint
    · rw [if_neg empty, if_pos long] at returned
      cases returned
    · rw [if_neg empty, if_neg long, Except.bind_eq_ok] at returned
      obtain ⟨first, pointed, returned⟩ := returned
      rw [Except.bind_eq_ok] at returned
      obtain ⟨sign, looked, returned⟩ := returned
      by_cases negative : sign.any (fun byte => byte ≥ 128)
      · rw [if_pos negative] at returned
        cases returned
      · rw [if_neg negative, Except.bind_eq_ok] at returned
        obtain ⟨⟨body, after⟩, took, same⟩ := returned
        obtain ⟨present, length, _, rfl⟩ := consumed_of_bufTake took
        obtain ⟨front', one, _⟩ := prefix_of_bufGetptr_peek pointed looked
        have leading : sign = body.take 1 := by
          have ahead := List.prefix_of_prefix_length_le front' present (by omega)
          rw [← one]
          exact List.prefix_iff_eq_take.1 ahead
        cases same
        rw [← four] at present
        refine ⟨head ++ body, ⟨head, body, four, length.symm, rfl, rfl, by omega, ?_⟩,
          append_prefix_rest front present, ?_⟩
        · rwa [← leading]
        · rw [Buffer.skip_skip, List.length_append, four, length]

/-! ## Loops over the bytes -/

/-- A loop over the bytes that are left stops behind the last one. -/
theorem ifMore_of_nil {α : Type} (rest : buf.rest = []) (more done : α) :
    (if buf.pos < buf.len then more else done) = done :=
  if_neg fun more => Buffer.pos_lt_len_iff.1 more rest

/-- Otherwise it reads the next one. -/
theorem ifMore_of_cons {α : Type} {c : UInt8} {tail : Bytes} (rest : buf.rest = c :: tail)
    (next : UInt8 × Buffer → Except Exit α) (done : Except Exit α) :
    (if buf.pos < buf.len then bufGetbyte buf >>= next else done) = next (c, buf.skip 1) := by
  rw [if_pos (Buffer.pos_lt_len_iff.2 (by rw [rest]; nofun)), bufGetbyte_of_rest rest,
    Except.ok_bind]

end Dropbear
