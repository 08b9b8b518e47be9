/-
# Whole files

`buf_readfile` of `dbutil.c` reads a file into a buffer, from the position on and up to the end
of the file or of the buffer.  The results of the calls of `read` are given.

A call that was interrupted is meant to be made again.  The `continue` however goes to the
condition of the loop, which sees the negative result and ends the loop, and what was read so
far is returned as the whole file.
-/

import Dropbear.Buffer.Append
import Dropbear.Program.Reads

namespace Dropbear

open Program

/-- One call of `read` and its result, with what is left of the file; `none` is an error. -/
def readRound (content : Bytes) (buf : Buffer) (maxlen : Nat) (call : ReadCall) :
    Except Exit (Option (Int × Bytes × Buffer)) := do
  let ptr ← bufGetwriteptr buf maxlen
  match call with
  | .failed => pure none
  | .interrupted => pure (some (-1, content, buf))
  | .deliver count =>
    let bytes := taken count maxlen content
    let buf ← buf.poke ptr bytes
    let buf ← bufIncrwritepos buf bytes.length
    pure (some (bytes.length, content.drop bytes.length, buf))

/-- The loop, and whether it leads to success.  It is `none` as long as the calls do not end
the loop. -/
def readRounds : List ReadCall → Bytes → Buffer → Except Exit (Option (Bool × Buffer))
  | [], _, _ => pure none
  | call :: calls, content, buf => do
    let maxlen := buf.data.length - buf.pos
    match ← readRound content buf maxlen call with
    | none => pure (some (false, buf))
    | some (len, content, buf) =>
      -- an interrupted call comes here as well
      if len < maxlen ∧ len > 0 then readRounds calls content buf
      else pure (some (true, buf))

/-- Read a file, which is `none` if it cannot be opened. -/
def bufReadfile (calls : List ReadCall) (buf : Buffer) :
    Option Bytes → Except Exit (Option (Bool × Buffer))
  | none => pure (some (false, buf))
  | some content => readRounds calls content buf

theorem exists_readRound_deliver (count : Nat) (content : Bytes) (buf : Buffer) {bytes : Bytes}
    (delivered : bytes = taken count (buf.data.length - buf.pos) content) :
    ∃ read, readRound content buf (buf.data.length - buf.pos) (.deliver count) =
      .ok (some (bytes.length, content.drop bytes.length, read)) ∧ StoredAt buf read bytes := by
  have used := buf.pos_le_len
  have allocated := buf.len_le_size
  have most : buf.data.length ≤ bufMaxIncr := buf.size_le_max
  have short := length_taken_le count (buf.data.length - buf.pos) content
  rw [← delivered] at short
  have ptr : bufGetwriteptr buf (buf.data.length - buf.pos) = .ok buf.pos :=
    bufGetwriteptr_eq_ok.2 ⟨⟨by omega, by omega⟩, rfl⟩
  obtain ⟨stored, poked, data, len, pos⟩ := buf.exists_poke buf.pos bytes (by omega)
  obtain ⟨read, moved, data', len', pos'⟩ := exists_bufIncrwritepos stored bytes.length
    (by omega) (by rw [data, length_overwrite (by omega), pos]; omega)
  refine ⟨read, ?_, by omega, data'.trans data, by rw [len', len, pos], by rw [pos', pos]⟩
  simp only [readRound, ptr, ← delivered, poked, moved, Except.ok_bind]
  rfl

/-- A call is interrupted while there are bytes left and room for them, and no call has failed
before it. -/
def CutShort : List ReadCall → Bytes → Nat → Prop
  | [], _, _ => False
  | .failed :: _, _, _ => False
  | .interrupted :: _, content, room => content ≠ [] ∧ 0 < room
  | .deliver count :: calls, content, room =>
    let bytes := taken count room content
    CutShort calls (content.drop bytes.length) (room - bytes.length)

theorem not_cutShort {content : Bytes} {room : Nat} (calls : List ReadCall)
    (nothing : content = [] ∨ room = 0) : ¬ CutShort calls content room := by
  induction calls generalizing content room with
  | nil => exact id
  | cons call calls ih =>
    cases call with
    | failed => exact id
    | interrupted =>
      rintro ⟨left, room_pos⟩
      rcases nothing with rfl | rfl
      · exact left rfl
      · exact Nat.lt_irrefl _ room_pos
    | deliver count =>
      apply ih
      rcases nothing with rfl | rfl
      · exact .inl List.drop_nil
      · exact .inr (Nat.zero_sub _)

/-- Where a call is cut short the loop ends with less than it had room for, and otherwise a
success means that it has read on until nothing was left or the buffer was full. -/
theorem exists_readRounds (calls : List ReadCall) (content : Bytes) (buf : Buffer) :
    ∃ result, readRounds calls content buf = .ok result ∧
      (content.length < calls.length → result ≠ none) ∧
      (CutShort calls content (buf.data.length - buf.pos) →
        ∃ after bytes, result = some (true, after) ∧ StoredAt buf after bytes ∧
          bytes.length < (content.take (buf.data.length - buf.pos)).length) ∧
      (¬ CutShort calls content (buf.data.length - buf.pos) → ∀ after,
        result = some (true, after) →
          StoredAt buf after (content.take (buf.data.length - buf.pos))) := by
  induction calls generalizing content buf with
  | nil => exact ⟨none, rfl, fun enough => absurd enough (Nat.not_lt_zero _), False.elim, nofun⟩
  | cons call calls ih =>
    have used := buf.pos_le_len
    have allocated := buf.len_le_size
    have ptr : bufGetwriteptr buf (buf.data.length - buf.pos) = .ok buf.pos :=
      bufGetwriteptr_eq_ok.2 ⟨⟨Nat.le_trans (Nat.sub_le _ _) buf.size_le_max, by omega⟩, rfl⟩
    cases call with
    | interrupted =>
      refine ⟨some (true, buf), ?_, nofun, ?_, ?_⟩
      · simp [readRounds, readRound, ptr]
        rfl
      · rintro ⟨left, room⟩
        refine ⟨buf, [], rfl, .nil buf, ?_⟩
        have some := List.length_pos_iff.2 left
        rw [List.length_take, List.length_nil]
        omega
      · rintro whole _ ⟨⟩
        have nothing : content.take (buf.data.length - buf.pos) = [] := by
          by_contra left
          exact whole ⟨fun empty => left (by rw [empty, List.take_nil]),
            Nat.pos_of_ne_zero fun full => left (by rw [full, List.take_zero])⟩
        rw [nothing]
        exact .nil buf
    | failed =>
      refine ⟨some (false, buf), ?_, nofun, False.elim, nofun⟩
      rw [readRounds, readRound, ptr]
      rfl
    | deliver count =>
      generalize delivered : taken count (buf.data.length - buf.pos) content = bytes
      obtain ⟨read, round, stored⟩ := exists_readRound_deliver count content buf delivered.symm
      have split := congrArg List.length
        (taken_append_drop count (buf.data.length - buf.pos) content)
      have joined := taken_append_take count (buf.data.length - buf.pos) content
      rw [delivered, List.length_append] at split
      rw [delivered] at joined
      have room : read.data.length - read.pos = buf.data.length - buf.pos - bytes.length := by
        rw [stored.size, stored.pos, Nat.sub_sub]
      obtain ⟨result, ran, ends, cut, filled⟩ := ih (content.drop bytes.length) read
      rw [room] at cut filled
      rw [CutShort, delivered]
      simp only [readRounds, round, Except.ok_bind, Int.ofNat_lt, gt_iff_lt, Int.natCast_pos]
      split
      next more =>
        refine ⟨result, ran, fun enough => ends ?_, fun short => ?_, fun whole after same => ?_⟩
        · rw [List.length_cons] at enough
          omega
        · obtain ⟨after, bytes', same, rest, fewer⟩ := cut short
          refine ⟨after, bytes ++ bytes', same, stored.trans rest, ?_⟩
          rw [← joined, List.length_append, List.length_append]
          omega
        · exact joined ▸ stored.trans (filled whole after same)
      next last =>
        -- either the buffer is full or the file has ended
        have nothing : content.drop bytes.length = [] ∨
            buf.data.length - buf.pos - bytes.length = 0 := by
          by_cases full : buf.data.length - buf.pos ≤ bytes.length
          · exact .inr (Nat.sub_eq_zero_of_le full)
          · have empty : bytes = [] := List.eq_nil_of_length_eq_zero (by omega)
            rw [empty, (taken_eq_nil (by omega)).1 (delivered.trans empty)]
            exact .inl rfl
        refine ⟨_, rfl, nofun, fun short => absurd short (not_cutShort calls nothing), ?_⟩
        rintro _ _ ⟨⟩
        have all : content.take (buf.data.length - buf.pos) = bytes := by
          rw [← joined]
          rcases nothing with ended | full
          · rw [ended, List.take_nil, List.append_nil]
          · rw [full, List.take_zero, List.append_nil]
        rw [all]
        exact stored

/-- What counts as read is the file up to its end or to the end of the buffer, behind what the
buffer held in front of its position. -/
def ReadWhole (calls : List ReadCall) (buf : Buffer) (file : Option Bytes) : Prop :=
  ∀ after, bufReadfile calls buf file = .ok (some (true, after)) → ∃ content,
    file = some content ∧
      after.data.take after.pos =
        buf.data.take buf.pos ++ content.take (buf.data.length - buf.pos) ∧
      after.len = max buf.len after.pos

/-- The function does not exit and ends once there are more calls than bytes, and a file that
counts as read is whole exactly if no call that is made is interrupted while there are bytes
left and room for them. -/
theorem readWhole_iff (calls : List ReadCall) (buf : Buffer) (file : Option Bytes) :
    (∃ result, bufReadfile calls buf file = .ok result ∧
      ∀ content, file = some content → content.length < calls.length → result ≠ none) ∧
      (ReadWhole calls buf file ↔
        ∀ content, file = some content → ¬ CutShort calls content (buf.data.length - buf.pos)) := by
  cases file with
  | none => exact ⟨⟨_, rfl, nofun⟩, fun _ => nofun, fun _ _ => nofun⟩
  | some content =>
    obtain ⟨result, ran, ends, cut, filled⟩ := exists_readRounds calls content buf
    refine ⟨⟨result, ran, ?_⟩, ?_, ?_⟩
    · rintro _ ⟨⟩
      exact ends
    · rintro whole _ ⟨⟩ short
      obtain ⟨after, bytes, rfl, stored, fewer⟩ := cut short
      obtain ⟨_, ⟨⟩, all, _⟩ := whole after ran
      rw [stored.data, stored.pos, take_overwrite_end stored.room,
        List.append_cancel_left_eq] at all
      exact Nat.ne_of_lt fewer (congrArg List.length all)
    · intro whole after ran'
      have stored := filled (whole content rfl) after (Except.ok.inj (ran.symm.trans ran'))
      refine ⟨content, rfl, ?_, stored.pos ▸ stored.len⟩
      rw [stored.data, stored.pos, take_overwrite_end stored.room]

/-- An interrupted call makes an empty buffer count as the file. -/
theorem bufReadfile_interrupted :
    ∃ buf, bufNew 8 = .ok buf ∧
      bufReadfile [.interrupted, .deliver 2] buf (some (ascii "key")) = .ok (some (true, buf)) ∧
      buf.contents = [] :=
  ⟨_, rfl, rfl, rfl⟩

end Dropbear
