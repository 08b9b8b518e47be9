/-
# The grammar of a reader

`Reads read wire` and `Parses read wire` say which byte strings a reader takes
from the position of its buffer: it returns a value there and has stepped over
some bytes exactly if these bytes are a wire form of the value.  `Reads` is for
readers that return a value whenever they return, `Parses` for those that can
also answer with nothing, and about that answer it says nothing.

Readers in sequence read one wire form after the other, so that the grammar of a
parser is put together from those of its parts.
-/

import Dropbear.Buffer.Consume
import Dropbear.Program.BigEndian

namespace Dropbear

open Program

variable {α β : Type}

/-- The wire forms of what a reader returns. -/
structure Reads (read : Buffer → Except Exit (α × Buffer)) (wire : Bytes → α → Prop) : Prop where
  consumes : ∀ {bytes value}, wire bytes value → Consumes read bytes value
  consumed : ∀ {buf value after}, read buf = .ok (value, after) →
    ∃ bytes, wire bytes value ∧ bytes <+: buf.rest ∧ after = buf.skip bytes.length

/-- The wire forms of what a reader accepts. -/
structure Parses (read : Buffer → Except Exit (Option α × Buffer)) (wire : Bytes → α → Prop) :
    Prop where
  consumes : ∀ {bytes value}, wire bytes value → Consumes read bytes (some value)
  consumed : ∀ {buf value after}, read buf = .ok (some value, after) →
    ∃ bytes, wire bytes value ∧ bytes <+: buf.rest ∧ after = buf.skip bytes.length

/-- One wire form, then another that may depend on the value of the first. -/
def InSequence (wire : Bytes → α → Prop) (wire' : α → Bytes → β → Prop) (bytes : Bytes)
    (value : β) : Prop :=
  ∃ front first back, wire front first ∧ wire' first back value ∧ bytes = front ++ back

theorem Reads.andThen {first : Buffer → Except Exit (α × Buffer)}
    {next : α × Buffer → Except Exit (Option β × Buffer)} {wire : Bytes → α → Prop}
    {wire' : α → Bytes → β → Prop} (reads : Reads first wire)
    (parses : ∀ value, Parses (fun buf => next (value, buf)) (wire' value)) :
    Parses (fun buf => first buf >>= next) (InSequence wire wire') where
  consumes := by
    rintro _ value ⟨front, here, back, isFirst, isNext, rfl⟩
    exact (reads.consumes isFirst).bind (fun value buf => next (value, buf))
      ((parses here).consumes isNext)
  consumed := by
    intro buf value after returned
    obtain ⟨⟨here, mid⟩, read, returned⟩ := Except.bind_eq_ok.1 returned
    obtain ⟨front, isFirst, present, rfl⟩ := reads.consumed read
    obtain ⟨back, isNext, present', rfl⟩ := (parses here).consumed returned
    refine ⟨front ++ back, ⟨front, here, back, isFirst, isNext, rfl⟩,
      append_prefix_rest present present', ?_⟩
    rw [Buffer.skip_skip, List.length_append]

namespace Parses

variable {wire : Bytes → α → Prop} {wire' : α → Bytes → β → Prop}

/-- After a reader whose failure ends the whole. -/
theorem orFail {first : Buffer → Except Exit (Option α × Buffer)}
    {next : Option α × Buffer → Except Exit (Option β × Buffer)} (parses : Parses first wire)
    (parses' : ∀ value, Parses (fun buf => next (some value, buf)) (wire' value))
    (failed : ∀ buf answer after, next (none, buf) = .ok (answer, after) → answer = none) :
    Parses (fun buf => first buf >>= next) (InSequence wire wire') where
  consumes := by
    rintro _ value ⟨front, here, back, isFirst, isNext, rfl⟩
    exact (parses.consumes isFirst).bind (fun value buf => next (value, buf))
      ((parses' here).consumes isNext)
  consumed := by
    intro buf value after returned
    obtain ⟨⟨answer, mid⟩, read, returned⟩ := Except.bind_eq_ok.1 returned
    cases answer with
    | none => cases failed _ _ _ returned
    | some here =>
      obtain ⟨front, isFirst, present, rfl⟩ := parses.consumed read
      obtain ⟨back, isNext, present', rfl⟩ := (parses' here).consumed returned
      refine ⟨front ++ back, ⟨front, here, back, isFirst, isNext, rfl⟩,
        append_prefix_rest present present', ?_⟩
      rw [Buffer.skip_skip, List.length_append]

/-- A value that needs no further bytes. -/
theorem pure (value : α) :
    Parses (fun buf => Except.ok (some value, buf)) (fun bytes other => bytes = [] ∧ other = value)
      where
  consumes := by
    rintro _ _ ⟨rfl, rfl⟩
    exact Consumes.pure _
  consumed := by
    intro buf other after returned
    cases returned
    exact ⟨[], ⟨rfl, rfl⟩, List.nil_prefix, by simp⟩

/-- Nothing is accepted. -/
theorem fail : Parses (fun buf => Except.ok ((none : Option α), buf)) (fun _ _ => False) where
  consumes := fun impossible => impossible.elim
  consumed := by
    intro buf value after returned
    cases returned

variable {next : Buffer → Except Exit (Option α × Buffer)}

/-- After a check that something is left, which the wire forms always need. -/
theorem notAtEnd (failure : Exit) (parses : Parses next wire)
    (some : ∀ bytes value, wire bytes value → bytes ≠ []) :
    Parses (fun buf => if buf.pos = buf.len then .error failure else next buf) wire where
  consumes := by
    intro bytes value isNext buf present
    have inside := present.length_le
    have nonempty := List.length_pos_iff.2 (some bytes value isNext)
    rw [Buffer.length_rest] at inside
    dsimp only
    rw [if_neg (by omega)]
    exact parses.consumes isNext buf present
  consumed := by
    intro buf value after returned
    split at returned
    · cases returned
    · exact parses.consumed returned

/-- After a check of what is known already. -/
theorem checked {refused : Prop} [Decidable refused] (parses : ¬ refused → Parses next wire) :
    Parses (fun buf => if refused then .ok (none, buf) else next buf)
      (fun bytes value => ¬ refused ∧ wire bytes value) := by
  by_cases refuse : refused
  · simp only [refuse, if_true, not_true_eq_false, false_and]
    exact fail
  · simpa only [refuse, if_false, not_false_eq_true, true_and] using parses refuse

variable {read : Buffer → Except Exit (Option α × Buffer)}

/-- A function of what is accepted. -/
theorem map (parses : Parses read wire) (f : α → β) :
    Parses (fun buf => read buf >>= fun answer => Except.ok (answer.1.map f, answer.2))
      (fun bytes result => ∃ value, wire bytes value ∧ result = f value) where
  consumes := by
    rintro bytes _ ⟨value, here, rfl⟩ buf present
    dsimp only
    rw [parses.consumes here buf present]
    rfl
  consumed := by
    intro buf result after returned
    obtain ⟨⟨answer, mid⟩, read, same⟩ := Except.bind_eq_ok.1 returned
    cases answer with
    | none => cases same
    | some value =>
      cases same
      obtain ⟨bytes, here, present, rfl⟩ := parses.consumed read
      exact ⟨bytes, ⟨value, here, rfl⟩, present, rfl⟩

/-- After a computation that does not read. -/
theorem ofCheck (check : Except Exit (Option α)) (f : α → β) :
    Parses (fun buf => check >>= fun answer => Except.ok (answer.map f, buf))
      (fun bytes value => bytes = [] ∧ ∃ here, check = .ok (some here) ∧ value = f here) where
  consumes := by
    rintro _ _ ⟨rfl, here, rfl, rfl⟩
    exact Consumes.pure _
  consumed := by
    intro buf value after returned
    obtain ⟨answer, done, same⟩ := Except.bind_eq_ok.1 returned
    cases answer with
    | none => cases same
    | some here =>
      cases same
      exact ⟨[], ⟨rfl, here, done, rfl⟩, List.nil_prefix, by simp⟩

theorem congr {wire' : Bytes → α → Prop} (parses : Parses read wire)
    (same : ∀ bytes value, wire bytes value ↔ wire' bytes value) :
    Parses read wire' := by
  have equal : wire = wire' := funext fun bytes => funext fun value => propext (same bytes value)
  rwa [← equal]

/-- After stepping over bytes that are not looked at. -/
theorem skip {n : Nat} (small : n ≤ bufMaxIncr) (parses : Parses next wire) :
    Parses (fun buf => bufIncrpos buf n >>= next)
      (fun bytes value => ∃ front back, front.length = n ∧ wire back value ∧
        bytes = front ++ back) where
  consumes := by
    rintro _ value ⟨front, back, rfl, isNext, rfl⟩ buf present
    obtain ⟨present, present'⟩ := prefix_rest_of_append present
    dsimp only
    rw [bufIncrpos_eq_skip small present.length_le, Except.ok_bind,
      parses.consumes isNext _ present', Buffer.skip_skip, List.length_append]
  consumed := by
    intro buf value after returned
    obtain ⟨mid, moved, returned⟩ := Except.bind_eq_ok.1 returned
    obtain ⟨inside, rfl⟩ := eq_skip_of_bufIncrpos moved
    obtain ⟨back, isNext, present, rfl⟩ := parses.consumed returned
    have length : (buf.rest.take n).length = n := List.length_take_of_le inside
    refine ⟨buf.rest.take n ++ back, ⟨_, back, length, isNext, rfl⟩,
      append_prefix_rest (List.take_prefix _ _) (by rwa [length]), ?_⟩
    rw [Buffer.skip_skip, List.length_append, length]

end Parses

/-! ## The readers of the buffer layer -/

theorem isString_iff {bytes str : Bytes} :
    IsString bytes str ↔ bytes = wireString str ∧ str.length ≤ maxStringLen := by
  constructor
  · intro wire
    obtain ⟨head, four, count, rfl⟩ := wire.exists_head
    exact ⟨by rw [eq_be32_of_ofBe four count, wireString], wire.short⟩
  · rintro ⟨rfl, short⟩
    exact isString_wireString short

theorem reads_bufGetbyte : Reads bufGetbyte (fun bytes byte => bytes = [byte]) where
  consumes := by
    rintro _ byte rfl
    exact consumes_bufGetbyte byte
  consumed := by
    intro buf byte after returned
    cases rest : buf.rest with
    | nil => exact absurd rest (Buffer.pos_lt_len_iff.1 (bufGetbyte_eq_ok.1 returned).1)
    | cons c tail =>
      cases (bufGetbyte_of_rest rest).symm.trans returned
      exact ⟨_, rfl, ⟨tail, rfl⟩, rfl⟩

theorem reads_bufTake {n : Nat} (small : n ≤ bufMaxIncr) :
    Reads (bufTake n) (fun bytes value => bytes = value ∧ value.length = n) where
  consumes := by
    rintro bytes _ ⟨rfl, rfl⟩
    exact consumes_bufTake small
  consumed := by
    intro buf value after returned
    obtain ⟨present, rfl, _, rfl⟩ := consumed_of_bufTake returned
    exact ⟨value, ⟨rfl, rfl⟩, present, rfl⟩

theorem reads_bufGetint :
    Reads bufGetint (fun bytes value => bytes = be32 value ∧ value < 2 ^ 32) where
  consumes := by
    rintro _ value ⟨rfl, word⟩
    simpa only [ofBe_be32 word] using consumes_bufGetint (length_be32 value)
  consumed := by
    intro buf value after returned
    obtain ⟨bytes, four, present, rfl, rfl⟩ := consumed_of_bufGetint returned
    exact ⟨bytes, ⟨eq_be32_of_ofBe four rfl, ofBe_lt four⟩, present, by rw [four]⟩

theorem reads_bufGetstring :
    Reads bufGetstring (fun bytes str => bytes = wireString str ∧ str.length ≤ maxStringLen) where
  consumes := fun wire => consumes_bufGetstring (isString_iff.2 wire)
  consumed := by
    intro buf str after returned
    obtain ⟨bytes, wire, present, rfl⟩ := consumed_of_bufGetstring returned
    exact ⟨bytes, isString_iff.1 wire, present, rfl⟩

theorem reads_bufGetstringbuf :
    Reads bufGetstringbuf (fun bytes ret => ∃ str, ret.Holds str ∧ bytes = wireString str ∧
      str.length ≤ maxStringLen) where
  consumes := by
    rintro _ ret ⟨str, holds, wire⟩
    exact consumes_bufGetstringbuf (isString_iff.2 wire) holds
  consumed := by
    intro buf ret after returned
    obtain ⟨bytes, str, wire, holds, present, rfl⟩ := consumed_of_bufGetstringbuf returned
    exact ⟨bytes, ⟨str, holds, isString_iff.1 wire⟩, present, rfl⟩

/-- The bytes of an integer that is accepted: not too many, and the first one
not negative. -/
structure MpintBody (body : Bytes) : Prop where
  short : body.length ≤ bufMaxMpint
  positive : ∀ first rest, body = first :: rest → first < 128

theorem any_take_one_iff {body : Bytes} :
    ¬ (body.take 1).any (fun byte => byte ≥ 128) ↔
      ∀ first rest, body = first :: rest → first < 128 := by
  cases body with
  | nil => simp
  | cons byte rest => simp

theorem parses_bufGetmpint :
    Parses bufGetmpint (fun bytes value => ∃ body, MpintBody body ∧ bytes = wireString body ∧
      value = ofBe body) where
  consumes := by
    rintro _ _ ⟨body, ⟨short, positive⟩, rfl, rfl⟩
    have word : body.length < 2 ^ 32 := Nat.lt_of_le_of_lt short (by decide)
    exact consumes_bufGetmpint ⟨be32 body.length, body, length_be32 _, ofBe_be32 word, rfl, rfl,
      short, any_take_one_iff.2 positive⟩
  consumed := by
    intro buf value after returned
    obtain ⟨bytes, wire, present, rfl⟩ := consumed_of_bufGetmpint returned
    obtain ⟨head, body, four, count, rfl, rfl, short, positive⟩ := wire.exists_parts
    exact ⟨_, ⟨body, ⟨short, any_take_one_iff.1 positive⟩,
      by rw [eq_be32_of_ofBe four count, wireString], rfl⟩, present, rfl⟩

end Dropbear
