/-
# Byte strings, big-endian words and overwritten memory

The lemmas about `overwrite` say what a store at an offset leaves before, at
and after the stored bytes.  They are stated for lists of arbitrary elements:
nothing about them depends on the elements being bytes.
-/

import Mathlib

namespace Dropbear.Program

/-- A byte string. -/
abbrev Bytes := List UInt8

instance lawfulBEqBytes : LawfulBEq Bytes := inferInstance

/-- The four bytes of a word, most significant first. -/
def be32 (n : Nat) : Bytes :=
  [(n / 2 ^ 24).toUInt8, (n / 2 ^ 16).toUInt8, (n / 2 ^ 8).toUInt8, n.toUInt8]

/-- The number denoted by a byte string, most significant byte first. -/
def ofBe (bytes : Bytes) : Nat := bytes.foldl (fun acc byte => acc * 256 + byte.toNat) 0

/-- The bytes of an ASCII text. -/
def ascii (text : String) : Bytes := text.toList.map (fun c => c.toNat.toUInt8)

/-- The bytes before the first zero byte, as the C string functions see them. -/
def cString (bytes : Bytes) : Bytes := bytes.takeWhile (fun byte => byte ≠ 0)

@[simp]
theorem length_be32 (n : Nat) : (be32 n).length = 4 := rfl

/-- Four bytes denote a word. -/
theorem ofBe_lt {bytes : Bytes} (four : bytes.length = 4) : ofBe bytes < 2 ^ 32 := by
  obtain ⟨a, b, c, d, rfl⟩ : ∃ a b c d, bytes = [a, b, c, d] := by
    match bytes, four with
    | [a, b, c, d], _ => exact ⟨a, b, c, d, rfl⟩
  have ha := a.toNat_lt
  have hb := b.toNat_lt
  have hc := c.toNat_lt
  have hd := d.toNat_lt
  simp only [ofBe, List.foldl_cons, List.foldl_nil]
  omega

/-- Reading back a stored word returns it. -/
@[simp]
theorem ofBe_be32 {n : Nat} (fits : n < 2 ^ 32) : ofBe (be32 n) = n := by
  simp only [ofBe, be32, List.foldl_cons, List.foldl_nil, Nat.toUInt8, UInt8.toNat_ofNat']
  omega

section Overwrite

variable {α : Type*}

/-- Memory after `bytes` has been stored at `off`. -/
def overwrite (mem : List α) (off : Nat) (bytes : List α) : List α :=
  mem.take off ++ bytes ++ mem.drop (off + bytes.length)

variable {off : Nat} {mem bytes : List α}

/-- A store that stays inside the memory does not change its size. -/
@[simp]
theorem length_overwrite (inside : off + bytes.length ≤ mem.length) :
    (overwrite mem off bytes).length = mem.length := by
  simp only [overwrite, List.length_append, List.length_take, List.length_drop]
  omega

/-- Everything up to the end of the stored bytes. -/
theorem take_overwrite_end (inside : off + bytes.length ≤ mem.length) :
    (overwrite mem off bytes).take (off + bytes.length) = mem.take off ++ bytes := by
  have split : (mem.take off ++ bytes).length = off + bytes.length := by
    simp only [List.length_append, List.length_take]
    omega
  rw [overwrite, ← split, List.take_left]

/-- A store that ends before `n` acts on the first `n` elements alone. -/
theorem take_overwrite {off n : Nat} (ends : off + bytes.length ≤ n) (inside : n ≤ mem.length) :
    (overwrite mem off bytes).take n = overwrite (mem.take n) off bytes := by
  have split : (mem.take off ++ bytes).length = off + bytes.length := by
    simp only [List.length_append, List.length_take]
    omega
  have rest : n = (mem.take off ++ bytes).length + (n - (off + bytes.length)) := by omega
  rw [overwrite, rest, List.take_append, split]
  simp only [overwrite, List.take_take, List.drop_take]
  rw [List.take_of_length_le (by omega), show min off _ = off by omega]

/-- The stored bytes. -/
theorem take_drop_overwrite (inside : off + bytes.length ≤ mem.length) :
    ((overwrite mem off bytes).drop off).take bytes.length = bytes := by
  have length : (mem.take off).length = off := List.length_take_of_le (by omega)
  rw [overwrite, List.append_assoc, List.drop_left' length, List.take_left]

/-- One store behind another. -/
theorem overwrite_overwrite {mem bytes bytes' : List α} (inside : off + bytes.length ≤ mem.length) :
    overwrite (overwrite mem off bytes) (off + bytes.length) bytes' =
      overwrite mem off (bytes ++ bytes') := by
  have split : (mem.take off ++ bytes).length = off + bytes.length := by
    rw [List.length_append, List.length_take]
    omega
  have behind : (overwrite mem off bytes).drop (off + bytes.length + bytes'.length) =
      mem.drop (off + (bytes ++ bytes').length) := by
    rw [overwrite, ← split, List.drop_append, List.drop_eq_nil_of_le (by omega), List.nil_append,
      List.drop_drop, split, List.length_append]
    congr 1
    omega
  rw [overwrite, take_overwrite_end inside, behind, overwrite]
  simp only [List.append_assoc]

/-- A store over a part of the same length replaces it. -/
theorem overwrite_append_append {front slot bytes tail : List α}
    (length : bytes.length = slot.length) :
    overwrite (front ++ (slot ++ tail)) front.length bytes = front ++ (bytes ++ tail) := by
  have behind : (front ++ (slot ++ tail)).drop (front.length + bytes.length) = tail := by
    rw [← List.append_assoc, length, ← List.length_append, List.drop_left]
  rw [overwrite, List.take_left, behind, List.append_assoc]

end Overwrite

end Dropbear.Program
