/-
# Tables with free slots

A table whose entries know their own place, and have a key of their own.  Entries are entered
in free slots and taken out again, the table grows at its end, and an entry can be replaced by
one with the same place and key.
-/

import Mathlib

namespace Dropbear.Program

universe u v

variable {α : Type u} {κ : Type v} {index : α → Nat} {key : α → κ}
variable {slots : List (Option α)} {entry other : α}

theorem mem_slots_iff : some entry ∈ slots ↔ ∃ place : Nat, slots[place]? = some (some entry) :=
  List.mem_iff_getElem?

/-- What is in the table when a slot has been filled or cleared is what is put there, and what
was elsewhere. -/
theorem mem_set_slot_iff {place : Nat} {content : Option α} (inRange : place < slots.length) :
    some other ∈ slots.set place content ↔
      content = some other ∨ ∃ place', place ≠ place' ∧ slots[place']? = some (some other) := by
  rw [mem_slots_iff]
  constructor
  · rintro ⟨place', found⟩
    by_cases same : place = place'
    · subst same
      rw [List.getElem?_set_self inRange] at found
      exact .inl (Option.some.inj found)
    · rw [List.getElem?_set_ne same] at found
      exact .inr ⟨place', same, found⟩
  · rintro (put | ⟨place', elsewhere, found⟩)
    · exact ⟨place, by rw [List.getElem?_set_self inRange, put]⟩
    · exact ⟨place', by rw [List.getElem?_set_ne elsewhere, found]⟩

theorem mem_grow_iff {count : Nat} :
    some entry ∈ slots ++ List.replicate count none ↔ some entry ∈ slots := by
  simp

theorem mem_fill_iff {place : Nat} (free : slots[place]? = some none) :
    some other ∈ slots.set place (some entry) ↔ other = entry ∨ some other ∈ slots := by
  rw [mem_set_slot_iff (List.getElem?_eq_some_iff.1 free).1, Option.some.injEq, eq_comm,
    mem_slots_iff]
  refine or_congr_right ⟨fun ⟨place', _, found⟩ => ⟨place', found⟩, ?_⟩
  rintro ⟨place', found⟩
  refine ⟨place', ?_, found⟩
  rintro rfl
  cases free.symm.trans found

/-- Every entry is where it says it is, and no two entries have the same key. -/
structure Numbered (index : α → Nat) (key : α → κ) (slots : List (Option α)) : Prop where
  indexed : ∀ place entry, slots[place]? = some (some entry) → index entry = place
  keyed : ∀ entry other, some entry ∈ slots → some other ∈ slots → key entry = key other →
    entry = other

namespace Numbered

theorem place (numbered : Numbered index key slots) (found : some entry ∈ slots) :
    slots[index entry]? = some (some entry) := by
  obtain ⟨place, found⟩ := mem_slots_iff.1 found
  rw [numbered.indexed place entry found]
  exact found

theorem inRange (numbered : Numbered index key slots) (found : some entry ∈ slots) :
    index entry < slots.length :=
  (List.getElem?_eq_some_iff.1 (numbered.place found)).1

theorem grow (numbered : Numbered index key slots) (count : Nat) :
    Numbered index key (slots ++ List.replicate count none) := by
  constructor
  · intro place entry found
    by_cases inside : place < slots.length
    · rw [List.getElem?_append_left inside] at found
      exact numbered.indexed place entry found
    · rw [List.getElem?_append_right (Nat.le_of_not_lt inside)] at found
      cases List.eq_of_mem_replicate (List.mem_of_getElem? found)
  · intro entry other found found'
    exact numbered.keyed entry other (mem_grow_iff.1 found) (mem_grow_iff.1 found')

theorem fill (numbered : Numbered index key slots) (free : slots[index entry]? = some none)
    (fresh : ∀ other, some other ∈ slots → key other ≠ key entry) :
    Numbered index key (slots.set (index entry) (some entry)) := by
  have inRange : index entry < slots.length := (List.getElem?_eq_some_iff.1 free).1
  constructor
  · intro place other found
    by_cases same : index entry = place
    · subst same
      rw [List.getElem?_set_self inRange] at found
      cases found
      rfl
    · rw [List.getElem?_set_ne same] at found
      exact numbered.indexed place other found
  · intro first second found found' same
    rcases (mem_fill_iff free).1 found with first_eq | old
    · rcases (mem_fill_iff free).1 found' with second_eq | old'
      · rw [first_eq, second_eq]
      · exact absurd (same.symm.trans (congrArg key first_eq)) (fresh second old')
    · rcases (mem_fill_iff free).1 found' with second_eq | old'
      · exact absurd (same.trans (congrArg key second_eq)) (fresh first old)
      · exact numbered.keyed first second old old' same

/-- What is elsewhere is another entry. -/
theorem elsewhere_iff (numbered : Numbered index key slots) (found : some entry ∈ slots) :
    (∃ place', index entry ≠ place' ∧ slots[place']? = some (some other)) ↔
      some other ∈ slots ∧ other ≠ entry := by
  constructor
  · rintro ⟨place', elsewhere, found'⟩
    refine ⟨mem_slots_iff.2 ⟨place', found'⟩, ?_⟩
    rintro rfl
    exact elsewhere (numbered.indexed place' other found')
  · rintro ⟨found', different⟩
    refine ⟨index other, fun same => different ?_, numbered.place found'⟩
    have place := numbered.place found
    rw [same, numbered.place found'] at place
    exact Option.some.inj (Option.some.inj place)

theorem mem_clear_iff (numbered : Numbered index key slots) (found : some entry ∈ slots) :
    some other ∈ slots.set (index entry) none ↔ some other ∈ slots ∧ other ≠ entry := by
  rw [mem_set_slot_iff (numbered.inRange found), numbered.elsewhere_iff found]
  exact or_iff_right nofun

theorem clear (numbered : Numbered index key slots) (found : some entry ∈ slots) :
    Numbered index key (slots.set (index entry) none) := by
  constructor
  · intro place other found'
    by_cases same : index entry = place
    · subst same
      rw [List.getElem?_set_self (numbered.inRange found)] at found'
      cases found'
    · rw [List.getElem?_set_ne same] at found'
      exact numbered.indexed place other found'
  · intro first second found₁ found₂
    exact numbered.keyed first second ((numbered.mem_clear_iff found).1 found₁).1
      ((numbered.mem_clear_iff found).1 found₂).1

theorem mem_replace_iff {entry' : α} (numbered : Numbered index key slots)
    (found : some entry ∈ slots) :
    some other ∈ slots.set (index entry) (some entry') ↔
      other = entry' ∨ some other ∈ slots ∧ other ≠ entry := by
  rw [mem_set_slot_iff (numbered.inRange found), numbered.elsewhere_iff found, Option.some.injEq,
    eq_comm]

theorem replace {entry' : α} (numbered : Numbered index key slots) (found : some entry ∈ slots)
    (sameIndex : index entry' = index entry) (sameKey : key entry' = key entry) :
    Numbered index key (slots.set (index entry) (some entry')) := by
  have cleared := numbered.clear found
  have free : (slots.set (index entry) none)[index entry']? = some none := by
    rw [sameIndex, List.getElem?_set_self (numbered.inRange found)]
  have fresh : ∀ other, some other ∈ slots.set (index entry) none → key other ≠ key entry' := by
    intro other left same
    obtain ⟨found', different⟩ := (numbered.mem_clear_iff found).1 left
    exact different (numbered.keyed other entry found' found (same.trans sameKey))
  have filled := cleared.fill free fresh
  rw [sameIndex, List.set_set] at filled
  exact filled

end Numbered

end Dropbear.Program
