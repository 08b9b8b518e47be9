/-
# Owners and items that point to each other

Owners have names and are at addresses.  An owner may hold a pointer to an item of a
list, and an item may hold a pointer back to its owner.  As long as the two kinds of
pointers match, an item that points back leads to an owner that is still there.
-/

import Mathlib

namespace Dropbear.Program

variable {ι α β : Type}

section

variable {γ : Type} [DecidableEq ι] {values : ι → Option γ} {value value' : γ} {i j : ι}

theorem update_cases (found : Function.update values i (some value) j = some value') :
    j = i ∧ value' = value ∨ j ≠ i ∧ values j = some value' := by
  rw [Function.update_apply] at found
  split at found
  case _ same => exact .inl ⟨same, (Option.some_inj.1 found).symm⟩
  case _ other => exact .inr ⟨other, found⟩

theorem update_none (found : Function.update values i none j = some value) :
    j ≠ i ∧ values j = some value := by
  rw [Function.update_apply] at found
  split at found
  · cases found
  case _ other => exact ⟨other, found⟩

end

structure Owner (α β : Type) where
  address : α
  pointer : Option β

structure Item (α β : Type) where
  address : β
  back : Option α

/-- The pointers match. -/
structure Linked (owner : ι → Option (Owner α β)) (items : List (Item α β)) : Prop where
  apart : ∀ i j o o', owner i = some o → owner j = some o' → o.address = o'.address → i = j
  owned : ∀ i o b, owner i = some o → o.pointer = some b → ⟨b, some o.address⟩ ∈ items
  pending : ∀ item ∈ items, ∀ a, item.back = some a →
    ∃ i o, owner i = some o ∧ o.address = a ∧ o.pointer = some item.address
  distinct : (items.map Item.address).Nodup

namespace Linked

theorem empty : Linked (fun _ : ι => (none : Option (Owner α β))) [] where
  apart _ _ _ _ found := by cases found
  owned _ _ _ found := by cases found
  pending _ listed := by cases listed
  distinct := List.nodup_nil

variable {owner : ι → Option (Owner α β)} {items : List (Item α β)} {i : ι}
  {o : Owner α β}

/-- Two items at one address are the same. -/
theorem item_unique (linked : Linked owner items) {item item' : Item α β} (listed : item ∈ items)
    (listed' : item' ∈ items) (same : item.address = item'.address) : item = item' :=
  List.inj_on_of_nodup_map linked.distinct listed listed' same

/-- Only one owner points to an item. -/
theorem owner_unique (linked : Linked owner items) {j : ι} {o' : Owner α β} {b : β}
    (found : owner i = some o) (found' : owner j = some o') (points : o.pointer = some b)
    (points' : o'.pointer = some b) : i = j := by
  have same := linked.item_unique (linked.owned i o b found points)
    (linked.owned j o' b found' points') rfl
  exact linked.apart i j o o' found found' (Option.some_inj.1 (congrArg Item.back same))

/-- A new item that points to nothing. -/
theorem addItem (linked : Linked owner items) {b : β}
    (fresh : ∀ item ∈ items, item.address ≠ b) : Linked owner (items ++ [⟨b, none⟩]) := by
  refine ⟨linked.apart, ?_, ?_, ?_⟩
  · intro j o' b' found points
    exact List.mem_append_left _ (linked.owned j o' b' found points)
  · intro item listed a back
    rcases List.mem_append.1 listed with listed | listed
    · exact linked.pending item listed a back
    · cases List.mem_singleton.1 listed
      cases back
  · rw [List.map_append, List.nodup_append]
    refine ⟨linked.distinct, List.nodup_singleton _, ?_⟩
    intro address listed other listed'
    obtain ⟨item, mem, rfl⟩ := List.mem_map.1 listed
    cases List.mem_singleton.1 listed'
    exact fresh item mem

/-- An item that points to nothing goes away. -/
theorem removeItem [DecidableEq β] (linked : Linked owner items) {item : Item α β}
    (listed : item ∈ items) (unlinked : item.back = none) :
    Linked owner (items.filter (·.address ≠ item.address)) := by
  refine ⟨linked.apart, ?_, ?_, ?_⟩
  · intro j o' b found points
    have mine := linked.owned j o' b found points
    refine List.mem_filter.2 ⟨mine, decide_eq_true ?_⟩
    intro same
    have same := linked.item_unique mine listed same
    rw [← same] at unlinked
    cases unlinked
  · intro other listed' a back
    exact linked.pending other (List.mem_filter.1 listed').1 a back
  · exact linked.distinct.sublist (List.filter_sublist.map _)

variable [DecidableEq ι]

/-- An owner that points to something else is still apart from the others. -/
theorem apart_update (linked : Linked owner items) (found : owner i = some o) (pointer : Option β)
    (j k : ι) (o' o'' : Owner α β)
    (found' : Function.update owner i (some ⟨o.address, pointer⟩) j = some o')
    (found'' : Function.update owner i (some ⟨o.address, pointer⟩) k = some o'')
    (same : o'.address = o''.address) : j = k := by
  have moved : ∀ j o', Function.update owner i (some ⟨o.address, pointer⟩) j = some o' →
      ∃ before, owner j = some before ∧ before.address = o'.address := by
    intro j o' found'
    rcases update_cases found' with ⟨rfl, rfl⟩ | ⟨_, there⟩
    · exact ⟨o, found, rfl⟩
    · exact ⟨o', there, rfl⟩
  obtain ⟨before, there, address⟩ := moved j o' found'
  obtain ⟨before', there', address'⟩ := moved k o'' found''
  exact linked.apart j k before before' there there' (address.trans (same.trans address'.symm))

/-- An owner goes away, and its item no longer points to it. -/
theorem drop [DecidableEq β] (linked : Linked owner items) (found : owner i = some o) :
    Linked (Function.update owner i none)
      (items.map fun item =>
        if o.pointer = some item.address then { item with back := none } else item) := by
  refine ⟨?_, ?_, ?_, ?_⟩
  · intro j k o' o'' found' found''
    exact linked.apart j k o' o'' (update_none found').2 (update_none found'').2
  · intro j o' b found' points
    obtain ⟨other, found'⟩ := update_none found'
    refine List.mem_map.2 ⟨_, linked.owned j o' b found' points, if_neg ?_⟩
    intro points'
    exact other (linked.owner_unique found' found points points')
  · intro item listed a back
    obtain ⟨before, mem, rfl⟩ := List.mem_map.1 listed
    split at back
    · cases back
    case _ other =>
      rw [if_neg other]
      obtain ⟨j, o', found', address, points⟩ := linked.pending before mem a back
      refine ⟨j, o', ?_, address, points⟩
      rw [Function.update_of_ne, found']
      rintro rfl
      cases found.symm.trans found'
      exact other points
  · have addresses : items.map (Item.address ∘ fun item =>
        if o.pointer = some item.address then { item with back := none } else item) =
          items.map Item.address := by
      apply List.map_congr_left
      intro item _
      dsimp only [Function.comp]
      split <;> rfl
    rw [List.map_map, addresses]
    exact linked.distinct

/-- A new owner, without an item. -/
theorem enter (linked : Linked owner items) {a : α} (new : owner i = none)
    (fresh : ∀ j o', owner j = some o' → o'.address ≠ a) :
    Linked (Function.update owner i (some ⟨a, none⟩)) items := by
  refine ⟨?_, ?_, ?_, linked.distinct⟩
  · intro j k o' o'' found found' same
    rcases update_cases found with ⟨first, rfl⟩ | ⟨_, there⟩
    · rcases update_cases found' with ⟨second, rfl⟩ | ⟨_, there'⟩
      · rw [first, second]
      · exact absurd same.symm (fresh k o'' there')
    · rcases update_cases found' with ⟨_, rfl⟩ | ⟨_, there'⟩
      · exact absurd same (fresh j o' there)
      · exact linked.apart j k o' o'' there there' same
  · intro j o' b found points
    rcases update_cases found with ⟨_, rfl⟩ | ⟨_, there⟩
    · cases points
    · exact linked.owned j o' b there points
  · intro item listed a' back
    obtain ⟨j, o', found, address, points⟩ := linked.pending item listed a' back
    refine ⟨j, o', ?_, address, points⟩
    rw [Function.update_of_ne, found]
    rintro rfl
    rw [new] at found
    cases found

/-- An owner without an item and a new item are linked. -/
theorem link (linked : Linked owner items) {a : α} {b : β} (found : owner i = some ⟨a, none⟩)
    (fresh : ∀ item ∈ items, item.address ≠ b) :
    Linked (Function.update owner i (some ⟨a, some b⟩)) (items ++ [⟨b, some a⟩]) := by
  refine ⟨linked.apart_update found (some b), ?_, ?_, ?_⟩
  · intro j o' b' found' points
    rcases update_cases found' with ⟨_, rfl⟩ | ⟨_, there⟩
    · cases points
      exact List.mem_append_right _ (List.mem_singleton_self _)
    · exact List.mem_append_left _ (linked.owned j o' b' there points)
  · intro item listed a' back
    rcases List.mem_append.1 listed with listed | listed
    · obtain ⟨j, o', there, address, points⟩ := linked.pending item listed a' back
      refine ⟨j, o', ?_, address, points⟩
      rw [Function.update_of_ne, there]
      rintro rfl
      cases found.symm.trans there
      cases points
    · cases List.mem_singleton.1 listed
      cases back
      exact ⟨i, ⟨a, some b⟩, Function.update_self .., rfl, rfl⟩
  · have distinct := (linked.addItem fresh).distinct
    rwa [List.map_append] at distinct ⊢

/-- An owner and its item part, and the item goes away. -/
theorem release [DecidableEq β] (linked : Linked owner items) {b : β} (found : owner i = some o)
    (points : o.pointer = some b) :
    Linked (Function.update owner i (some { o with pointer := none }))
      (items.filter (·.address ≠ b)) := by
  refine ⟨linked.apart_update found none, ?_, ?_, ?_⟩
  · intro j o' b' found' points'
    rcases update_cases found' with ⟨_, rfl⟩ | ⟨other, there⟩
    · cases points'
    · refine List.mem_filter.2 ⟨linked.owned j o' b' there points', decide_eq_true ?_⟩
      rintro rfl
      exact other (linked.owner_unique there found points' points)
  · intro item listed a back
    obtain ⟨mem, different⟩ := List.mem_filter.1 listed
    obtain ⟨j, o', there, address, points'⟩ := linked.pending item mem a back
    refine ⟨j, o', ?_, address, points'⟩
    rw [Function.update_of_ne, there]
    rintro rfl
    cases found.symm.trans there
    cases points.symm.trans points'
    exact of_decide_eq_true different rfl
  · exact linked.distinct.sublist (List.filter_sublist.map _)

end Linked

end Dropbear.Program
