/-
# Drawing until a value is accepted

A loop that draws from a finite source until what is drawn is accepted.  Probabilities are
counted: if every draw is as likely as any other, then so is every sequence of draws of one
length.  Values that are accepted from the same number of draws are results of the same number
of sequences, whatever their length, and the sequences without a result are those in which
every draw is rejected.
-/

import Mathlib

namespace Dropbear.Program

universe u v

variable {α : Type u} {β : Type v} [DecidableEq α] [DecidableEq β]

/-- The sequences of so many draws. -/
def drawn (source : Finset α) : Nat → Finset (List α)
  | 0 => {[]}
  | count + 1 => (source ×ˢ drawn source count).image fun (first, rest) => first :: rest

omit [DecidableEq α] in
theorem cons_injective : Function.Injective fun pair : α × List α => pair.1 :: pair.2 := by
  rintro ⟨first, rest⟩ ⟨first', rest'⟩ same
  cases same
  rfl

/-- How many sequences with one more draw there are of a kind. -/
theorem card_filter_drawn_succ (source : Finset α) (count : Nat) (holds : List α → Prop)
    [DecidablePred holds] :
    ((drawn source (count + 1)).filter holds).card =
      ∑ first ∈ source, ((drawn source count).filter fun rest => holds (first :: rest)).card := by
  rw [drawn, Finset.filter_image, Finset.card_image_of_injective _ cons_injective,
    Finset.card_filter, Finset.sum_product]
  exact Finset.sum_congr rfl fun first _ => (Finset.card_filter _ _).symm

theorem card_drawn (source : Finset α) (count : Nat) :
    (drawn source count).card = source.card ^ count := by
  induction count with
  | zero => rfl
  | succ count ih =>
    rw [drawn, Finset.card_image_of_injective _ cons_injective, Finset.card_product, ih, pow_succ,
      mul_comm]

/-- The sequences of draws with a result. -/
def yielding (source : Finset α) (accept : α → Option β) (count : Nat) (result : Option β) :
    Finset (List α) :=
  (drawn source count).filter fun draws => draws.findSome? accept = result

section

variable {source : Finset α} {accept : α → Option β}

/-- A value is the result if it is accepted at once, or if the first draw is rejected and it is
the result of the others. -/
theorem card_yielding_succ (count : Nat) (value : β) :
    (yielding source accept (count + 1) (some value)).card =
      (source.filter fun draw => accept draw = some value).card * source.card ^ count +
        (source.filter fun draw => accept draw = none).card *
          (yielding source accept count (some value)).card := by
  rw [yielding, card_filter_drawn_succ, ← card_drawn, Finset.card_filter, Finset.card_filter,
    Finset.sum_mul, Finset.sum_mul, ← Finset.sum_add_distrib]
  refine Finset.sum_congr rfl fun first _ => ?_
  cases accepted : accept first with
  | none => simp [accepted, yielding]
  | some other =>
    by_cases same : other = value
    · simp [accepted, same]
    · simp [accepted, same]

/-- **Values that are accepted from the same number of draws** are equally likely. -/
theorem card_yielding_eq {value value' : β}
    (same : (source.filter fun draw => accept draw = some value).card =
      (source.filter fun draw => accept draw = some value').card) (count : Nat) :
    (yielding source accept count (some value)).card =
      (yielding source accept count (some value')).card := by
  induction count with
  | zero => rfl
  | succ count ih => rw [card_yielding_succ, card_yielding_succ, same, ih]

/-- Nothing has been accepted after so many draws. -/
theorem card_yielding_none (count : Nat) :
    (yielding source accept count none).card =
      (source.filter fun draw => accept draw = none).card ^ count := by
  induction count with
  | zero => rfl
  | succ count ih =>
    rw [yielding, card_filter_drawn_succ, pow_succ, mul_comm, ← ih, Finset.card_filter,
      Finset.sum_mul]
    refine Finset.sum_congr rfl fun first _ => ?_
    cases accepted : accept first with
    | none => simp [accepted, yielding]
    | some other => simp [accepted]

end

end Dropbear.Program
