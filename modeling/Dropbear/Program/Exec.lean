/-
# Reading back a finished computation

A modelled function either returns or ends the process.  The lemmas below take
a computation whose outcome is known apart into the outcomes of its parts, so
that a proof about a function of the source follows the order of its
statements without unfolding the monad.

Computations that only may fail live in `Except`.  Those that also update the
session live in `EStateM`, whose failures keep the state in which the process
ended.
-/

import Mathlib

namespace Dropbear.Program

universe u

section Fallible

variable {ε α β : Type u}

/-- A sequence that returned is a first part that returned, followed by a
second part that returned. -/
theorem Except.bind_eq_ok {first : Except ε α} {next : α → Except ε β} {result : β} :
    (first >>= next) = .ok result ↔ ∃ value, first = .ok value ∧ next value = .ok result := by
  cases first with
  | error failure => exact ⟨nofun, fun ⟨_, h, _⟩ => nomatch h⟩
  | ok value =>
    constructor
    · intro returned
      exact ⟨value, rfl, returned⟩
    · rintro ⟨other, same, returned⟩
      cases same
      exact returned

/-- A sequence fails in its first part, or after the first part returned. -/
theorem Except.bind_eq_error {first : Except ε α} {next : α → Except ε β} {failure : ε} :
    (first >>= next) = .error failure ↔
      first = .error failure ∨ ∃ value, first = .ok value ∧ next value = .error failure := by
  cases first with
  | error other =>
    constructor
    · intro failed
      exact .inl (by simpa [bind, Except.bind] using failed)
    · rintro (same | ⟨_, same, _⟩)
      · rw [same]
        rfl
      · cases same
  | ok value =>
    constructor
    · intro failed
      exact .inr ⟨value, rfl, failed⟩
    · rintro (same | ⟨other, same, failed⟩)
      · cases same
      · cases same
        exact failed

theorem Except.map_eq_ok {computed : Except ε α} {change : α → β} {result : β} :
    computed.map change = .ok result ↔ ∃ value, computed = .ok value ∧ change value = result := by
  cases computed with
  | error failure => exact ⟨nofun, fun ⟨_, same, _⟩ => nomatch same⟩
  | ok value => simp [Except.map]

@[simp]
theorem Except.ok_bind (value : α) (next : α → Except ε β) :
    ((Except.ok value : Except ε α) >>= next) = next value := rfl

/-- A check that refuses with an error returns exactly when it does not refuse. -/
theorem Except.guarded_eq_ok {refused : Prop} [Decidable refused] {failure : ε}
    {result : ¬ refused → α} {value : α} :
    (if h : refused then Except.error failure else .ok (result h)) = .ok value ↔
      ∃ accepted, result accepted = value := by
  by_cases h : refused <;> simp [h]

theorem Except.checked_eq_ok {refused : Prop} [Decidable refused] {failure : ε}
    {result value : α} :
    (if refused then Except.error failure else .ok result) = .ok value ↔
      ¬ refused ∧ value = result := by
  by_cases h : refused <;> simp [h, eq_comm]

end Fallible

section Stateful

variable {ε σ α β : Type u}

variable {first : EStateM ε σ α}

/-- A stateful sequence that returned passes through the state its first part
left. -/
theorem EStateM.bind_eq_ok {next : α → EStateM ε σ β} {before after : σ} {result : β} :
    (first >>= next) before = .ok result after ↔
      ∃ value middle, first before = .ok value middle ∧ next value middle = .ok result after := by
  change EStateM.bind first next before = _ ↔ _
  unfold EStateM.bind
  cases ran : first before with
  | ok value middle =>
    constructor
    · intro returned
      exact ⟨value, middle, rfl, returned⟩
    · rintro ⟨_, _, same, returned⟩
      cases same
      exact returned
  | error failure middle => exact ⟨nofun, fun ⟨_, _, h, _⟩ => nomatch h⟩

/-! ### Running the basic steps -/

@[simp]
theorem EStateM.get_bind_apply (next : σ → EStateM ε σ α) (before : σ) :
    (get >>= next) before = next before before := rfl

@[simp]
theorem EStateM.modify_apply (update : σ → σ) (before : σ) :
    (modify update : EStateM ε σ PUnit) before = .ok ⟨⟩ (update before) := rfl

/-- A sequence whose first part returned. -/
theorem EStateM.bind_of_ok {value : α} {before middle : σ} (ran : first before = .ok value middle)
    (next : α → EStateM ε σ β) :
    (first >>= next) before = next value middle := by
  change EStateM.bind first next before = _
  unfold EStateM.bind
  rw [ran]

/-- A sequence whose first part failed. -/
theorem EStateM.bind_of_error {failure : ε} {before middle : σ}
    (ran : first before = .error failure middle) (next : α → EStateM ε σ β) :
    (first >>= next) before = .error failure middle := by
  change EStateM.bind first next before = _
  unfold EStateM.bind
  rw [ran]

/-- A sequence depends on its first part only through the result. -/
theorem EStateM.bind_congr_first {first first' : EStateM ε σ α} {before : σ}
    (alike : first before = first' before) (next : α → EStateM ε σ β) :
    (first >>= next) before = (first' >>= next) before := by
  cases ran : first before with
  | ok value middle => rw [EStateM.bind_of_ok ran, EStateM.bind_of_ok (alike.symm.trans ran)]
  | error failure middle =>
    rw [EStateM.bind_of_error ran, EStateM.bind_of_error (alike.symm.trans ran)]

/-- The state in which a run ended, whether it returned or failed. -/
def finalState : EStateM.Result ε σ α → σ
  | .ok _ after => after
  | .error _ after => after

@[simp]
theorem finalState_ok (value : α) (after : σ) :
    finalState (.ok value after : EStateM.Result ε σ α) = after := rfl

@[simp]
theorem finalState_error (failure : ε) (after : σ) :
    finalState (.error failure after : EStateM.Result ε σ α) = after := rfl

/-- Whether the run failed. -/
def hasFailed : EStateM.Result ε σ α → Bool
  | .ok _ _ => false
  | .error _ _ => true

end Stateful

end Dropbear.Program
