/-
# Specifications of computations that may fail

What a computation can return and how it can fail, stated together.  A sequence
meets a specification if its first part meets one whose results the rest starts
from.  A specification is about one run, from one state, so that the state is at
hand in the proof.
-/

import Dropbear.Program.Run

namespace Dropbear.Program

universe u

/-! ## Failures -/

section

variable {ε α β : Type u}

/-- Every failure of the computation is one that is allowed. -/
def FailsOnly (allowed : ε → Prop) (computed : Except ε α) : Prop :=
  ∀ failure, computed = .error failure → allowed failure

namespace FailsOnly

variable {allowed : ε → Prop}

theorem ok (value : α) : FailsOnly allowed (.ok value) := nofun

theorem error {failure : ε} (isAllowed : allowed failure) :
    FailsOnly allowed (.error failure : Except ε α) := by
  intro other same
  cases same
  exact isAllowed

theorem mono {allowed' : ε → Prop} {computed : Except ε α} (failsOnly : FailsOnly allowed computed)
    (weaker : ∀ failure, allowed failure → allowed' failure) : FailsOnly allowed' computed :=
  fun failure failed => weaker failure (failsOnly failure failed)

theorem bind {first : Except ε α} {next : α → Except ε β} (start : FailsOnly allowed first)
    (rest : ∀ value, first = .ok value → FailsOnly allowed (next value)) :
    FailsOnly allowed (first >>= next) := by
  intro failure failed
  rcases Except.bind_eq_error.1 failed with failed | ⟨value, returned, failed⟩
  · exact start failure failed
  · exact rest value returned failure failed

section

variable {refused : Prop} [Decidable refused] {failure : ε}

theorem guarded {result : ¬ refused → α} (isAllowed : allowed failure) :
    FailsOnly allowed (if big : refused then .error failure else .ok (result big)) := by
  split
  · exact .error isAllowed
  · exact .ok _

theorem checked {value : α} (isAllowed : allowed failure) :
    FailsOnly allowed (if refused then .error failure else .ok value) :=
  guarded isAllowed

end

end FailsOnly

/-- The failures that a program raises itself, in contrast to errors in it. -/
class Failure (ε : Type u) where
  regular : ε → Prop

variable [Failure ε]

/-- Under the condition the computation returns, and what it returns satisfies `result`.
It fails only regularly. -/
structure Returns (condition : Prop) (result : α → Prop) (computed : Except ε α) : Prop where
  returns : condition → ∃ value, computed = .ok value
  sound : ∀ value, computed = .ok value → result value
  fails : FailsOnly Failure.regular computed

namespace Returns

variable {condition : Prop} {result result' : α → Prop} {computed : Except ε α}

theorem ok {value : α} (holds : result value) :
    Returns condition result (.ok value : Except ε α) where
  returns _ := ⟨value, rfl⟩
  sound other same := by
    cases same
    exact holds
  fails := .ok value

theorem error {failure : ε} (never : ¬ condition) (isRegular : Failure.regular failure) :
    Returns condition result (.error failure : Except ε α) where
  returns holds := absurd holds never
  sound := nofun
  fails := .error isRegular

theorem exists_ok (returns : Returns condition result computed) (holds : condition) :
    ∃ value, computed = .ok value ∧ result value := by
  obtain ⟨value, returned⟩ := returns.returns holds
  exact ⟨value, returned, returns.sound value returned⟩

theorem mono (returns : Returns condition result computed) {condition' : Prop}
    (stronger : condition' → condition) (weaker : ∀ value, result value → result' value) :
    Returns condition' result' computed where
  returns holds := returns.returns (stronger holds)
  sound value returned := weaker value (returns.sound value returned)
  fails := returns.fails

theorem bind {first : Except ε α} {next : α → Except ε β} {final : β → Prop}
    (start : Returns condition result first)
    (rest : ∀ value, result value → Returns condition final (next value)) :
    Returns condition final (first >>= next) where
  returns holds := by
    obtain ⟨value, returned⟩ := start.returns holds
    rw [returned]
    exact (rest value (start.sound value returned)).returns holds
  sound value returned := by
    obtain ⟨middle, returned, returned'⟩ := Except.bind_eq_ok.1 returned
    exact (rest middle (start.sound middle returned)).sound value returned'
  fails := start.fails.bind fun value returned => (rest value (start.sound value returned)).fails

/-- A check returns if it does not refuse. -/
theorem checked {refused : Prop} [Decidable refused] {failure : ε} {value : α}
    (accepted : condition → ¬ refused) (isRegular : Failure.regular failure) :
    Returns condition (fun returned => ¬ refused ∧ returned = value)
      (if refused then .error failure else .ok value) where
  returns holds := ⟨value, if_neg (accepted holds)⟩
  sound _ := Except.checked_eq_ok.1
  fails := .checked isRegular

end Returns

end

/-! ## Results and failures of stateful computations -/

section

variable {ε σ α β : Type u}

/-- How a run failed, if it did. -/
def failureOf : EStateM.Result ε σ α → Option ε
  | .ok _ _ => none
  | .error failure _ => some failure

/-- A run that returned satisfies `returned`, and one that failed satisfies
`failed`. -/
def Ends (returned : α → σ → Prop) (failed : ε → σ → Prop) : EStateM.Result ε σ α → Prop
  | .ok value after => returned value after
  | .error failure after => failed failure after

namespace Ends

variable {returned returned' : α → σ → Prop} {failed : ε → σ → Prop} {before : σ}

variable {first : EStateM ε σ α}

theorem bind {between : α → σ → Prop} {final : β → σ → Prop} {next : α → EStateM ε σ β}
    (start : Ends between failed (first before))
    (rest : ∀ value middle, between value middle → Ends final failed (next value middle)) :
    Ends final failed ((first >>= next) before) := by
  cases ran : first before with
  | ok value middle =>
    rw [ran] at start
    rw [EStateM.bind_of_ok ran]
    exact rest value middle start
  | error failure middle =>
    rw [ran] at start
    rw [EStateM.bind_of_error ran]
    exact start

/-- Two sequences with the same first part are the same if they go on alike from what
that part leads to. -/
theorem bind_congr {between : α → σ → Prop} {next next' : α → EStateM ε σ β}
    (start : Ends between failed (first before))
    (alike : ∀ value middle, between value middle → next value middle = next' value middle) :
    (first >>= next) before = (first >>= next') before := by
  cases ran : first before with
  | ok value middle =>
    rw [ran] at start
    rw [EStateM.bind_of_ok ran, EStateM.bind_of_ok ran]
    exact alike value middle start
  | error failure middle => rw [EStateM.bind_of_error ran, EStateM.bind_of_error ran]

variable {result : EStateM.Result ε σ α}

theorem mono (ends : Ends returned failed result)
    (weaker : ∀ value after, returned value after → returned' value after) :
    Ends returned' failed result := by
  cases result with
  | ok value after => exact weaker value after ends
  | error failure after => exact ends

theorem imp {failed' : ε → σ → Prop} (ends : Ends returned failed result)
    (weaker : ∀ value after, returned value after → returned' value after)
    (weaker' : ∀ failure after, failed failure after → failed' failure after) :
    Ends returned' failed' result := by
  cases result with
  | ok value after => exact weaker value after ends
  | error failure after => exact weaker' failure after ends

/-- A property of the state does not depend on what is returned. -/
theorem andReturn {holds : σ → Prop} (value : β)
    (ends : Ends (fun _ => holds) failed (first before)) :
    Ends (fun _ => holds) failed ((first >>= fun _ => pure value) before) :=
  ends.bind fun _ _ held => held

theorem ofNoFailure (ends : Ends returned (fun _ _ => False) result) :
    Ends returned failed result := by
  cases result with
  | ok value after => exact ends
  | error failure after => exact ends.elim

/-- What both kinds of ending give holds of the final state. -/
theorem finalState {holds : σ → Prop} (ends : Ends (fun _ => holds) (fun _ => holds) result) :
    holds (finalState result) := by
  cases result <;> exact ends

theorem ofFinalState {holds : σ → Prop} (held : holds (Program.finalState result)) :
    Ends (fun _ => holds) (fun _ => holds) result := by
  cases result <;> exact held

end Ends

end

/-! ## Properties of the state that a computation keeps -/

section

variable {ε σ α β : Type u} {holds good : σ → Prop} {allowed : ε → Prop}

/-- From a state of this kind the computation leads to a good one, or it fails in a way that
is allowed, with the state still of this kind. -/
def Leads (holds good : σ → Prop) (allowed : ε → Prop) (run : EStateM ε σ α) : Prop :=
  ∀ before, holds before →
    Ends (fun _ => good) (fun failure after => holds after ∧ allowed failure) (run before)

/-- From a state of this kind the computation gets to such a state, whether it returns
or fails. -/
abbrev Maintains (holds : σ → Prop) (run : EStateM ε σ α) : Prop :=
  Leads holds holds (fun _ => True) run

namespace Leads

theorem pure (value : α) : Leads holds holds allowed (Pure.pure value : EStateM ε σ α) :=
  fun _ held => held

theorem throw {failure : ε} (isAllowed : allowed failure) :
    Leads holds good allowed (MonadExcept.throw failure : EStateM ε σ α) :=
  fun _ held => ⟨held, isAllowed⟩

theorem bind {first : EStateM ε σ α} {next : α → EStateM ε σ β}
    (start : Leads holds holds allowed first) (rest : ∀ value, Leads holds good allowed (next value)) :
    Leads holds good allowed (first >>= next) :=
  fun before held => (start before held).bind fun value middle => rest value middle

theorem imp {good' : σ → Prop} {allowed' : ε → Prop} {run : EStateM ε σ α}
    (leads : Leads holds good allowed run) (weaker : ∀ after, good after → good' after)
    (weaker' : ∀ failure, allowed failure → allowed' failure) : Leads holds good' allowed' run :=
  fun before held => (leads before held).imp (fun _ => weaker) fun failure _ both =>
    ⟨both.1, weaker' failure both.2⟩

theorem modified {update : σ → σ} (kept : ∀ before, holds before → good (update before)) :
    Leads holds good allowed (modify update : EStateM ε σ PUnit) :=
  kept

/-- What is read is a state of this kind. -/
theorem get_bind {next : σ → EStateM ε σ α}
    (rest : ∀ before, holds before → Leads holds good allowed (next before)) :
    Leads holds good allowed (get >>= next) :=
  fun before held => rest before held before held

theorem set_bind {after : σ} {next : PUnit → EStateM ε σ α} (held : holds after)
    (rest : Leads holds good allowed (next ⟨⟩)) : Leads holds good allowed (set after >>= next) :=
  fun _ _ => rest after held

end Leads

end

section

variable {ε σ ι : Type} {step : ι → EStateM ε σ Unit} {holds : σ → Prop} {failed : ε → σ → Prop}

/-- A specification of a step whose results are states to start from holds of every
run, from states and on inputs that meet its condition. -/
theorem ends_runAll (meets : ι → σ → Prop)
    (each : ∀ input before, meets input before → holds before →
      Ends (fun _ => holds) failed (step input before))
    {inputs : List ι} {start : σ} (met : AllMeet step meets inputs start) (initially : holds start) :
    Ends (fun _ => holds) failed (runAll step inputs start) := by
  induction inputs generalizing start with
  | nil => exact initially
  | cons input rest ih =>
    have ends := each input start met.1 initially
    cases ran : step input start with
    | ok value after =>
      rw [ran] at ends
      rw [runAll_cons_of_ok ran]
      exact ih (met.2 after ran) ends
    | error failure after =>
      rw [ran] at ends
      rw [runAll_cons_of_error ran]
      exact ends

/-- A property that every step keeps, from states and on inputs that meet a
condition, holds at the end of every run that meets it throughout. -/
theorem runAll_keeps (meets : ι → σ → Prop)
    (keeps : ∀ input before, meets input before → holds before →
      holds (finalState (step input before)))
    {inputs : List ι} {start : σ} (met : AllMeet step meets inputs start) (initially : holds start) :
    holds (finalState (runAll step inputs start)) :=
  (ends_runAll meets (fun input before met held => .ofFinalState (keeps input before met held)) met
    initially).finalState

/-- A property that every step keeps holds at the end of every run. -/
theorem runAll_invariant
    (keeps : ∀ input before, holds before → holds (finalState (step input before)))
    (inputs : List ι) {start : σ} (initially : holds start) :
    holds (finalState (runAll step inputs start)) :=
  runAll_keeps (fun _ _ => True) (fun input before _ => keeps input before)
    (allMeet_of_forall (fun _ _ _ => trivial) start) initially

/-- Two conditions that agree wherever an invariant holds are met by the same runs. -/
theorem allMeet_congr {meets first second : ι → σ → Prop}
    (each : ∀ input before, meets input before → holds before →
      Ends (fun _ => holds) failed (step input before))
    (agree : ∀ input before, holds before → (first input before ↔ second input before))
    {inputs : List ι} {start : σ} (met : AllMeet step meets inputs start) (initially : holds start) :
    AllMeet step first inputs start ↔ AllMeet step second inputs start := by
  induction inputs generalizing start with
  | nil => exact Iff.rfl
  | cons input rest ih =>
    have ends := each input start met.1 initially
    refine and_congr (agree input start initially) (forall_congr' fun after => ?_)
    refine forall_congr' fun ran => ih (met.2 after ran) ?_
    rw [ran] at ends
    exact ends

end

end Dropbear.Program
