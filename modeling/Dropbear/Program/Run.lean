/-
# Runs of a program that handles one input after the other

A run feeds inputs to a step function until the inputs are used up or a step
ends the program.  A relation between two programs that are given the same inputs
carries over from their steps to runs.
-/

import Dropbear.Program.Exec

namespace Dropbear.Program

variable {ε σ τ ι : Type}

/-- Handle the inputs in order, until a step fails. -/
def runAll (step : ι → EStateM ε σ Unit) : List ι → EStateM ε σ Unit
  | [] => pure ()
  | input :: rest => step input >>= fun _ => runAll step rest

section

variable {step : ι → EStateM ε σ Unit} {input : ι} {rest : List ι} {before after : σ}

theorem runAll_cons_of_ok (ran : step input before = .ok () after) :
    runAll step (input :: rest) before = runAll step rest after :=
  EStateM.bind_of_ok ran _

theorem runAll_cons_of_error {failure : ε} (ran : step input before = .error failure after) :
    runAll step (input :: rest) before = .error failure after :=
  EStateM.bind_of_error ran _

theorem runAll_singleton (step : ι → EStateM ε σ Unit) (input : ι) (before : σ) :
    runAll step [input] before = step input before := by
  cases ran : step input before with
  | ok value after => exact runAll_cons_of_ok ran
  | error failure after => exact runAll_cons_of_error ran

theorem runAll_append_of_ok {first : List ι} (ran : runAll step first before = .ok () after)
    (second : List ι) : runAll step (first ++ second) before = runAll step second after := by
  induction first generalizing before with
  | nil =>
    cases ran
    rfl
  | cons input rest ih =>
    cases stepped : step input before with
    | ok value middle =>
      rw [runAll_cons_of_ok stepped] at ran
      rw [List.cons_append, runAll_cons_of_ok stepped, ih ran]
    | error failure middle =>
      rw [runAll_cons_of_error stepped] at ran
      cases ran

/-- Every step of the run is taken from a state, and on an input, that `meets`. -/
def AllMeet (step : ι → EStateM ε σ Unit) (meets : ι → σ → Prop) : List ι → σ → Prop
  | [], _ => True
  | input :: rest, before =>
    meets input before ∧ ∀ after, step input before = .ok () after → AllMeet step meets rest after

theorem allMeet_of_forall {meets : ι → σ → Prop} {inputs : List ι}
    (always : ∀ input ∈ inputs, ∀ before, meets input before) (start : σ) :
    AllMeet step meets inputs start := by
  induction inputs generalizing start with
  | nil => trivial
  | cons input rest ih =>
    exact ⟨always input List.mem_cons_self start,
      fun after _ => ih (fun input mem => always input (.tail _ mem)) after⟩

end

/-! ## Two programs with the same inputs -/

/-- What an observer sees of a run: the observable part of the state, and whether
the program is still running. -/
def visible {ω : Type} (observe : σ → ω) : EStateM.Result ε σ Unit → ω × Bool
  | .ok _ after => (observe after, true)
  | .error _ after => (observe after, false)

/-- Both steps return into related states, or both end the program and look the
same. -/
def StepsAlike {ω : Type} (observe : σ → ω) (observe' : τ → ω) (related : σ → τ → Prop)
    (result : EStateM.Result ε σ Unit) (result' : EStateM.Result ε τ Unit) : Prop :=
  match result, result' with
  | .ok _ after, .ok _ after' => related after after'
  | .error _ after, .error _ after' => observe after = observe' after'
  | _, _ => False

theorem stepsAlike_self {ω : Type} {observe : σ → ω} {related : σ → σ → Prop}
    {result : EStateM.Result ε σ Unit} (kept : related (finalState result) (finalState result)) :
    StepsAlike observe observe related result result := by
  cases result with
  | ok value after => exact kept
  | error failure after => rfl

/-- Two runs on the same inputs look the same after every input exactly if every
step meets the condition, when steps that meet it are alike and steps that do
not are told apart. -/
theorem runAll_visible_iff {ω : Type} {observe : σ → ω} {observe' : τ → ω}
    {step : ι → EStateM ε σ Unit} {step' : ι → EStateM ε τ Unit} (related : σ → τ → Prop)
    (meets : ι → σ → Prop) {inputs : List ι}
    (agree : ∀ before before', related before before' → observe before = observe' before')
    (alike : ∀ input ∈ inputs, ∀ before before', related before before' → meets input before →
      StepsAlike observe observe' related (step input before) (step' input before'))
    (apart : ∀ input ∈ inputs, ∀ before before', related before before' → ¬ meets input before →
      visible observe (step input before) ≠ visible observe' (step' input before'))
    {start : σ} {start' : τ} (initially : related start start') :
    (∀ n, visible observe (runAll step (inputs.take n) start) =
        visible observe' (runAll step' (inputs.take n) start')) ↔
      AllMeet step meets inputs start := by
  induction inputs generalizing start start' with
  | nil =>
    refine ⟨fun _ => trivial, fun _ n => ?_⟩
    rw [List.take_nil]
    exact congrArg (·, true) (agree start start' initially)
  | cons input rest ih =>
    have ih := @ih (fun input there => alike input (.tail _ there))
      (fun input there => apart input (.tail _ there))
    by_cases met : meets input start
    · have stepped := alike input (.head _) start start' initially met
      cases ran : step input start with
      | ok value after =>
        cases ran' : step' input start' with
        | ok value' after' =>
          rw [ran, ran'] at stepped
          constructor
          · intro same
            refine ⟨met, fun other ran₂ => ?_⟩
            cases ran.symm.trans ran₂
            refine (ih stepped).1 fun n => ?_
            have next := same (n + 1)
            rwa [List.take_succ_cons, runAll_cons_of_ok ran, runAll_cons_of_ok ran'] at next
          · rintro ⟨_, tail⟩ n
            cases n with
            | zero => exact congrArg (·, true) (agree start start' initially)
            | succ n =>
              rw [List.take_succ_cons, runAll_cons_of_ok ran, runAll_cons_of_ok ran']
              exact (ih stepped).2 (tail after ran) n
        | error failure' after' =>
          rw [ran, ran'] at stepped
          cases stepped
      | error failure after =>
        cases ran' : step' input start' with
        | ok value' after' =>
          rw [ran, ran'] at stepped
          cases stepped
        | error failure' after' =>
          rw [ran, ran'] at stepped
          constructor
          · intro _
            exact ⟨met, fun other ran₂ => nomatch ran.symm.trans ran₂⟩
          · rintro _ n
            cases n with
            | zero => exact congrArg (·, true) (agree start start' initially)
            | succ n =>
              rw [List.take_succ_cons, runAll_cons_of_error ran, runAll_cons_of_error ran']
              exact congrArg (·, false) stepped
    · refine ⟨fun same => ?_, fun all => absurd all.1 met⟩
      have one := same 1
      rw [List.take_succ_cons, List.take_zero, runAll_singleton, runAll_singleton] at one
      exact absurd one (apart input (.head _) start start' initially met)

/-- Two results look different if their observable parts differ. -/
theorem visible_ne {ω : Type} {observe : σ → ω} {observe' : τ → ω}
    {result : EStateM.Result ε σ Unit} {result' : EStateM.Result ε τ Unit}
    (differ : observe (finalState result) ≠ observe' (finalState result')) :
    visible observe result ≠ visible observe' result' := by
  intro same
  apply differ
  have first := congrArg Prod.fst same
  cases result <;> cases result' <;> exact first

end Dropbear.Program
