/-
# Confirming a host key

`ask_to_confirm` of `cli-kex.c` asks about a host key that is not known.  The answer is the
first character that comes from the terminal, or from standard input if the terminal cannot be
opened, of which the rest of the line is then discarded.

The loop that discards it waits for a newline and does not look for the end of the input, so on
an input that has no newline behind its first character it does not end.
-/

import Dropbear.Buffer.Basic

namespace Dropbear.Client

open Program

/-- The options that decide about the question. -/
structure ConfirmOpts where
  askHostkey : Bool
  alwaysAcceptKey : Bool
  batchMode : Bool
  deriving DecidableEq, Repr

/-- `getc`; `none` is `EOF`, which leaves the stream at its end. -/
def getc : Bytes → Option UInt8 × Bytes
  | [] => (none, [])
  | byte :: rest => (some byte, rest)

def newline : UInt8 := '\n'.toUInt8

/-- The loop over `getchar`, for a number of rounds; `none` if it has not ended then. -/
def flushStdin : Nat → Bytes → Option Bytes
  | 0, _ => none
  | rounds + 1, stdin =>
    let (response, stdin) := getc stdin
    if response = some newline then some stdin else flushStdin rounds stdin

/-- Read the answer from the terminal, if it can be opened, or from standard input. -/
def readResponse (rounds : Nat) (stdin : Bytes) : Option Bytes → Option (Option UInt8)
  | some tty => some (getc tty).1
  | none =>
    let (response, stdin) := getc stdin
    (flushStdin rounds stdin).map fun _ => response

/-- Return if the key is accepted; `none` if the loop does not end in so many rounds. -/
def askToConfirm (rounds : Nat) (opts : ConfirmOpts) (tty : Option Bytes) (stdin : Bytes) :
    Option (Except Exit Unit) :=
  if ¬ opts.askHostkey then some (.error (.exit "Not accepted automatically"))
  else if opts.alwaysAcceptKey then some (.ok ())
  else if opts.batchMode then some (.error (.exit "Didn't validate host key"))
  else (readResponse rounds stdin tty).map fun response =>
    if response = some 'y'.toUInt8 then .ok () else .error (.exit "Didn't validate host key")

/-- Whether the question is put, and the answer comes from standard input. -/
def ConfirmOpts.ReadsStdin (opts : ConfirmOpts) (tty : Option Bytes) : Prop :=
  opts.askHostkey ∧ ¬ opts.alwaysAcceptKey ∧ ¬ opts.batchMode ∧ tty = none

/-- The character that is taken as the answer. -/
def answer (tty : Option Bytes) (stdin : Bytes) : Option UInt8 := (getc (tty.getD stdin)).1

theorem flushStdin_cons (rounds : Nat) (byte : UInt8) (rest : Bytes) :
    flushStdin (rounds + 1) (byte :: rest) =
      if byte = newline then some rest else flushStdin rounds rest := by
  simp only [flushStdin, getc, Option.some.injEq]

/-- The loop ends exactly if there is a newline. -/
theorem exists_flushStdin_iff {stdin : Bytes} :
    (∃ rounds, flushStdin rounds stdin ≠ none) ↔ newline ∈ stdin := by
  constructor
  · rintro ⟨rounds, ended⟩
    induction rounds generalizing stdin with
    | zero => exact absurd rfl ended
    | succ rounds ih =>
      cases stdin with
      | nil => exact absurd (ih ended) List.not_mem_nil
      | cons byte rest =>
        by_cases last : byte = newline
        · exact last ▸ List.mem_cons_self
        · refine .tail _ (ih ?_)
          rwa [flushStdin_cons, if_neg last] at ended
  · intro present
    induction stdin with
    | nil => exact absurd present List.not_mem_nil
    | cons byte rest ih =>
      by_cases last : byte = newline
      · exact ⟨1, by simp [flushStdin_cons, last]⟩
      · obtain ⟨rounds, ended⟩ := ih ((List.mem_cons.1 present).resolve_left (Ne.symm last))
        exact ⟨rounds + 1, by rwa [flushStdin_cons, if_neg last]⟩

theorem readResponse_eq_some {rounds : Nat} {tty : Option Bytes} {stdin : Bytes}
    {response : Option UInt8} (read : readResponse rounds stdin tty = some response) :
    response = answer tty stdin := by
  cases tty with
  | some tty => exact (Option.some.inj read).symm
  | none =>
    obtain ⟨_, _, same⟩ := Option.map_eq_some_iff.1 read
    exact same.symm

theorem exists_readResponse_iff (tty : Option Bytes) (stdin : Bytes) :
    (∃ rounds, readResponse rounds stdin tty ≠ none) ↔
      (tty = none → newline ∈ (getc stdin).2) := by
  cases tty with
  | some tty => simp [readResponse]
  | none =>
    rw [← exists_flushStdin_iff]
    simp [readResponse]

/-- A key is accepted only unconditionally or with `y` as the answer.  The function ends if the
answer comes from the terminal, or from a standard input with a newline behind the answer. -/
theorem askToConfirm_closed (opts : ConfirmOpts) (tty : Option Bytes) (stdin : Bytes) :
    ((∃ rounds, askToConfirm rounds opts tty stdin ≠ none) ↔
      (opts.ReadsStdin tty → newline ∈ (getc stdin).2)) ∧
    ∀ rounds, askToConfirm rounds opts tty stdin = some (.ok ()) →
      opts.askHostkey ∧ opts.alwaysAcceptKey ∨ answer tty stdin = some 'y'.toUInt8 := by
  obtain ⟨askHostkey, alwaysAcceptKey, batchMode⟩ := opts
  cases askHostkey with
  | false => simp [askToConfirm, ConfirmOpts.ReadsStdin]
  | true =>
    cases alwaysAcceptKey with
    | true => simp [askToConfirm, ConfirmOpts.ReadsStdin]
    | false =>
      cases batchMode with
      | true => simp [askToConfirm, ConfirmOpts.ReadsStdin]
      | false =>
        constructor
        · simpa [askToConfirm, ConfirmOpts.ReadsStdin] using
            exists_readResponse_iff tty stdin
        · intro rounds accepted
          obtain ⟨response, read, decided⟩ := Option.map_eq_some_iff.1 accepted
          rw [← readResponse_eq_some read]
          split at decided
          case _ yes => exact .inr yes
          case _ => cases decided

/-- Without a terminal, an end of the input in place of an answer is waited on for ever. -/
theorem askToConfirm_atEof :
    answer none [] = none ∧
      ∀ rounds, askToConfirm rounds ⟨true, false, false⟩ none [] = none := by
  refine ⟨rfl, fun rounds => ?_⟩
  have unended : flushStdin rounds [] = none := by
    by_contra ended
    exact absurd (exists_flushStdin_iff.1 ⟨rounds, ended⟩) List.not_mem_nil
  simp [askToConfirm, readResponse, getc, unended]

end Dropbear.Client
