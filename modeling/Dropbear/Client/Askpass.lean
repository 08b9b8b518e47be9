/-
# Passwords from a helper program

`gui_getpass` of `cli-authpasswd.c` reads a password from the pipe of a helper program into a
static buffer, which has one byte more than a password may have, and stores a terminating zero
behind what was read.  The loop gives all of the buffer to `read`, so an output that fills it
has its zero stored behind the end.

At the end of the output `read` returns zero and does not set `errno`, but the loop ends there
only if `errno` is not `EINTR`, which it may be from an interrupted read or from before.
-/

import Dropbear.Buffer.Basic
import Dropbear.Program.Reads

namespace Dropbear.Client

open Program

/-- `DROPBEAR_MAX_CLI_PASS`. -/
def maxCliPass : Nat := 1024

/-- The size of the static buffer. -/
def passBufSize : Nat := maxCliPass + 1

/-- The loop, with what is left of the output, the room that is left in the buffer, and whether
`errno` is `EINTR`.  It is `none` as long as the calls do not end the loop. -/
def askpassReads : List ReadCall → Bytes → Bytes → Nat → Bool → Option (Bytes × Nat)
  | [], _, buf, maxlen, _ => if maxlen = 0 then some (buf, maxlen) else none
  | call :: calls, output, buf, maxlen, eintr =>
    if maxlen = 0 then some (buf, maxlen)
    else match call with
      | .failed => some (buf, maxlen)
      | .interrupted => askpassReads calls output buf maxlen true
      | .deliver count =>
        let bytes := taken count maxlen output
        if bytes ≠ [] then
          askpassReads calls (output.drop bytes.length)
            (overwrite buf (passBufSize - maxlen) bytes) (maxlen - bytes.length) eintr
        else if eintr then askpassReads calls output buf maxlen eintr
        else some (buf, maxlen)

/-- Terminate what was read, without a newline at its end. -/
def terminate (buf : Bytes) (len : Nat) : Except Exit Bytes :=
  if buf.length ≤ len then .error .overrun
  else
    let buf := overwrite buf len [0]
    if 0 < len ∧ buf[len - 1]? = some '\n'.toUInt8 then .ok (overwrite buf (len - 1) [0])
    else .ok buf

/-- How the helper is run. -/
inductive Helper where
  /-- `SSH_ASKPASS` is not set, or the pipe or the process cannot be made -/
  | unavailable
  /-- The output, and the exit status unless a signal ended the helper. -/
  | ran (output : Bytes) (status : Option Nat)

/-- Ask the helper for a password, which is returned in the static buffer.  The inner `none` is
`NULL`, and the outer one that the loop has not ended. -/
def guiGetpass (calls : List ReadCall) (buf : Bytes) (eintr : Bool) :
    Helper → Except Exit (Option (Option Bytes))
  | .unavailable => .ok (some none)
  | .ran output status =>
    match askpassReads calls output buf passBufSize eintr with
    | none => .ok none
    | some (buf, maxlen) =>
      if status ≠ some 0 then .ok (some none)
      else (terminate buf (passBufSize - maxlen)).map fun buf => some (some buf)

/-- A text without one newline at its end. -/
def chomp (text : Bytes) : Bytes :=
  if text.getLast? = some '\n'.toUInt8 then text.dropLast else text

/-- What is read of the output, up to the room for it, before a call fails. -/
def readBefore : List ReadCall → Bytes → Nat → Bytes
  | [], output, room => output.take room
  | .failed :: _, _, _ => []
  | .interrupted :: calls, output, room => readBefore calls output room
  | .deliver count :: calls, output, room =>
    let bytes := taken count room output
    bytes ++ readBefore calls (output.drop bytes.length) (room - bytes.length)

/-- A call is interrupted before one finds the end of the output. -/
def InterruptedBefore : List ReadCall → Bytes → Prop
  | [], _ => False
  | .failed :: _, _ => False
  | .interrupted :: _, _ => True
  | .deliver count :: calls, output => output ≠ [] ∧ InterruptedBefore calls (output.drop (count + 1))

/-- The output fills the room, or a call fails, or the end of the output is found while `errno`
is not `EINTR`. -/
def AskpassEnds (calls : List ReadCall) (output : Bytes) (room : Nat) (eintr : Bool) : Prop :=
  output.length < room → .failed ∈ calls ∨ eintr = false ∧ ¬ InterruptedBefore calls output

section

variable {calls : List ReadCall} {output buf : Bytes} {maxlen : Nat} {eintr : Bool}

theorem readBefore_eq_nil (nothing : output = [] ∨ maxlen = 0) :
    readBefore calls output maxlen = [] := by
  induction calls generalizing output maxlen with
  | nil => rcases nothing with rfl | rfl <;> simp [readBefore]
  | cons call calls ih =>
    cases call with
    | failed => rfl
    | interrupted => exact ih nothing
    | deliver count => rcases nothing with rfl | rfl <;> simp [readBefore, taken, ih]

theorem length_readBefore_le : (readBefore calls output maxlen).length ≤ maxlen := by
  induction calls generalizing output maxlen with
  | nil => exact List.length_take_le _ _
  | cons call calls ih =>
    cases call with
    | failed => exact Nat.zero_le _
    | interrupted => exact ih
    | deliver count =>
      have short := length_taken_le count maxlen output
      have rest := @ih (output.drop (taken count maxlen output).length)
        (maxlen - (taken count maxlen output).length)
      rw [readBefore, List.length_append]
      omega

/-- The output is stored in pieces. -/
theorem stored_append {bytes rest : Bytes} (short : bytes.length ≤ maxlen)
    (inside : maxlen ≤ passBufSize) (sized : buf.length = passBufSize) :
    some (overwrite (overwrite buf (passBufSize - maxlen) bytes)
        (passBufSize - (maxlen - bytes.length)) rest, maxlen - bytes.length - rest.length) =
      some (overwrite buf (passBufSize - maxlen) (bytes ++ rest),
        maxlen - (bytes ++ rest).length) := by
  have stored : passBufSize - maxlen + bytes.length ≤ buf.length := by omega
  rw [show passBufSize - (maxlen - bytes.length) = passBufSize - maxlen + bytes.length by omega,
    overwrite_overwrite stored, List.length_append, Nat.sub_sub]

theorem askpassReads_deliver {count : Nat} {bytes : Bytes} (room : 0 < maxlen)
    (delivered : taken count maxlen output = bytes) (more : bytes ≠ []) :
    askpassReads (.deliver count :: calls) output buf maxlen eintr =
      askpassReads calls (output.drop bytes.length) (overwrite buf (passBufSize - maxlen) bytes)
        (maxlen - bytes.length) eintr := by
  subst delivered
  rw [askpassReads, if_neg (Nat.ne_of_gt room)]
  exact if_pos more

theorem askpassReads_full : askpassReads calls output buf 0 eintr = some (buf, 0) := by
  cases calls <;> rfl

/-- Calls that deliver one byte each read all that there is room for. -/
theorem askpassReads_replicate {more : Nat} (enough : output.length < more)
    (ends : maxlen ≤ output.length ∨ eintr = false) (inside : maxlen ≤ passBufSize)
    (sized : buf.length = passBufSize) :
    askpassReads (List.replicate more (.deliver 0)) output buf maxlen eintr =
      some (overwrite buf (passBufSize - maxlen) (output.take maxlen),
        maxlen - (output.take maxlen).length) := by
  induction output generalizing buf maxlen more with
  | nil =>
    obtain ⟨more, rfl⟩ := Nat.exists_eq_add_one.2 enough
    rcases ends with full | noError
    · simp [Nat.le_zero.1 full, askpassReads_full, overwrite]
    · simp [List.replicate_succ, askpassReads, noError, taken, overwrite]
  | cons byte output ih =>
    cases maxlen with
    | zero => simp [askpassReads_full, overwrite]
    | succ room =>
      obtain ⟨more, rfl⟩ := Nat.exists_eq_add_one.2 (Nat.zero_lt_of_lt enough)
      have delivered : taken 0 (room + 1) (byte :: output) = [byte] := by simp [taken]
      have stored : passBufSize - (room + 1) + [byte].length ≤ buf.length := by
        rw [sized, List.length_singleton]
        omega
      rw [List.replicate_succ, askpassReads_deliver (Nat.succ_pos _) delivered (List.cons_ne_nil _ _)]
      exact (ih (Nat.lt_of_succ_lt_succ enough) (ends.imp_left Nat.le_of_succ_le_succ)
        (Nat.le_of_succ_le inside) ((length_overwrite stored).trans sized)).trans
          (stored_append (Nat.le_add_left 1 room) inside sized)

theorem drop_taken (count : Nat) (fits : output.length < maxlen) :
    output.drop (taken count maxlen output).length = output.drop (count + 1) := by
  rw [taken, List.length_take]
  rcases Nat.le_total (count + 1) output.length with few | many
  · rw [Nat.min_eq_left (by omega), Nat.min_eq_left (by omega)]
  · rw [Nat.min_eq_right (by omega), List.drop_length, List.drop_of_length_le many]

theorem askpassReads_eq_some {more : Nat} (enough : output.length < more)
    (ends : AskpassEnds calls output maxlen eintr) (inside : maxlen ≤ passBufSize)
    (sized : buf.length = passBufSize) :
    askpassReads (calls ++ List.replicate more (.deliver 0)) output buf maxlen eintr =
      some (overwrite buf (passBufSize - maxlen) (readBefore calls output maxlen),
        maxlen - (readBefore calls output maxlen).length) := by
  induction calls generalizing output buf maxlen eintr with
  | nil =>
    refine askpassReads_replicate enough ?_ inside sized
    rcases Nat.lt_or_ge output.length maxlen with short | long
    · exact .inr ((ends short).resolve_left List.not_mem_nil).1
    · exact .inl long
  | cons call calls ih =>
    by_cases full : maxlen = 0
    · subst full
      rw [readBefore_eq_nil (.inr rfl), askpassReads_full]
      simp [overwrite]
    -- a call that is not the failing one leaves that to the others
    have later (other : call ≠ .failed) (failed : .failed ∈ call :: calls) : .failed ∈ calls :=
      (List.mem_cons.1 failed).resolve_left other.symm
    cases call with
    | failed => simp [askpassReads, full, readBefore, overwrite]
    | interrupted =>
      rw [List.cons_append, askpassReads, if_neg full]
      refine ih enough (fun short => ?_) inside sized
      rcases ends short with failed | ⟨_, quiet⟩
      · exact .inl (later (by rintro ⟨⟩) failed)
      · exact absurd trivial quiet
    | deliver count =>
      have room := Nat.pos_of_ne_zero full
      have short := length_taken_le count maxlen output
      have lengths := congrArg List.length (taken_append_drop count maxlen output)
      rw [List.length_append] at lengths
      have rest : (output ≠ [] ∨ eintr) →
          AskpassEnds calls (output.drop (taken count maxlen output).length)
            (maxlen - (taken count maxlen output).length) eintr := by
        intro goesOn few
        rcases ends (by omega) with failed | ⟨noError, quiet⟩
        · exact .inl (later (by rintro ⟨⟩) failed)
        · rw [drop_taken count (by omega)]
          exact .inr ⟨noError, fun before =>
            quiet ⟨goesOn.resolve_right (by simp [noError]), before⟩⟩
      rw [readBefore]
      generalize delivered : taken count maxlen output = bytes at *
      by_cases ended : bytes = []
      · have empty : output = [] := (taken_eq_nil room).1 (delivered.trans ended)
        subst ended empty
        cases eintr with
        | false =>
          rw [readBefore_eq_nil (.inl List.drop_nil)]
          simp [askpassReads, full, taken, overwrite]
        | true =>
          rw [List.cons_append, askpassReads, if_neg full]
          simpa [taken] using ih enough (rest (.inr rfl)) inside sized
      · have stored : passBufSize - maxlen + bytes.length ≤ buf.length := by omega
        have left : output ≠ [] := fun empty => ended (by rw [← delivered, empty]; exact List.take_nil)
        rw [List.cons_append, askpassReads_deliver room delivered ended]
        exact (ih (by omega) (rest (.inl left)) (by omega) ((length_overwrite stored).trans sized)).trans
          (stored_append short inside sized)

theorem InterruptedBefore.append (rest : List ReadCall) (before : InterruptedBefore calls output) :
    InterruptedBefore (calls ++ rest) output := by
  induction calls generalizing output with
  | nil => exact before.elim
  | cons call calls ih =>
    cases call with
    | failed => exact before
    | interrupted => trivial
    | deliver count => exact ⟨before.1, ih before.2⟩

/-- At the end of the output the loop goes on while `errno` is `EINTR`. -/
theorem askpassReads_eq_none (fits : output.length < maxlen) (noFailure : .failed ∉ calls)
    (error : eintr = true ∨ InterruptedBefore calls output) :
    askpassReads calls output buf maxlen eintr = none := by
  induction calls generalizing output buf maxlen eintr with
  | nil => exact if_neg (by omega)
  | cons call calls ih =>
    have full : maxlen ≠ 0 := by omega
    have others : .failed ∉ calls := fun failed => noFailure (.tail _ failed)
    cases call with
    | failed => exact absurd List.mem_cons_self noFailure
    | interrupted =>
      rw [askpassReads, if_neg full]
      exact ih fits others (.inl rfl)
    | deliver count =>
      rw [askpassReads, if_neg full]
      have lengths := congrArg List.length (taken_append_drop count maxlen output)
      rw [List.length_append] at lengths
      dsimp only
      split_ifs with more errno
      · apply ih (by omega) others
        rw [drop_taken count fits]
        exact error.imp_right And.right
      · exact ih fits others (.inl errno)
      · have empty := (taken_eq_nil (by omega)).1 (not_not.1 more)
        exact absurd error (by simp [errno, empty, InterruptedBefore])

end

theorem exists_terminate {buf output : Bytes} (front : output <+: buf)
    (room : output.length < buf.length) :
    ∃ after, terminate buf output.length = .ok after ∧ chomp output ++ [0] <+: after := by
  obtain ⟨_ | ⟨byte, rest⟩, rfl⟩ := front
  · simp at room
  have stored : overwrite (output ++ byte :: rest) output.length [0] = output ++ 0 :: rest :=
    @overwrite_append_append _ output [byte] [0] rest rfl
  rw [terminate, if_neg (Nat.not_le.2 room), stored]
  rcases List.eq_nil_or_concat output with rfl | ⟨text, last, rfl⟩
  · exact ⟨_, rfl, rest, rfl⟩
  · rw [List.concat_eq_append] at *
    have final : (text ++ [last] ++ 0 :: rest)[(text ++ [last]).length - 1]? = some last := by simp
    have replaced : overwrite (text ++ [last] ++ 0 :: rest) ((text ++ [last]).length - 1) [0] =
        text ++ 0 :: 0 :: rest := by
      rw [List.length_append, List.length_singleton, Nat.add_sub_cancel, List.append_assoc]
      exact @overwrite_append_append _ text [last] [0] (0 :: rest) rfl
    dsimp only
    rw [final, replaced, chomp, List.getLast?_concat, List.dropLast_concat]
    by_cases newline : last = '\n'.toUInt8
    · exact ⟨_, if_pos ⟨by simp, congrArg some newline⟩, by
        rw [if_pos (congrArg some newline)]; exact ⟨0 :: rest, by simp⟩⟩
    · have other : some last ≠ some '\n'.toUInt8 := fun same => newline (Option.some.inj same)
      exact ⟨_, if_neg fun both => other both.2, by
        rw [if_neg other]; exact ⟨rest, by simp⟩⟩

theorem cString_of_terminated {text after : Bytes} (terminated : text ++ [0] <+: after) :
    cString after = cString text := by
  obtain ⟨rest, rfl⟩ := terminated
  rw [cString, cString, List.append_assoc]
  induction text with
  | nil => rfl
  | cons byte text ih =>
    rw [List.cons_append, List.takeWhile_cons, List.takeWhile_cons, ih]

/-- Once the calls are followed by more of them than there are bytes, the function has returned
without a store behind the buffer, and with the output as the password of a helper that exits
with status 0, cut to what a password may have and without a newline at its end. -/
def AskpassAnswers (calls : List ReadCall) (buf : Bytes) (eintr : Bool) (output : Bytes)
    (status : Option Nat) : Prop :=
  ∀ more, output.length < more →
    ∃ password, guiGetpass (calls ++ List.replicate more (.deliver 0)) buf eintr
        (.ran output status) = .ok (some password) ∧
      (status = some 0 → ∃ after, password = some after ∧
        cString after = cString (chomp (output.take maxCliPass)))

/-- The function answers exactly if the loop ends and, for a helper that succeeds, what is read
before a call fails leaves room for the zero and is the whole password. -/
theorem askpassAnswers_iff (calls : List ReadCall) {buf : Bytes} (sized : buf.length = passBufSize)
    (eintr : Bool) (output : Bytes) (status : Option Nat) :
    AskpassAnswers calls buf eintr output status ↔
      AskpassEnds calls output passBufSize eintr ∧ (status = some 0 →
        (readBefore calls output passBufSize).length ≤ maxCliPass ∧
          cString (chomp (readBefore calls output passBufSize)) =
            cString (chomp (output.take maxCliPass))) := by
  by_cases ends : AskpassEnds calls output passBufSize eintr
  · have short := @length_readBefore_le calls output passBufSize
    have returned (more : Nat) (enough : output.length < more) :
        guiGetpass (calls ++ List.replicate more (.deliver 0)) buf eintr (.ran output status) =
          if status ≠ some 0 then .ok (some none)
          else (terminate (overwrite buf 0 (readBefore calls output passBufSize))
            (readBefore calls output passBufSize).length).map fun buf => some (some buf) := by
      rw [guiGetpass, askpassReads_eq_some enough ends (Nat.le_refl _) sized, Nat.sub_self]
      dsimp only
      rw [Nat.sub_sub_self short]
    rw [and_iff_right ends]
    generalize readBefore calls output passBufSize = text at *
    by_cases succeeded : status = some 0
    · simp only [if_neg (not_not.2 succeeded)] at returned
      rw [AskpassAnswers, forall_prop_of_true succeeded]
      have length : (overwrite buf 0 text).length = passBufSize :=
        (length_overwrite (by omega)).trans sized
      by_cases room : text.length ≤ maxCliPass
      · obtain ⟨after, made, front⟩ := exists_terminate
          (⟨buf.drop text.length, by simp [overwrite]⟩ : text <+: overwrite buf 0 text)
          (by rw [length]; exact Nat.lt_succ_of_le room)
        rw [made] at returned
        rw [and_iff_right room, ← cString_of_terminated front]
        constructor
        · intro answers
          obtain ⟨password, isAnswer, right⟩ := answers _ (Nat.lt_succ_self _)
          rw [returned _ (Nat.lt_succ_self _)] at isAnswer
          cases isAnswer
          obtain ⟨_, ⟨⟩, same⟩ := right succeeded
          exact same
        · exact fun same more enough =>
            ⟨some after, returned more enough, fun _ => ⟨after, rfl, same⟩⟩
      · rw [terminate, if_pos (by rw [length]; exact Nat.lt_of_not_le room)] at returned
        refine iff_of_false (fun answers => ?_) fun both => room both.1
        obtain ⟨password, isAnswer, _⟩ := answers _ (Nat.lt_succ_self _)
        rw [returned _ (Nat.lt_succ_self _)] at isAnswer
        cases isAnswer
    · refine iff_of_true (fun more enough => ⟨none, ?_, ?_⟩) fun zero => absurd zero succeeded
      · rw [returned more enough, if_pos succeeded]
      · exact fun zero => absurd zero succeeded
  · obtain ⟨fits, goesOn⟩ := Classical.not_imp.1 ends
    obtain ⟨noFailure, error⟩ := not_or.1 goesOn
    rw [Classical.not_and_iff_not_or_not, not_not, Bool.not_eq_false] at error
    refine iff_of_false (fun answers => ?_) fun both => ends both.1
    obtain ⟨password, returned, _⟩ := answers _ (Nat.lt_succ_self _)
    rw [guiGetpass, askpassReads_eq_none fits (by simpa [List.mem_replicate] using noFailure)
      (error.imp_right (.append _))] at returned
    cases returned

theorem askpassAnswers_secret :
    AskpassAnswers [.deliver 2, .deliver 9] (List.replicate passBufSize 0) false (ascii "secret\n")
      (some 0) := by
  refine (askpassAnswers_iff _ List.length_replicate _ _ _).2 ⟨fun _ => .inr ⟨rfl, ?_⟩, fun _ => ?_⟩
  · rintro ⟨_, _, ⟨⟩⟩
  · decide

/-- An output that fills the buffer is terminated behind its end, and an output that ends while
`errno` is still `EINTR` is waited on for ever. -/
theorem guiGetpass_overrun_or_endless :
    guiGetpass [.deliver maxCliPass] (List.replicate passBufSize 0) false
        (.ran (List.replicate passBufSize 97) (some 0)) = .error .overrun ∧
      ∀ reads, guiGetpass (List.replicate reads (.deliver 0)) (List.replicate passBufSize 0) true
        (.ran [] (some 0)) = .ok none := by
  refine ⟨by decide +kernel, fun reads => ?_⟩
  have endless : ∀ buf, askpassReads (List.replicate reads (.deliver 0)) [] buf passBufSize true =
      none := by
    intro buf
    induction reads with
    | zero => rfl
    | succ reads ih => exact ih
  rw [guiGetpass, endless]

end Dropbear.Client
