/-
# How reading a buffer fails

The reading functions end the process with messages of their own.  Callers that
have to know that a failure is not one of theirs use this list.
-/

import Dropbear.Buffer.Basic
import Dropbear.Program.Spec

namespace Dropbear

open Program

def bufferMessages : List String :=
  ["Bad buf_getbyte", "Bad buf_getptr", "Bad buf_incrpos", "String too long"]

/-- The process ended in a function that reads a buffer. -/
def Exit.OfBuffer (failure : Exit) : Prop :=
  failure = .overrun ∨ ∃ message ∈ bufferMessages, failure = .exit message

theorem ofBuffer_exit {message : String} (listed : message ∈ bufferMessages) :
    Exit.OfBuffer (.exit message) := .inr ⟨message, listed, rfl⟩

theorem failsOnly_peek (buf : Buffer) (ptr len : Nat) :
    FailsOnly Exit.OfBuffer (buf.peek ptr len) := by
  rw [Buffer.peek]
  split
  · exact .error (.inl rfl)
  · exact .ok _

theorem failsOnly_bufGetptr (buf : Buffer) (len : Nat) :
    FailsOnly Exit.OfBuffer (bufGetptr buf len) := by
  rw [bufGetptr]
  split
  · exact .error (ofBuffer_exit (by decide))
  · exact .ok _

theorem failsOnly_bufIncrpos (buf : Buffer) (incr : Nat) :
    FailsOnly Exit.OfBuffer (bufIncrpos buf incr) := by
  rw [bufIncrpos]
  split
  · exact .error (ofBuffer_exit (by decide))
  · exact .ok _

theorem failsOnly_bufGetbyte (buf : Buffer) : FailsOnly Exit.OfBuffer (bufGetbyte buf) := by
  rw [bufGetbyte]
  split
  · exact .error (ofBuffer_exit (by decide))
  · exact .ok _

theorem failsOnly_bufGetbool (buf : Buffer) : FailsOnly Exit.OfBuffer (bufGetbool buf) := by
  apply (failsOnly_bufGetbyte buf).bind
  intro read _
  exact .ok _

theorem failsOnly_bufGetint (buf : Buffer) : FailsOnly Exit.OfBuffer (bufGetint buf) := by
  apply (failsOnly_bufGetptr buf 4).bind
  intro ptr _
  apply (failsOnly_peek buf ptr 4).bind
  intro bytes _
  apply (failsOnly_bufIncrpos buf 4).bind
  intro behind _
  exact .ok _

theorem failsOnly_bufGetstring (buf : Buffer) : FailsOnly Exit.OfBuffer (bufGetstring buf) := by
  apply (failsOnly_bufGetint buf).bind
  rintro ⟨len, behind⟩ _
  dsimp only
  split
  · exact .error (ofBuffer_exit (by decide))
  · apply (failsOnly_bufGetptr behind len).bind
    intro ptr _
    apply (failsOnly_peek behind ptr len).bind
    intro bytes _
    apply (failsOnly_bufIncrpos behind len).bind
    intro rest _
    exact .ok _

theorem failsOnly_bufEatstring (buf : Buffer) : FailsOnly Exit.OfBuffer (bufEatstring buf) := by
  apply (failsOnly_bufGetint buf).bind
  rintro ⟨len, behind⟩ _
  exact failsOnly_bufIncrpos behind len

end Dropbear
