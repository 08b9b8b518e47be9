/-
# Escape characters typed at the terminal

The client withholds a tilde that was typed after a carriage return until the next
character shows whether it begins an escape.  If it does not, the tilde is not sent
afterwards.  So the input reaches the server without the escapes, and with nothing else
missing, exactly if every such tilde is followed by a character that completes an escape.
-/

import Dropbear.Channels.Frame

namespace Dropbear.Channels

open Program

/-! ## The input that is sent -/

/-- What is sent of a sequence of reads, up to the one that ends the program. -/
def passedOn (lastChar : UInt8) : List Bytes → Bytes
  | [] => []
  | buf :: reads =>
    match cliEscapeHandler lastChar buf with
    | .error _ => []
    | .ok (lastChar, len) => buf.take len ++ passedOn lastChar reads

def carriageReturn : Bytes := [13]

def tilde : Bytes := [escapeChar]

/-- The next read completes `~.`, `~^Z`, `~R` or `~~`. -/
def escapeFollows (reads : List Bytes) : Bool :=
  reads.head? ∈ [some [46], some [0x1a], some [82], some tilde]

/-- The input without the escapes.  The two reads before it tell where one begins: behind
a carriage return, and in reads of one byte.  The program ends with `~.`. -/
def withoutEscapes (before prev : Bytes) : List Bytes → Bytes
  | [] => []
  | buf :: reads =>
    if prev = carriageReturn ∧ buf = tilde ∧ escapeFollows reads then
      withoutEscapes prev buf reads
    else if (before = carriageReturn ∧ prev = tilde) ∧ buf = [46] then []
    else if (before = carriageReturn ∧ prev = tilde) ∧ (buf = [0x1a] ∨ buf = [82]) then
      withoutEscapes prev buf reads
    else buf ++ withoutEscapes prev buf reads

/-- Every tilde that is withheld turns out to begin an escape. -/
def TildesEscape (before prev : Bytes) : List Bytes → Prop
  | [] => True
  | buf :: reads =>
    (prev = carriageReturn ∧ buf = tilde → escapeFollows reads) ∧
      ((before = carriageReturn ∧ prev = tilde) ∧ buf = [46] ∨ TildesEscape prev buf reads)

/-! ## One read -/

/-- A tilde is withheld. -/
theorem cliEscapeHandler_withholds : cliEscapeHandler 13 tilde = .ok (escapeChar, 0) := rfl

variable {buf : Bytes}

/-- A read of several bytes passes. -/
theorem cliEscapeHandler_long (lastChar : UInt8) (long : buf.length ≠ 1) :
    cliEscapeHandler lastChar buf = .ok (0, buf.length) := by
  match buf with
  | [] => rfl
  | [_] => exact absurd rfl long
  | _ :: _ :: _ => rfl

variable {lastChar : UInt8}

/-- What is not withheld passes. -/
theorem cliEscapeHandler_passes (buf : Bytes) (idle : lastChar ≠ escapeChar)
    (notWithheld : ¬ (lastChar = 13 ∧ buf = tilde)) :
    ∃ next, cliEscapeHandler lastChar buf = .ok (next, buf.length) ∧ next ≠ escapeChar ∧
      (next = 13 ↔ buf = carriageReturn) := by
  by_cases single : buf.length = 1
  · obtain ⟨c, rfl⟩ := List.length_eq_one_iff.1 single
    by_cases isTilde : c = escapeChar
    · subst isTilde
      have noReturn : lastChar ≠ 13 := fun same => notWithheld ⟨same, rfl⟩
      refine ⟨0, ?_, by decide, by decide⟩
      simp only [cliEscapeHandler, if_neg idle, if_true, if_neg noReturn]
      rfl
    · refine ⟨c, ?_, isTilde, by simp [carriageReturn]⟩
      simp only [cliEscapeHandler, if_neg idle, if_neg isTilde]
      rfl
  · refine ⟨0, cliEscapeHandler_long lastChar single, by decide, ?_⟩
    have different : buf ≠ carriageReturn := fun same => single (same ▸ rfl)
    simp [different]

/-- A read that passes, in the whole input. -/
theorem passedOn_cons_of_passes {next : UInt8}
    (passes : cliEscapeHandler lastChar buf = .ok (next, buf.length)) (reads : List Bytes) :
    passedOn lastChar (buf :: reads) = buf ++ passedOn next reads := by
  rw [passedOn, passes]
  dsimp only
  rw [List.take_length]

variable {before prev : Bytes}

theorem withoutEscapes_cons_of_passes (notWithheld : ¬ (prev = carriageReturn ∧ buf = tilde))
    (idle : ¬ (before = carriageReturn ∧ prev = tilde)) (reads : List Bytes) :
    withoutEscapes before prev (buf :: reads) = buf ++ withoutEscapes prev buf reads := by
  rw [withoutEscapes, if_neg (fun escape => notWithheld ⟨escape.1, escape.2.1⟩),
    if_neg (fun ends => idle ends.1), if_neg (fun ends => idle ends.1)]

theorem tildesEscape_cons_iff {reads : List Bytes}
    (notWithheld : ¬ (prev = carriageReturn ∧ buf = tilde))
    (goesOn : ¬ ((before = carriageReturn ∧ prev = tilde) ∧ buf = [46])) :
    TildesEscape before prev (buf :: reads) ↔ TildesEscape prev buf reads :=
  ⟨fun all => all.2.resolve_left goesOn,
    fun rest => ⟨fun withheld => absurd withheld notWithheld, .inr rest⟩⟩

/-! ## The data that the channel sends -/

/-- The reads from the terminal, one call of `send_msg_channel_data` each. -/
def terminalReads (lastChar : UInt8) : List Bytes → ChanM Unit
  | [] => pure ()
  | buf :: reads => do
    sendMsgChannelData false (.got buf) lastChar
    let (lastChar, _) ← fromResult (cliEscapeHandler lastChar buf)
    terminalReads lastChar reads

/-- The data in a message. -/
def Message.bytes : Message → Bytes
  | .data _ bytes => bytes
  | _ => []

/-- The data in all messages of a channel. -/
def Slot.dataSent (slot : Slot) : Bytes := slot.sent.flatMap Message.bytes

/-- A state in which the terminal can be read, with room for `more` bytes. -/
structure Slot.CanSend (slot : Slot) (more : Nat) (channel : Channel) : Prop where
  present : slot.channel = some channel
  mangled : channel.readMangler
  isOpen : channel.readfd.isOpen
  notClosed : channel.sentClose = false
  window : more ≤ channel.transwindow
  isWord : channel.transwindow < 2 ^ 32

/-- What one message may carry. -/
def Channel.Carries (channel : Channel) (buf : Bytes) : Prop :=
  buf ≠ [] ∧ buf.length ≤ min channel.transmaxpacket (Packet.transMaxPayloadLen - 9)

/-- The state after `bytes` have been sent. -/
def Slot.sending (slot : Slot) (channel : Channel) (bytes : Bytes) : Slot :=
  { slot with
    channel := some { channel with transwindow := sub32 channel.transwindow bytes.length }
    sent := slot.sent ++ [.data channel.remotechan bytes]
    allowance := slot.allowance.spend bytes.length channel.transwindow }

variable {slot : Slot} {channel : Channel}

/-- One read is mangled and sent. -/
theorem sendMsgChannelData_mangled {more : Nat} (can : slot.CanSend more channel)
    (room : buf.length ≤ more) (carries : channel.Carries buf) (lastChar : UInt8) :
    sendMsgChannelData false (.got buf) lastChar slot =
      match cliEscapeHandler lastChar buf with
      | .error exit => .error exit slot
      | .ok (_, len) =>
        if len = 0 then .ok () slot else .ok () (slot.sending channel (buf.take len)) := by
  obtain ⟨nonempty, short⟩ := carries
  have fits : buf.length ≤ maxSend channel false := by
    have window := can.window
    simp only [maxSend, Bool.false_eq_true, if_false]
    omega
  have some : maxSend channel false ≠ 0 := by
    have positive := List.length_pos_of_ne_nil nonempty
    omega
  rw [sendMsgChannelData, theChannel_bind can.present]
  simp only [Bool.false_eq_true, if_false, can.notClosed, not_true_eq_false, can.isOpen, some,
    List.take_of_length_le fits, nonempty, mangledLen, can.mangled, if_true]
  cases handled : cliEscapeHandler lastChar buf with
  | error exit => rfl
  | ok result =>
    obtain ⟨next, len⟩ := result
    change (if len = 0 then pure () else sendData channel false (buf.take len) : ChanM Unit)
      slot = _
    dsimp only
    split
    · rfl
    · rfl

theorem Slot.dataSent_sending (slot : Slot) (channel : Channel) (bytes : Bytes) :
    (slot.sending channel bytes).dataSent = slot.dataSent ++ bytes := by
  simp [dataSent, sending, Message.bytes]

/-- There is room for the rest after a part of it has been sent. -/
theorem Slot.CanSend.sending {first rest : Nat} {bytes : Bytes}
    (can : slot.CanSend (first + rest) channel) (short : bytes.length ≤ first) :
    (slot.sending channel bytes).CanSend rest
      { channel with transwindow := sub32 channel.transwindow bytes.length } := by
  have window := can.window
  have isWord := can.isWord
  have left : sub32 channel.transwindow bytes.length = channel.transwindow - bytes.length :=
    sub32_of_le isWord (by omega)
  refine ⟨rfl, can.mangled, can.isOpen, can.notClosed, ?_, ?_⟩
  · change rest ≤ sub32 channel.transwindow bytes.length
    omega
  · change sub32 channel.transwindow bytes.length < 2 ^ 32
    omega

/-- The data that is sent is what the handler passes on. -/
theorem dataSent_terminalReads (reads : List Bytes) (lastChar : UInt8)
    (can : slot.CanSend reads.flatten.length channel)
    (carries : ∀ buf ∈ reads, channel.Carries buf) :
    Ends (fun _ after => after.dataSent = slot.dataSent ++ passedOn lastChar reads)
      (fun _ after => after.dataSent = slot.dataSent ++ passedOn lastChar reads)
      (terminalReads lastChar reads slot) := by
  induction reads generalizing slot channel lastChar with
  | nil => exact (List.append_nil _).symm
  | cons buf reads hypothesis =>
    rw [List.flatten_cons, List.length_append] at can
    have one := sendMsgChannelData_mangled can (Nat.le_add_right _ _)
      (carries buf List.mem_cons_self) lastChar
    have others : ∀ buf ∈ reads, channel.Carries buf := fun buf later =>
      carries buf (List.mem_cons_of_mem _ later)
    rw [terminalReads, passedOn]
    cases handled : cliEscapeHandler lastChar buf with
    | error exit =>
      rw [handled] at one
      rw [EStateM.bind_of_error one]
      exact (List.append_nil _).symm
    | ok result =>
      obtain ⟨next, len⟩ := result
      rw [handled] at one
      dsimp only at one ⊢
      by_cases nothing : len = 0
      · subst nothing
        rw [if_pos rfl] at one
        rw [EStateM.bind_of_ok one, List.take_zero, List.nil_append]
        have room : slot.CanSend reads.flatten.length channel :=
          { can with window := Nat.le_trans (Nat.le_add_left _ _) can.window }
        exact hypothesis next room others
      · rw [if_neg nothing] at one
        rw [EStateM.bind_of_ok one, ← List.append_assoc, ← Slot.dataSent_sending slot channel]
        have short : (buf.take len).length ≤ buf.length := List.length_take_le' _ _
        exact hypothesis next (can.sending short) others

/-! ## A tilde that is lost -/

theorem cons_eq_of_append {α : Type} {first : α} {front s r : List α}
    (same : first :: (front ++ s) = front ++ r) : first :: s = r := by
  induction front with
  | nil => exact same
  | cons x front hypothesis =>
    obtain ⟨rfl, rest⟩ := List.cons.inj same
    exact hypothesis rest

/-- The rest of the input never makes up for a tilde. -/
theorem passedOn_ne_cons (reads : List Bytes) (idle : lastChar ≠ escapeChar)
    (noReturn : lastChar ≠ 13) (otherRead : prev ≠ carriageReturn)
    (noTilde : ¬ (before = carriageReturn ∧ prev = tilde)) :
    passedOn lastChar reads ≠ escapeChar :: withoutEscapes before prev reads := by
  induction reads generalizing lastChar before prev with
  | nil => exact (List.cons_ne_nil _ _).symm
  | cons buf reads hypothesis =>
    obtain ⟨next, passes, nextIdle, nextReturn⟩ :=
      cliEscapeHandler_passes buf idle (fun withheld => noReturn withheld.1)
    rw [passedOn_cons_of_passes passes,
      withoutEscapes_cons_of_passes (fun withheld => otherRead withheld.1) noTilde]
    intro same
    by_cases isReturn : buf = carriageReturn
    · subst isReturn
      exact absurd (List.cons.inj same).1 (by decide)
    · exact hypothesis nextIdle (mt nextReturn.1 isReturn) isReturn
        (fun withheld => otherRead withheld.1) (cons_eq_of_append same.symm).symm

/-- A tilde that does not begin an escape is lost. -/
theorem passedOn_tilde_ne {reads : List Bytes} (noEscape : ¬ escapeFollows reads) :
    passedOn escapeChar reads ≠ escapeChar :: withoutEscapes carriageReturn tilde reads := by
  cases reads with
  | nil => exact (List.cons_ne_nil _ _).symm
  | cons buf reads =>
    simp only [escapeFollows, List.head?_cons, decide_eq_true_eq, List.mem_cons,
      Option.some.injEq, List.not_mem_nil, or_false, not_or] at noEscape
    obtain ⟨notEnd, notSuspend, notRekey, notTilde⟩ := noEscape
    have kept : withoutEscapes carriageReturn tilde (buf :: reads) =
        buf ++ withoutEscapes tilde buf reads := by
      rw [withoutEscapes, if_neg (fun withheld => notTilde withheld.2.1),
        if_neg (fun ends => notEnd ends.2),
        if_neg (fun consumed => consumed.2.elim notSuspend notRekey)]
    rw [kept]
    by_cases single : buf.length = 1
    · obtain ⟨c, rfl⟩ := List.length_eq_one_iff.1 single
      have passes : cliEscapeHandler escapeChar [c] = .ok (0, [c].length) := by
        have plain : doEscape c = .ok false := by
          rw [doEscape, if_neg (fun same => notEnd (by rw [same])),
            if_neg (fun same => notSuspend (by rw [same]))]
          simpa using notRekey
        simp only [cliEscapeHandler, if_true, plain]
        rfl
      rw [passedOn_cons_of_passes passes]
      intro same
      exact notTilde (by rw [(List.cons.inj same).1]; rfl)
    · rw [passedOn_cons_of_passes (cliEscapeHandler_long escapeChar single)]
      intro same
      have otherRead : buf ≠ carriageReturn := fun same => single (same ▸ rfl)
      exact passedOn_ne_cons reads (by decide) (by decide) otherRead
        (fun withheld => absurd withheld.1 (by decide)) (cons_eq_of_append same.symm).symm

/-! ## The whole input -/

/-- The last character is that of the last read: a carriage return, or a tilde behind one. -/
structure Remembers (lastChar : UInt8) (before prev : Bytes) : Prop where
  isReturn : lastChar = 13 ↔ prev = carriageReturn
  isTilde : lastChar = escapeChar ↔ before = carriageReturn ∧ prev = tilde

theorem Remembers.of_passes {next : UInt8} (idle : next ≠ escapeChar)
    (isReturn : next = 13 ↔ buf = carriageReturn)
    (notWithheld : ¬ (prev = carriageReturn ∧ buf = tilde)) : Remembers next prev buf :=
  ⟨isReturn, iff_of_false idle notWithheld⟩

/-- From a state in which a withheld tilde begins an escape. -/
theorem passedOn_eq_iff (reads : List Bytes) (remembers : Remembers lastChar before prev)
    (completed : lastChar = escapeChar → escapeFollows reads) :
    passedOn lastChar reads = withoutEscapes before prev reads ↔
      TildesEscape before prev reads := by
  induction reads generalizing lastChar before prev with
  | nil => exact iff_of_true rfl trivial
  | cons buf reads hypothesis =>
    by_cases pending : lastChar = escapeChar
    · obtain ⟨rfl, rfl⟩ := remembers.isTilde.1 pending
      subst pending
      have escapes := completed rfl
      simp only [escapeFollows, List.head?_cons, decide_eq_true_eq, List.mem_cons,
        Option.some.injEq, List.not_mem_nil, or_false] at escapes
      have notReturn : ¬ (tilde = carriageReturn ∧ buf = tilde) := fun withheld =>
        absurd withheld.1 (by decide)
      rcases escapes with rfl | rfl | rfl | rfl
      · exact iff_of_true rfl ⟨fun withheld => absurd withheld notReturn, .inl ⟨⟨rfl, rfl⟩, rfl⟩⟩
      · rw [tildesEscape_cons_iff notReturn (by decide)]
        exact hypothesis ⟨by decide, by decide⟩ (fun pending => absurd pending (by decide))
      · rw [tildesEscape_cons_iff notReturn (by decide)]
        exact hypothesis ⟨by decide, by decide⟩ (fun pending => absurd pending (by decide))
      · rw [tildesEscape_cons_iff notReturn (by decide)]
        have next : Remembers 0 tilde tilde := ⟨by decide, by decide⟩
        have rest := hypothesis next (fun pending => absurd pending (by decide))
        exact (List.append_right_inj tilde).trans rest
    · have noTilde := mt remembers.isTilde.2 pending
      have goesOn : ¬ ((before = carriageReturn ∧ prev = tilde) ∧ buf = [46]) := fun ends =>
        noTilde ends.1
      by_cases withheld : prev = carriageReturn ∧ buf = tilde
      · obtain ⟨rfl, rfl⟩ := withheld
        obtain rfl := remembers.isReturn.2 rfl
        by_cases escapes : escapeFollows reads
        · have next : Remembers escapeChar carriageReturn tilde := ⟨by decide, by decide⟩
          rw [passedOn, cliEscapeHandler_withholds, withoutEscapes, if_pos ⟨rfl, rfl, escapes⟩]
          exact (hypothesis next fun _ => escapes).trans
            ⟨fun rest => ⟨fun _ => escapes, .inr rest⟩, fun all => all.2.resolve_left goesOn⟩
        · refine iff_of_false ?_ fun all => escapes (all.1 ⟨rfl, rfl⟩)
          rw [passedOn, cliEscapeHandler_withholds, withoutEscapes,
            if_neg (fun escape => escapes escape.2.2), if_neg goesOn,
            if_neg (fun consumed => noTilde consumed.1)]
          exact passedOn_tilde_ne escapes
      · obtain ⟨next, passes, nextIdle, nextReturn⟩ := cliEscapeHandler_passes buf pending
          (fun both => withheld ⟨remembers.isReturn.1 both.1, both.2⟩)
        rw [passedOn_cons_of_passes passes, withoutEscapes_cons_of_passes withheld noTilde,
          tildesEscape_cons_iff withheld goesOn, List.append_right_inj]
        exact hypothesis (.of_passes nextIdle nextReturn withheld)
          (fun pending => absurd pending nextIdle)

/-- **The input is sent without the escapes and with nothing else missing** exactly if
every tilde typed after a carriage return begins an escape.  `cli_initchansess` makes the start
of the session count as one. -/
theorem passedOn_eq_withoutEscapes_iff (reads : List Bytes) :
    passedOn 13 reads = withoutEscapes [] carriageReturn reads ↔
      TildesEscape [] carriageReturn reads :=
  passedOn_eq_iff reads ⟨by decide, by decide⟩ (fun pending => absurd pending (by decide))

/-- A line that begins with `~a` arrives without the tilde, the first one and a later one, and so
does one whose tilde is followed by a longer read. -/
theorem passedOn_loses_tilde :
    passedOn 13 [tilde, ascii "a", [13], tilde, ascii "a"] = ascii "a" ++ [13] ++ ascii "a" ∧
      withoutEscapes [] carriageReturn [tilde, ascii "a", [13], tilde, ascii "a"] =
        ascii "~a" ++ [13] ++ ascii "~a" ∧
      passedOn 13 [tilde, ascii "ab"] = ascii "ab" ∧
      withoutEscapes [] carriageReturn [tilde, ascii "ab"] = ascii "~ab" := by
  decide +kernel

end Dropbear.Channels
