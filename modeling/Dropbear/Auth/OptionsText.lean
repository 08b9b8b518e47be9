/-
# The options parser as a function of the text

Each reader of `svr_parse_pubkey_options` looks only at the bytes that are left in its
buffer, steps over some of them, and never ends the process.  So the parser is a function
of the options text.
-/

import Dropbear.Auth.ParseOptions
import Dropbear.Buffer.Append

namespace Dropbear

open Program

namespace Auth

/-! ## Values -/

/-- The number of bytes in front of the double quote that ends a command. -/
def commandLength : (escaped : Bool) → Bytes → Option Nat
  | _, [] => none
  | escaped, c :: rest =>
    if !escaped ∧ c = 34 then some 0
    else (commandLength (!escaped && c = 92) rest).map (· + 1)

/-- The number of bytes in front of the next double quote. -/
def specLength : Bytes → Option Nat
  | [] => none
  | c :: rest => if c = 34 then some 0 else (specLength rest).map (· + 1)

variable {text : Bytes}

theorem lt_of_commandLength {escaped : Bool} {k : Nat}
    (found : commandLength escaped text = some k) : k < text.length := by
  induction text generalizing escaped k with
  | nil => cases found
  | cons c rest ih =>
    rw [commandLength] at found
    split at found
    · cases found
      exact Nat.succ_pos _
    · obtain ⟨k', found', rfl⟩ := Option.map_eq_some_iff.1 found
      exact Nat.succ_lt_succ (ih found')

theorem lt_of_specLength {k : Nat} (found : specLength text = some k) :
    k < text.length := by
  induction text generalizing k with
  | nil => cases found
  | cons c rest ih =>
    rw [specLength] at found
    split at found
    · cases found
      exact Nat.succ_pos _
    · obtain ⟨k', found', rfl⟩ := Option.map_eq_some_iff.1 found
      exact Nat.succ_lt_succ (ih found')

variable {buf : Buffer}

theorem readCommand_eq {n : Nat} {escaped : Bool} (enough : buf.rest.length ≤ n) :
    readCommand n escaped buf =
      .ok ((commandLength escaped buf.rest).map fun k => buf.skip (k + 1)) := by
  induction n generalizing escaped buf with
  | zero =>
    have nothing : buf.rest = [] := List.eq_nil_of_length_eq_zero (Nat.le_zero.1 enough)
    rw [nothing]
    rfl
  | succ n ih =>
    rw [readCommand]
    cases rest : buf.rest with
    | nil =>
      rw [ifMore_of_nil rest]
      rfl
    | cons c tail =>
      rw [ifMore_of_cons rest, commandLength]
      dsimp only
      split
      · rfl
      · rw [rest, List.length_cons] at enough
        have behind := Buffer.rest_skip_one rest
        rw [ih (by rw [behind]; omega), behind, Option.map_map]
        simp only [Function.comp_def, Buffer.skip_skip, Nat.add_comm 1]

theorem readSpec_eq {n : Nat} (enough : buf.rest.length ≤ n) :
    readSpec n buf = .ok ((specLength buf.rest).map fun k => buf.skip (k + 1)) := by
  induction n generalizing buf with
  | zero =>
    have nothing : buf.rest = [] := List.eq_nil_of_length_eq_zero (Nat.le_zero.1 enough)
    rw [nothing]
    rfl
  | succ n ih =>
    rw [readSpec]
    cases rest : buf.rest with
    | nil =>
      rw [ifMore_of_nil rest]
      rfl
    | cons c tail =>
      rw [ifMore_of_cons rest, specLength]
      dsimp only
      split
      · rfl
      · rw [rest, List.length_cons] at enough
        have behind := Buffer.rest_skip_one rest
        rw [ih (by rw [behind]; omega), behind, Option.map_map]
        simp only [Function.comp_def, Buffer.skip_skip, Nat.add_comm 1]

theorem length_rest_le_left (buf : Buffer) : buf.rest.length ≤ left buf :=
  Nat.le_of_eq buf.length_rest

theorem bufGetptr_zero (buf : Buffer) : bufGetptr buf 0 = .ok buf.pos := by
  apply bufGetptr_eq_ok.2
  exact ⟨⟨Nat.zero_le _, by have := buf.pos_le_len; omega⟩, rfl⟩

/-- The text in front of the double quote that has been read. -/
theorem peek_value {k : Nat} (inside : k < buf.rest.length) :
    (buf.skip (k + 1)).peek buf.pos ((buf.skip (k + 1)).pos - buf.pos - 1) =
      .ok (buf.rest.take k) := by
  have pos : (buf.skip (k + 1)).pos = buf.pos + (k + 1) :=
    Buffer.pos_skip buf (Nat.succ_le_of_lt inside)
  have used := buf.len_le_size
  rw [Buffer.length_rest] at inside
  have length : (buf.skip (k + 1)).pos - buf.pos - 1 = k := by omega
  apply Buffer.peek_eq_ok.2
  rw [length]
  refine ⟨?_, ?_⟩
  · change buf.pos + k ≤ buf.data.length
    omega
  · have used' : buf.pos + k ≤ buf.len := by omega
    exact (buf.take_drop_data used').symm

/-! ## Options -/

/-- What an option does with the text behind its name; returns the options and how many
bytes it has read. -/
abbrev TextHandler := PubKeyOptions → Bytes → Option (PubKeyOptions × Nat)

/-- The handler depends only on the bytes that are left, and does not end the process. -/
def Reads (handle : Handler) (read : TextHandler) : Prop :=
  ∀ options buf, handle options buf =
    .ok ((read options buf.rest).map fun result => (result.1, buf.skip result.2))

def flagText (setFlags : PubKeyOptions → PubKeyOptions) : TextHandler := fun options _ =>
  some (setFlags options, 0)

def commandText : TextHandler := fun options text =>
  if options.forcedCommand.isSome then none
  else
    (commandLength false text).map fun k =>
      ({ options with forcedCommand := some (text.take k) }, k + 1)

def entryText (entry : Bytes → Option PermitTCPFwdEntry)
    (append : PubKeyOptions → PermitTCPFwdEntry → PubKeyOptions) : TextHandler :=
  fun options text =>
    (specLength text).bind fun k =>
      (entry (cString (text.take k))).map fun entry => (append options entry, k + 1)

theorem reads_flagOption (setFlags : PubKeyOptions → PubKeyOptions) :
    Reads (flagOption setFlags) (flagText setFlags) := by
  intro options buf
  rw [flagText, Option.map_some, Buffer.skip_zero]
  rfl

theorem reads_commandOption : Reads commandOption commandText := by
  intro options buf
  rw [commandOption, bufGetptr_zero, Except.ok_bind, commandText]
  split
  · rfl
  · rw [readCommand_eq (length_rest_le_left buf), Except.ok_bind]
    cases found : commandLength false buf.rest with
    | none => rfl
    | some k =>
      dsimp only [Option.map_some]
      rw [bufGetptr_zero, Except.ok_bind, peek_value (lt_of_commandLength found)]
      rfl

theorem reads_entryOption (entry : Bytes → Option PermitTCPFwdEntry)
    (append : PubKeyOptions → PermitTCPFwdEntry → PubKeyOptions) :
    Reads (entryOption entry append) (entryText entry append) := by
  intro options buf
  rw [entryOption, bufGetptr_zero, Except.ok_bind, entryText]
  rw [readSpec_eq (length_rest_le_left buf), Except.ok_bind]
  cases found : specLength buf.rest with
  | none => rfl
  | some k =>
    dsimp only [Option.map_some, Option.bind_some]
    rw [bufGetptr_zero, Except.ok_bind, peek_value (lt_of_specLength found), Except.ok_bind]
    cases entry (cString (buf.rest.take k)) with
    | none => rfl
    | some entry => rfl

theorem matchOption_eq (buf : Buffer) (name : Bytes) :
    matchOption buf name =
      .ok (if sameIgnoringCase (buf.rest.take name.length) name then some (buf.skip name.length)
        else none) := by
  have length := buf.length_rest
  rw [matchOption]
  split
  case _ short =>
    have different : sameIgnoringCase (buf.rest.take name.length) name = false := by
      apply decide_eq_false
      intro same
      have := congrArg List.length same
      rw [List.length_map, List.length_map, List.length_take] at this
      omega
    rw [different]
    rfl
  case _ enough =>
    have inside : name.length ≤ buf.rest.length := by omega
    have small : name.length ≤ bufMaxIncr := by
      have := buf.len_le_max
      rw [bufMaxSize] at this
      rw [bufMaxIncr]
      omega
    have taken : (buf.rest.take name.length).length = name.length := by
      rw [List.length_take, Nat.min_eq_left inside]
    obtain ⟨pointed, read⟩ := bufGetptr_peek (taken.symm ▸ small) (List.take_prefix name.length
      buf.rest)
    rw [taken] at pointed read
    rw [pointed, Except.ok_bind, read, Except.ok_bind]
    split
    · rw [bufIncrpos_eq_skip small inside]
      rfl
    · rfl

/-- The first option of the table that stands at the beginning of the text. -/
def firstText : List (Bytes × TextHandler) → TextHandler
  | [], options, _ => some (options, 0)
  | (optName, read) :: table, options, text =>
    if sameIgnoringCase (text.take optName.length) optName then
      (read options (text.drop optName.length)).map fun result =>
        (result.1, optName.length + result.2)
    else firstText table options text

variable {table : List (Bytes × Handler)}

theorem reads_firstOption {texts : List (Bytes × TextHandler)}
    (same : List.Forall₂ (fun entry text => entry.1 = text.1 ∧ Reads entry.2 text.2) table texts) :
    Reads (firstOption table) (firstText texts) := by
  induction same with
  | nil =>
    intro options buf
    rw [firstText, Option.map_some, Buffer.skip_zero]
    rfl
  | @cons entry text table texts first _ ih =>
    intro options buf
    obtain ⟨name, handle⟩ := entry
    obtain ⟨name', read⟩ := text
    dsimp only at first
    obtain ⟨rfl, reads⟩ := first
    rw [firstOption, matchOption_eq, Except.ok_bind, firstText]
    by_cases here : sameIgnoringCase (buf.rest.take name.length) name
    · rw [if_pos here, if_pos here]
      dsimp only
      rw [reads, Buffer.rest_skip, Option.map_map]
      simp only [Function.comp_def, Buffer.skip_skip]
    · rw [if_neg here, if_neg here]
      exact ih options buf

/-- The loop over the options of a text. -/
def parseLoopText (read : TextHandler) : Nat → PubKeyOptions → Bytes → Option PubKeyOptions
  | 0, options, _ => some options
  | n + 1, options, text =>
    if text = [] then some options
    else
      (read options text).bind fun result =>
        match text.drop result.2 with
        | [] => parseLoopText read n result.1 []
        | c :: rest => if c ≠ 44 then none else parseLoopText read n result.1 rest

theorem parseOptionsLoop_eq {read : TextHandler} (reads : Reads (firstOption table) read) (n : Nat)
    (options : PubKeyOptions) (buf : Buffer) :
    parseOptionsLoop table n options buf = .ok (parseLoopText read n options buf.rest) := by
  induction n generalizing options buf with
  | zero => rfl
  | succ n ih =>
    rw [parseOptionsLoop, parseLoopText]
    by_cases nothing : buf.rest = []
    · rw [if_pos nothing, if_neg fun more => Buffer.pos_lt_len_iff.1 more nothing]
    · rw [if_neg nothing, if_pos (Buffer.pos_lt_len_iff.2 nothing), reads, Except.ok_bind]
      cases read options buf.rest with
      | none => rfl
      | some result =>
        obtain ⟨options', k⟩ := result
        dsimp only [Option.map_some, Option.bind_some]
        cases behind : buf.rest.drop k with
        | nil =>
          have used : (buf.skip k).rest = [] := (buf.rest_skip k).trans behind
          rw [if_neg fun more => Buffer.pos_lt_len_iff.1 more used, ih, used]
        | cons c tail =>
          have here : (buf.skip k).rest = c :: tail := (buf.rest_skip k).trans behind
          rw [if_pos (Buffer.pos_lt_len_iff.2 (by rw [here]; nofun)),
            bufGetbyte_of_rest here, Except.ok_bind]
          dsimp only
          split
          · rfl
          · rw [ih, Buffer.rest_skip_one here]

/-! ## The parser -/

def flagTextEntry (features : Features) (name : FlagName) : Bytes × TextHandler :=
  (name.text, flagText fun options => name.set features options)

def textTable (features : Features) (einval : Bool) : List (Bytes × TextHandler) :=
  [flagTextEntry features .noPortForwarding,
    flagTextEntry features .noAgentForwarding,
    flagTextEntry features .noX11Forwarding,
    flagTextEntry features .noPty,
    flagTextEntry features .restrict,
    (ascii "command=\"", commandText),
    (ascii "permitopen=\"", entryText (permitopenEntry einval) appendPermitOpen),
    (ascii "permitlisten=\"", entryText (permitlistenEntry einval) appendPermitListen),
    flagTextEntry features .noTouchRequired,
    flagTextEntry features .verifyRequired]

/-- The options that a text denotes, or `none` where it is refused. -/
def optionsOfText (features : Features) (einval : Bool) (text : Bytes) : Option PubKeyOptions :=
  parseLoopText (firstText (textTable features einval)) text.length {} text

theorem reads_optionTable (features : Features) (einval : Bool) :
    Reads (firstOption (optionTable features einval)) (firstText (textTable features einval)) := by
  have flag : ∀ name : FlagName, (flagEntry features name).1 = (flagTextEntry features name).1 ∧
      Reads (flagEntry features name).2 (flagTextEntry features name).2 :=
    fun name => ⟨rfl, reads_flagOption _⟩
  apply reads_firstOption
  exact .cons (flag _) <| .cons (flag _) <| .cons (flag _) <| .cons (flag _) <| .cons (flag _) <|
    .cons ⟨rfl, reads_commandOption⟩ <| .cons ⟨rfl, reads_entryOption _ _⟩ <|
    .cons ⟨rfl, reads_entryOption _ _⟩ <| .cons (flag _) <| .cons (flag _) .nil

/-- **The parser is a function of the options text**, and never ends the process. -/
theorem svrParsePubkeyOptionsBuf_eq (features : Features) (einval : Bool) (optionsBuf : Buffer) :
    svrParsePubkeyOptionsBuf features einval (some optionsBuf) =
      .ok (optionsOfText features einval optionsBuf.contents) := by
  obtain ⟨start, moved, data, len, pos⟩ := exists_bufSetpos optionsBuf 0 (Nat.zero_le _)
  have rest : start.rest = optionsBuf.contents := by
    rw [Buffer.rest, pos, List.drop_zero, Buffer.contents, data, len]
    rfl
  have length : left start = optionsBuf.contents.length := by
    rw [left, ← Buffer.length_rest, rest]
  rw [svrParsePubkeyOptionsBuf, moved, Except.ok_bind,
    parseOptionsLoop_eq (reads_optionTable features einval), rest, length, optionsOfText]

theorem parseText_eq (features : Features) (einval : Bool) (short : text.length ≤ bufMaxSize) :
    parseText features einval (some text) = .ok (optionsOfText features einval text) := by
  obtain ⟨new, made, data, len, pos⟩ := exists_bufNew text.length short
  have room : new.len + text.length ≤ new.data.length := by
    rw [data, List.length_replicate]
    omega
  obtain ⟨written, wrote, appended⟩ := appends_bufPutbytes text new (pos.trans len.symm) room
  have nothing : new.contents = [] :=
    List.eq_nil_of_length_eq_zero (by rw [new.length_contents, len])
  have contents : written.contents = text := by
    rw [appended.contents, nothing, List.nil_append]
  rw [parseText, made, Except.ok_bind]
  dsimp only at wrote
  rw [wrote, Except.ok_bind, svrParsePubkeyOptionsBuf_eq, contents]

theorem parsePubkeyOptions_some (features : Features) (einval : Bool)
    (short : text.length ≤ bufMaxSize) :
    parsePubkeyOptions features einval (some text) = optionsOfText features einval text := by
  rw [parsePubkeyOptions, parseText_eq features einval short]
  rfl

end Auth

end Dropbear
