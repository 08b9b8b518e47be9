/-
# The lines of the authorized_keys file

`buf_getline` reads a file line by line into a buffer of fixed size.  A line that
does not fit is given up when the buffer is full, and what is left of it is read
as the next line.  So the lines that are read are those of the file exactly if all
of them are shorter than the buffer.
-/

import Dropbear.Auth.AcceptedLine
import Dropbear.Buffer.Append

namespace Dropbear.Auth

open Program Signkey

/-! ## The lines of a file -/

/-- A line ends at either of these characters. -/
def isLineEnd (c : UInt8) : Bool := c = 10 || c = 13

/-- The physical lines, from `current` which has been read already. -/
def linesFrom (current : Bytes) : Bytes → List Bytes
  | [] => if current = [] then [] else [current]
  | c :: file =>
    if isLineEnd c then current :: linesFrom [] file else linesFrom (current ++ [c]) file

/-- The physical lines of a file.  The last one may have no line end. -/
def physicalLines (file : Bytes) : List Bytes := linesFrom [] file

/-- Text of one line, without a line end. -/
def NoLineEnd (text : Bytes) : Prop := ∀ c ∈ text, isLineEnd c = false

instance (text : Bytes) : Decidable (NoLineEnd text) :=
  inferInstanceAs (Decidable (∀ c ∈ text, isLineEnd c = false))

variable {text : Bytes}

theorem linesFrom_append (noEnd : NoLineEnd text) (current file : Bytes) :
    linesFrom current (text ++ file) = linesFrom (current ++ text) file := by
  induction text generalizing current with
  | nil => simp
  | cons c text ih =>
    have here := noEnd c (.head _)
    rw [List.cons_append, linesFrom, here, if_neg (by simp),
      ih (fun d there => noEnd d (.tail _ there)), List.append_assoc]
    rfl

/-- What is left of a file behind a line: nothing, or a line end and more. -/
inductive BehindLine : Bytes → Bytes → Prop where
  | nothing : BehindLine [] []
  | lineEnd {c : UInt8} (isEnd : isLineEnd c) (file : Bytes) : BehindLine (c :: file) file

variable {behind file : Bytes}

theorem BehindLine.length_lt (isBehind : BehindLine behind file) (nonempty : text ++ behind ≠ []) :
    file.length < (text ++ behind).length := by
  cases isBehind with
  | nothing => exact List.length_pos_iff.2 nonempty
  | lineEnd isEnd file =>
    rw [List.length_append, List.length_cons]
    omega

/-- The first line of a file. -/
theorem exists_firstLine (file : Bytes) :
    ∃ text behind file', file = text ++ behind ∧ NoLineEnd text ∧ BehindLine behind file' := by
  induction file with
  | nil => exact ⟨[], [], [], rfl, nofun, .nothing⟩
  | cons c file ih =>
    cases ends : isLineEnd c with
    | true => exact ⟨[], c :: file, file, rfl, nofun, .lineEnd ends file⟩
    | false =>
      obtain ⟨text, behind, file', rfl, noEnd, isBehind⟩ := ih
      refine ⟨c :: text, behind, file', rfl, ?_, isBehind⟩
      intro d there
      rcases List.mem_cons.1 there with rfl | there
      · exact ends
      · exact noEnd d there

theorem physicalLines_append (noEnd : NoLineEnd text) (isBehind : BehindLine behind file) :
    physicalLines (text ++ behind) =
      if text ++ behind = [] then [] else text :: physicalLines file := by
  rw [physicalLines, linesFrom_append noEnd, List.nil_append]
  cases isBehind with
  | nothing =>
    rw [linesFrom, List.append_nil]
    rfl
  | lineEnd isEnd file =>
    rw [linesFrom, if_pos isEnd, if_neg (by simp)]
    rfl

/-! ## Reading one line -/

variable {line : Buffer}

/-- Text of one line is put into the buffer as long as there is room. -/
theorem getlineLoop_append (noEnd : NoLineEnd text) (file : Bytes) (atEnd : line.pos = line.len)
    (room : line.len + text.length ≤ line.data.length) :
    ∃ line', getlineLoop (text ++ file) line = getlineLoop file line' ∧
      line'.data = overwrite line.data line.len text ∧ line'.len = line.len + text.length ∧
        line'.pos = line'.len := by
  induction text generalizing line with
  | nil =>
    refine ⟨line, rfl, ?_, rfl, atEnd⟩
    simp [overwrite]
  | cons c text ih =>
    rw [List.length_cons] at room
    have here : line.pos + [c].length ≤ line.data.length := by
      rw [List.length_singleton]
      omega
    obtain ⟨next, put, stored⟩ := (puts_bufPutbyte c line).exists_ok here
    have put : bufPutbyte line c = .ok next := put
    obtain ⟨_, atEnd', size⟩ := stored.appended atEnd
    have data := stored.data
    have len : next.len = line.len + 1 := (stored.appended atEnd).len
    obtain ⟨line', read, data', len', atEnd''⟩ :=
      ih (fun d there => noEnd d (.tail _ there)) atEnd' (by omega)
    have other : ¬ (c = 10 ∨ c = 13) := by
      have := noEnd c (.head _)
      simpa [isLineEnd] using this
    refine ⟨line', ?_, ?_, by rw [len', len, List.length_cons]; omega, atEnd''⟩
    · rw [List.cons_append, getlineLoop, if_pos (by omega), if_neg other, put, Except.ok_bind, read]
    · rw [data', data, len, atEnd]
      exact overwrite_overwrite (by rw [List.length_singleton]; omega)

/-- `bufGetline` starts with an empty buffer. -/
theorem bufGetline_eq (line : Buffer) (file : Bytes) :
    ∃ start, start.data = line.data ∧ start.len = 0 ∧ start.pos = 0 ∧
      bufGetline line file =
        (getlineLoop file start >>= fun result =>
          if result.2.2 ∧ result.1.pos = 0 then pure (none, result.2.1)
          else bufSetpos result.1 0 >>= fun line => pure (some line, result.2.1)) := by
  obtain ⟨rewound, moved, data, _, pos⟩ := exists_bufSetpos line 0 (Nat.zero_le _)
  obtain ⟨start, emptied, data', len', pos'⟩ := exists_bufSetlen rewound 0 (Nat.zero_le _)
  refine ⟨start, data'.trans data, len', by omega, ?_⟩
  rw [bufGetline, moved, Except.ok_bind, emptied, Except.ok_bind]

/-- A line that has been read into the buffer. -/
structure Holds (line : Buffer) (data text : Bytes) : Prop where
  data : line.data = overwrite data 0 text
  len : line.len = text.length
  pos : line.pos = 0

/-- A line shorter than the buffer is read as it is. -/
theorem bufGetline_short (line : Buffer) (noEnd : NoLineEnd text)
    (isBehind : BehindLine behind file) (short : text.length < line.data.length) :
    (text ++ behind = [] ∧ bufGetline line (text ++ behind) = .ok (none, [])) ∨
      text ++ behind ≠ [] ∧ ∃ line', bufGetline line (text ++ behind) = .ok (some line', file) ∧
        Holds line' line.data text := by
  obtain ⟨start, data, len, pos, begun⟩ := bufGetline_eq line (text ++ behind)
  obtain ⟨read, looped, data', len', pos'⟩ := getlineLoop_append noEnd behind (pos.trans len.symm)
    (by rw [data, len]; omega)
  have room : read.pos < read.data.length := by
    rw [data', length_overwrite (by rw [len, data]; omega), data, pos', len', len]
    omega
  have stored : read.data = overwrite line.data 0 text := by rw [data', data, len]
  have counted : read.len = text.length := by rw [len', len, Nat.zero_add]
  rw [begun, looped]
  obtain ⟨back, moved, data₂, len₂, pos₂⟩ := exists_bufSetpos read 0 (Nat.zero_le _)
  have holds : Holds back line.data text := ⟨data₂.trans stored, len₂.trans counted, pos₂⟩
  cases isBehind with
  | nothing =>
    rw [getlineLoop, if_pos room, Except.ok_bind]
    by_cases empty : text = []
    · subst empty
      exact .inl ⟨rfl, by rw [if_pos ⟨rfl, pos'.trans counted⟩]; rfl⟩
    · have some' : read.pos ≠ 0 := by
        rw [pos', counted]
        exact Nat.ne_of_gt (List.length_pos_iff.2 empty)
      refine .inr ⟨by simpa using empty, back, ?_, holds⟩
      rw [if_neg (fun both => some' both.2), moved]
      rfl
  | @lineEnd c isEnd file =>
    have ends : c = 10 ∨ c = 13 := by simpa [isLineEnd] using isEnd
    refine .inr ⟨by simp, back, ?_, holds⟩
    rw [getlineLoop, if_pos room, if_pos ends, Except.ok_bind, if_neg (by simp), moved]
    rfl

/-- If the text fills the buffer, an empty line is returned, and what follows is left
for the next line. -/
theorem bufGetline_full (line : Buffer) (noEnd : NoLineEnd text)
    (full : text.length = line.data.length) (file : Bytes) :
    ∃ line', bufGetline line (text ++ file) = .ok (some line', file) ∧ line'.data = text ∧
      line'.len = 0 ∧ line'.pos = 0 := by
  obtain ⟨start, data, len, pos, begun⟩ := bufGetline_eq line (text ++ file)
  obtain ⟨read, looped, data', len', pos'⟩ := getlineLoop_append noEnd file (pos.trans len.symm)
    (by rw [data, len]; omega)
  have stored : read.data = text := by
    rw [data', data, len, overwrite, List.take_zero, List.nil_append, full, Nat.zero_add,
      List.drop_length, List.append_nil]
  have noRoom : ¬ read.pos < read.data.length := by
    rw [stored, pos', len', len]
    omega
  obtain ⟨emptied, cleared, data₂, len₂, pos₂⟩ := exists_bufSetlen read 0 (Nat.zero_le _)
  obtain ⟨back, moved, data₃, len₃, pos₃⟩ := exists_bufSetpos emptied 0 (Nat.zero_le _)
  refine ⟨back, ?_, by rw [data₃, data₂, stored], by omega, pos₃⟩
  rw [begun, looped]
  cases file with
  | nil =>
    rw [getlineLoop, if_neg noRoom, cleared, Except.ok_bind, pure_bind, if_neg (by simp), moved]
    rfl
  | cons c file =>
    rw [getlineLoop, if_neg noRoom, cleared, Except.ok_bind, pure_bind, if_neg (by simp), moved]
    rfl

/-! ## Reading a file -/

/-- The successive results of `buf_getline` up to the end of the file. -/
def readLines : Nat → Buffer → Bytes → Except Exit (List Bytes)
  | 0, _, _ => .ok []
  | n + 1, line, file => do
    match ← bufGetline line file with
    | (none, _) => pure []
    | (some line, file) => do
      let more ← readLines n line file
      pure (line.contents :: more)

/-- What is asked for: a line that fits the buffer is returned whole, and an
over-long one as an empty line. -/
def wholeOrEmpty (size : Nat) (text : Bytes) : Bytes := if text.length ≤ size then text else []

theorem readLines_cons {n : Nat} {line' : Buffer} {file' : Bytes} {more : List Bytes}
    (read : bufGetline line file = .ok (some line', file'))
    (rest : readLines n line' file' = .ok more) :
    readLines (n + 1) line file = .ok (line'.contents :: more) := by
  rw [readLines, read, Except.ok_bind]
  dsimp only
  rw [rest]
  rfl

theorem Holds.contents {data : Bytes} (holds : Holds line data text)
    (short : text.length ≤ data.length) : line.contents = text := by
  have inside : 0 + text.length ≤ data.length := by rwa [Nat.zero_add]
  have front := take_overwrite_end inside
  rw [Buffer.contents, holds.data, holds.len]
  simpa using front

/-- Taking a beginning off a line leaves the lines behind it, and what is left of
the line itself. -/
theorem length_physicalLines_le {rest : Bytes} (noEnd : NoLineEnd rest)
    (isBehind : BehindLine behind file) :
    (physicalLines file).length + (if rest = [] then 0 else 1) ≤
      (physicalLines (rest ++ behind)).length := by
  rw [physicalLines_append noEnd isBehind]
  by_cases empty : rest = []
  · subst empty
    cases isBehind with
    | nothing => exact Nat.le_refl _
    | lineEnd isEnd file => simp
  · rw [if_neg empty, if_neg (by simp [empty])]
    exact Nat.le_refl _

/-- **The lines that are read are those of the file exactly if all of them are
shorter than the buffer.** -/
theorem readLines_spec (n : Nat) {size : Nat} (sized : line.data.length = size)
    (positive : 0 < size) (enough : file.length < n) :
    ∃ results, readLines n line file = .ok results ∧
      (physicalLines file).length ≤ results.length ∧
        (results = (physicalLines file).map (wholeOrEmpty size) ↔
          ∀ text ∈ physicalLines file, text.length < size) := by
  induction n generalizing line file with
  | zero => exact absurd enough (Nat.not_lt_zero _)
  | succ n ih =>
    obtain ⟨text, behind, file', rfl, noEnd, isBehind⟩ := exists_firstLine file
    have lines := physicalLines_append noEnd isBehind
    by_cases short : text.length < size
    · rcases bufGetline_short line noEnd isBehind (by rwa [sized]) with
        ⟨empty, read⟩ | ⟨nonempty, line', read, holds⟩
      · rw [lines, if_pos empty]
        refine ⟨[], by rw [readLines, read]; rfl, Nat.le_refl _, by simp⟩
      · have whole : line'.contents = text := holds.contents (by omega)
        have sized' : line'.data.length = size := by
          rw [holds.data, length_overwrite (by omega), sized]
        have fewer := Nat.lt_of_lt_of_le (isBehind.length_lt nonempty) (Nat.le_of_lt_succ enough)
        obtain ⟨more, rest, count, same⟩ := ih sized' fewer
        refine ⟨text :: more, by rw [readLines_cons read rest, whole], ?_, ?_⟩
        · rw [lines, if_neg nonempty]
          exact Nat.succ_le_succ count
        · rw [lines, if_neg nonempty, List.map_cons, wholeOrEmpty, if_pos (Nat.le_of_lt short),
            List.cons.injEq, same]
          simp [short]
    · -- the buffer is filled by a beginning of the line
      obtain ⟨chunk, left, rfl, chunkLength⟩ : ∃ chunk left, text = chunk ++ left ∧
          chunk.length = size :=
        ⟨text.take size, text.drop size, (List.take_append_drop size text).symm,
          by rw [List.length_take]; omega⟩
      have noEnd' : NoLineEnd left := fun c there => noEnd c (List.mem_append_right _ there)
      obtain ⟨line', read, data, len, _⟩ := bufGetline_full line
        (fun c there => noEnd c (List.mem_append_left _ there)) (chunkLength.trans sized.symm)
        (left ++ behind)
      rw [← List.append_assoc] at read
      have nothing : line'.contents = [] := by
        apply List.eq_nil_of_length_eq_zero
        rw [Buffer.length_contents, len]
      have fewer : (left ++ behind).length < n := by
        simp only [List.length_append] at enough ⊢
        omega
      obtain ⟨more, rest, count, _⟩ := ih (by rw [data, chunkLength]) fewer
      have behindCount := length_physicalLines_le noEnd' isBehind
      have nonempty : chunk ++ left ++ behind ≠ [] := by
        intro empty
        have := congrArg List.length empty
        simp only [List.length_append, List.length_nil] at this
        omega
      refine ⟨[] :: more, by rw [readLines_cons read rest, nothing], ?_, ?_⟩
      · rw [lines, if_neg nonempty, List.length_cons, List.length_cons]
        omega
      · rw [lines, if_neg nonempty, List.map_cons, List.cons.injEq]
        constructor
        · rintro ⟨first, others⟩
          by_cases exact : left = []
          · subst exact
            rw [List.append_nil] at first
            rw [wholeOrEmpty, if_pos (Nat.le_of_eq chunkLength)] at first
            rw [← first, List.length_nil] at chunkLength
            omega
          · -- one more line is read than there is
            have tooMany := congrArg List.length others
            rw [if_neg exact] at behindCount
            rw [List.length_map] at tooMany
            omega
        · intro allShort
          exact absurd (allShort _ (.head _)) short

/-- A line is returned from its start. -/
theorem pos_of_bufGetline {line' : Buffer} {file' : Bytes}
    (returned : bufGetline line file = .ok (some line', file')) : line'.pos = 0 := by
  obtain ⟨start, _, _, _, begun⟩ := bufGetline_eq line file
  rw [begun] at returned
  obtain ⟨⟨read, left, eof⟩, _, returned⟩ := Except.bind_eq_ok.1 returned
  dsimp only at returned
  split at returned
  · cases returned
  · obtain ⟨back, moved, same⟩ := Except.bind_eq_ok.1 returned
    cases same
    exact (bufSetpos_eq_ok.1 moved).2.2.2

/-- A key is accepted from one of the lines that are read. -/
theorem exists_readLine_of_checkpubkeyLoop {parse : ParseOptions} {algo keyblob : Bytes}
    {options : PubKeyOptions} {n : Nat} {results : List Bytes}
    (accepted : checkpubkeyLoop parse algo keyblob n line file = .ok (some options))
    (read : readLines n line file = .ok results) :
    ∃ text ∈ results, AcceptsLine parse algo keyblob text options := by
  induction n generalizing line file results with
  | zero => cases accepted
  | succ n ih =>
    rw [checkpubkeyLoop] at accepted
    rw [readLines] at read
    obtain ⟨⟨line', file'⟩, got, accepted⟩ := Except.bind_eq_ok.1 accepted
    rw [got, Except.ok_bind] at read
    cases line' with
    | none => cases accepted
    | some line' =>
      obtain ⟨more, rest, same⟩ := Except.bind_eq_ok.1 read
      cases same
      obtain ⟨answer, checked, accepted⟩ := Except.bind_eq_ok.1 accepted
      cases answer with
      | none =>
        obtain ⟨text, there, accepts⟩ := ih accepted rest
        exact ⟨text, .tail _ there, accepts⟩
      | some options' =>
        cases accepted
        have accepts := checkpubkeyLine_spec checked
        rw [Buffer.rest, pos_of_bufGetline got, List.drop_zero] at accepts
        exact ⟨line'.contents, .head _, accepts⟩

theorem readLines_of_short {n : Nat} (sized : line.data.length = maxAuthkeysLine)
    (allShort : ∀ text ∈ physicalLines file, text.length < maxAuthkeysLine)
    (enough : file.length < n) :
    readLines n line file = .ok ((physicalLines file).map (wholeOrEmpty maxAuthkeysLine)) := by
  obtain ⟨results, read, _, same⟩ := readLines_spec n sized (by decide) enough
  rw [read, same.2 allShort]

/-- If no line is too long, a key is only accepted from a whole one. -/
theorem exists_physicalLine_of_checkpubkey {parse : ParseOptions} {algo keyblob : Bytes}
    {options : PubKeyOptions}
    (allShort : ∀ text ∈ physicalLines file, text.length < maxAuthkeysLine)
    (accepted : checkpubkey parse algo keyblob file = .ok (some options)) :
    ∃ text ∈ physicalLines file, AcceptsLine parse algo keyblob text options := by
  obtain ⟨line, made, data, _, _⟩ := exists_bufNew maxAuthkeysLine (by decide)
  have sized : line.data.length = maxAuthkeysLine := by rw [data, List.length_replicate]
  rw [checkpubkey, made, Except.ok_bind] at accepted
  obtain ⟨_, there, accepts⟩ := exists_readLine_of_checkpubkeyLoop accepted
    (readLines_of_short sized allShort (Nat.lt_succ_self _))
  obtain ⟨text, isLine, rfl⟩ := List.mem_map.1 there
  rw [wholeOrEmpty, if_pos (Nat.le_of_lt (allShort text isLine))] at accepts
  exact ⟨text, isLine, accepts⟩

/-- **The lines of a file are intact exactly if each is shorter than the buffer.**
They are read one by one as they are, over-long ones as empty lines, and a key is
only accepted from a whole line, with the options that stand before it there. -/
theorem linesIntact_iff (file : Bytes) :
    ((∃ line, bufNew maxAuthkeysLine = .ok line ∧ ∀ n, file.length < n →
        readLines n line file =
          .ok ((physicalLines file).map (wholeOrEmpty maxAuthkeysLine))) ∧
      ∀ parse algo keyblob options, checkpubkey parse algo keyblob file = .ok (some options) →
        ∃ text ∈ physicalLines file, AcceptsLine parse algo keyblob text options) ↔
      ∀ text ∈ physicalLines file, text.length < maxAuthkeysLine := by
  obtain ⟨line, made, data, _, _⟩ := exists_bufNew maxAuthkeysLine (by decide)
  have sized : line.data.length = maxAuthkeysLine := by rw [data, List.length_replicate]
  constructor
  · rintro ⟨⟨line', made', intact⟩, _⟩
    cases made.symm.trans made'
    obtain ⟨results, read, _, same⟩ :=
      readLines_spec (file.length + 1) sized (by decide) (Nat.lt_succ_self _)
    exact same.1 (Except.ok.inj (read.symm.trans (intact _ (Nat.lt_succ_self _))))
  · intro allShort
    exact ⟨⟨line, made, fun n => readLines_of_short sized allShort⟩,
      fun parse algo keyblob options => exists_physicalLine_of_checkpubkey allShort⟩

/-! ## A line that is too long

The line forces a command, and is one byte longer than the buffer in front of the
key. -/

def forcedCommand : Bytes := ascii "command=\"" ++ List.replicate 4189 97 ++ ascii "\" "

def keyText : Bytes := ascii "ssh-ed25519 AAAAC3NzaC1lZDI1NTE5"

/-- An options parser that refuses all options, and gives none. -/
def parseNone : ParseOptions
  | none => some {}
  | some _ => none

def keyTextBuffer : Buffer where
  data := overwrite forcedCommand 0 keyText
  len := keyText.length
  pos := 0
  pos_le_len := Nat.zero_le _
  len_le_size := by decide +kernel
  size_le_max := by decide +kernel

theorem noLineEnd_forcedCommand : NoLineEnd forcedCommand := by
  have quote : NoLineEnd (ascii "command=\"") := by decide +kernel
  have unquote : NoLineEnd (ascii "\" ") := by decide +kernel
  intro c there
  rcases List.mem_append.1 there with there | there
  · rcases List.mem_append.1 there with there | there
    · exact quote c there
    · rw [List.eq_of_mem_replicate there]
      rfl
  · exact unquote c there

theorem noLineEnd_keyText : NoLineEnd keyText := by decide +kernel

theorem checkpubkeyLine_keyTextBuffer :
    checkpubkeyLine parseNone keyTextBuffer (ascii "ssh-ed25519") (wireString (ascii "ssh-ed25519")) =
      .ok (some {}) := by
  decide +kernel

/-- The key is accepted without the command. -/
theorem linesIntact_forcedCommand :
    physicalLines (forcedCommand ++ keyText) = [forcedCommand ++ keyText] ∧
      checkpubkey parseNone (ascii "ssh-ed25519") (wireString (ascii "ssh-ed25519"))
          (forcedCommand ++ keyText) =
        .ok (some {}) := by
  have noEnd : NoLineEnd (forcedCommand ++ keyText) := by
    intro c there
    rcases List.mem_append.1 there with there | there
    · exact noLineEnd_forcedCommand c there
    · exact noLineEnd_keyText c there
  constructor
  · have lines := physicalLines_append noEnd .nothing
    rw [List.append_nil] at lines
    have nonempty : keyText ≠ [] := by decide +kernel
    rw [lines, if_neg (by simp [nonempty])]
    rfl
  · obtain ⟨line, made, data, _, _⟩ := exists_bufNew maxAuthkeysLine (by decide)
    have full : forcedCommand.length = line.data.length := by
      rw [data, List.length_replicate]
      decide +kernel
    obtain ⟨first, read, data', len', _⟩ := bufGetline_full line noLineEnd_forcedCommand full keyText
    have ignored : checkpubkeyLine parseNone first (ascii "ssh-ed25519")
        (wireString (ascii "ssh-ed25519")) = .ok none := by
      rw [checkpubkeyLine, if_pos (.inl (by rw [len']; decide))]
    rcases bufGetline_short first noLineEnd_keyText .nothing
        (by rw [data']; decide +kernel) with ⟨empty, _⟩ | ⟨_, second, read', holds⟩
    · cases empty
    · rw [List.append_nil] at read'
      have second_eq : second = keyTextBuffer :=
        Buffer.ext (holds.data.trans (by rw [data']; rfl)) holds.len holds.pos
      have keyLength : keyText.length = 32 := by decide +kernel
      have more : (forcedCommand ++ keyText).length = forcedCommand.length + 31 + 1 := by
        rw [List.length_append, keyLength]
      rw [checkpubkey, made, Except.ok_bind, more, checkpubkeyLoop, read, Except.ok_bind]
      dsimp only
      rw [ignored, Except.ok_bind]
      dsimp only
      rw [checkpubkeyLoop, read', Except.ok_bind]
      dsimp only
      rw [second_eq, checkpubkeyLine_keyTextBuffer]
      rfl

end Dropbear.Auth
